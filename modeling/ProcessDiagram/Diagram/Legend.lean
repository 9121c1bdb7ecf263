import ProcessDiagram.Graph.Basic

/-! The legend, the same in every diagram. -/
namespace ProcessDiagram

namespace Legend

structure Symbol where
  key : String
  text : String
  kind : NodeKind

def symbols : List Symbol := [
  ⟨"task", "Tarea", .task⟩,
  ⟨"xor", "XOR", .xorGateway⟩,
  ⟨"and", "AND", .andGateway⟩,
  ⟨"loop", "Bucle", .loopMarker⟩,
  ⟨"start", "Inicio", .startEvent⟩,
  ⟨"end", "Fin", .endEvent⟩,
  ⟨"condition", "Condición", .condition⟩]

def Symbol.icon (s : Symbol) : String := "icon_" ++ s.key
def Symbol.label (s : Symbol) : String := "label_" ++ s.key

/-- All icons have one size, whatever their shape. -/
def iconStyle (kind : NodeKind) : NodeStyle :=
  { kind.style with
    penWidth := some oneAndHalf
    width := some sixTenths
    height := some fourTenths
    margin := some "0.1,0.1" }

def Symbol.cluster (s : Symbol) : Subgraph :=
  .mk (some ("cluster_" ++ s.key)) [("style", "invis")]
    [⟨s.icon, s.kind.glyph, .legendIcon, iconStyle s.kind⟩, .ofKind s.label s.text .legendLabel]
    [.invisible s.icon s.label] [] []

def spacing : List Symbol → List Edge
  | a :: b :: rest => (Edge.invisible a.icon b.icon).nonConstraining :: spacing (b :: rest)
  | _ => []

def row : Subgraph := .mk none [("rank", "same")] [] [] (symbols.map Symbol.icon) []

end Legend

def legend : Subgraph :=
  .mk (some "cluster_legend")
    [("rank", "sink"), ("label", "Leyenda"), ("style", "rounded"), ("color", "gray"),
      ("fontsize", "15"), ("rankdir", "TB")]
    [] (Legend.spacing Legend.symbols) [] (Legend.symbols.map Legend.Symbol.cluster ++ [Legend.row])

end ProcessDiagram
