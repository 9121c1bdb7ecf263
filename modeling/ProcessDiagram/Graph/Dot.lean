import ProcessDiagram.Graph.Basic
import ProcessDiagram.Text.Digest

/-! DOT text of a graph, one statement a line. Every id, label and value is quoted, so that any text
stays on its line. -/
namespace ProcessDiagram

namespace Dot

/-- Quotes, backslashes and line ends are escaped, and nothing else. -/
def escapeChar (c : Char) : List Char :=
  if c = '\\' then ['\\', '\\']
  else if c = '"' then ['\\', '"']
  else if c = '\n' then ['\\', 'n']
  else if c = '\r' then ['\\', 'r']
  else [c]

def quote (s : String) : String :=
  String.ofList ('"' :: s.toList.flatMap escapeChar ++ ['"'])

def assignment (key value : String) : String := key ++ "=" ++ quote value

def assignment? (key : String) (value : Option String) : Option String := value.map (assignment key)

def attributeList (attrs : Attributes) : String :=
  " ".intercalate (attrs.map fun (k, v) => assignment k v)

def indent (depth : Nat) : String := String.ofList (List.replicate (2 * depth) ' ')

def nodeAttributes (node : Node) : List String :=
  assignment "label" node.label :: ("shape=" ++ node.style.shape.text) ::
    [assignment? "style" node.style.style,
     assignment? "fillcolor" node.style.fillColor,
     assignment? "penwidth" (node.style.penWidth.map (·.text)),
     assignment? "width" (node.style.width.map (·.text)),
     assignment? "height" (node.style.height.map (·.text)),
     assignment? "margin" node.style.margin,
     assignment? "fontsize" (node.style.fontSize.map toString),
     assignment? "fontcolor" node.style.fontColor].reduceOption

def edgeAttributes (edge : Edge) : List String :=
  [assignment? "style" edge.style.attribute,
   assignment? "constraint" (if edge.constraint then none else some "false"),
   assignment? "arrowhead" (if edge.arrowhead then none else some "none"),
   assignment? "penwidth" (edge.penWidth.map (·.text))].reduceOption

def nodeStatement (node : Node) : String :=
  quote node.id ++ " [" ++ " ".intercalate (nodeAttributes node) ++ "]"

def edgeStatement (edge : Edge) : String :=
  let ends := quote edge.source ++ " -> " ++ quote edge.target
  match edgeAttributes edge with
  | [] => ends
  | attrs => ends ++ " [" ++ " ".intercalate attrs ++ "]"

/-- The line that opens a child; an unnamed one has a brace alone. -/
def opening : Option String → String
  | some name => "subgraph " ++ quote name ++ " \x7b"
  | none => "\x7b"

mutual

/-- The lines inside a subgraph: attributes, children, nodes, members, edges. -/
def body (depth : Nat) : Subgraph → List String
  | .mk _ attrs nodes edges members children =>
    attrs.map (fun (k, v) => indent depth ++ assignment k v) ++
    bodies depth children ++
    nodes.map (fun n => indent depth ++ nodeStatement n) ++
    members.map (fun id => indent depth ++ quote id) ++
    edges.map (fun e => indent depth ++ edgeStatement e)

def bodies (depth : Nat) : List Subgraph → List String
  | [] => []
  | s :: rest =>
    (indent depth ++ opening s.name) :: body (depth + 1) s ++
      (indent depth ++ "\x7d") :: bodies depth rest

end

def defaults (subject : String) (attrs : Attributes) : List String :=
  if attrs.isEmpty then [] else [indent 1 ++ subject ++ " [" ++ attributeList attrs ++ "]"]

end Dot

namespace Graph

def dotLines (g : Graph) : List String :=
  "digraph \x7b" :: g.attrs.map (fun (k, v) => Dot.indent 1 ++ Dot.assignment k v) ++
    Dot.defaults "node" g.nodeDefaults ++ Dot.defaults "edge" g.edgeDefaults ++
    Dot.body 1 g.root ++ ["\x7d"]

/-- The comment on a line of its own, then the statements; every line ends with a line feed. -/
def toDot (g : Graph) : String :=
  String.join ((("// " ++ g.comment) :: g.dotLines).map (· ++ "\n"))

def fingerprint (g : Graph) : String := Text.Digest.ofString g.toDot

end Graph

end ProcessDiagram
