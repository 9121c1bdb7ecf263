import ProcessDiagram.Diagram.Drawing
import ProcessDiagram.Diagram.Report
import ProcessDiagram.Process.Description

/-! A flow drawn element by element and linked in sequence. -/
namespace ProcessDiagram

namespace Drawing

/-- Draws the elements in order. An entry without type leaves no slot, any other failing one leaves an
empty slot. -/
def slots : List Entry → Drawing → List (Option Endpoints) × Drawing
  | [], d => ([], d)
  | .ok element :: rest, d =>
    let (ends, d) := d.element element
    let (later, d) := slots rest d
    (some ends :: later, d)
  | .error e :: rest, d =>
    let (later, d) := slots rest d
    (if e.isUntyped then later else none :: later, d)

def joints : List (Option Endpoints) → List Edge
  | some a :: some b :: rest => .flow a.exit b.entry :: joints (some b :: rest)
  | _ :: rest => joints rest
  | [] => []

def flow (entries : List Entry) (d : Drawing) (report : Report) :
    List (Option Endpoints) × Drawing × Report :=
  let (filled, d) := slots entries d
  let edges := joints filled
  (filled, edges.foldl link d,
    { report with
      total := report.total + entries.length
      compiled := report.compiled + (filled.filter Option.isSome).length
      links := report.links + edges.length
      issues := report.issues ++ (failingEntries entries).map fun (i, e) => ⟨i, e⟩ })

end Drawing

/-- The exit of the last element of a flow, if that is an event that was drawn. -/
def trailingEvent (entries : List Entry) (slots : List (Option Endpoints)) : Option String :=
  match entries.getLast?, slots.getLast? with
  | some (.ok (.event _)), some (some ends) => some ends.exit
  | _, _ => none

end ProcessDiagram
