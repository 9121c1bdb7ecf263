import ProcessDiagram.Process.Error

/-! What became of a flow: counts, and an issue for every entry that was not drawn. -/
namespace ProcessDiagram

structure Issue where
  index : Nat
  error : DescriptionError
deriving DecidableEq, Repr

def Issue.message (i : Issue) : String :=
  "elemento " ++ toString i.index ++ ": " ++ i.error.message

structure Report where
  /-- The description has no flow. -/
  flowMissing : Bool := false
  /-- Entries of the flow, failing ones included. -/
  total : Nat := 0
  compiled : Nat := 0
  /-- Edges between consecutive elements. -/
  links : Nat := 0
  /-- Distinct tasks drawn. -/
  tasks : Nat := 0
  /-- Ids in use. -/
  ids : Nat := 0
  /-- How many ids needed a suffix. -/
  collisions : Nat := 0
  issues : List Issue := []
deriving DecidableEq, Repr, Inhabited

namespace Report

def hasIssues (r : Report) : Bool := !r.issues.isEmpty

/-- Nothing of the flow is drawn. -/
def isEmpty (r : Report) : Bool := r.compiled == 0

def lines (r : Report) : List String :=
  (if r.flowMissing then ["sin clave 'flow': diagrama sólo con leyenda"] else []) ++
  ["elementos compilados: " ++ toString r.compiled ++ "/" ++ toString r.total,
   "enlaces de secuencia: " ++ toString r.links,
   "tareas: " ++ toString r.tasks ++ ", ids: " ++ toString r.ids ++
     " (" ++ toString r.collisions ++ " con sufijo)"] ++
  r.issues.map fun i => "  - " ++ i.message

def text (r : Report) : String := String.join (r.lines.map (· ++ "\n"))

def toJson (r : Report) : Json :=
  .object [
    ("flow_missing", .bool r.flowMissing),
    ("total", Json.ofNat r.total),
    ("compiled", Json.ofNat r.compiled),
    ("links", Json.ofNat r.links),
    ("tasks", Json.ofNat r.tasks),
    ("ids", Json.ofNat r.ids),
    ("collisions", Json.ofNat r.collisions),
    ("issues", .array (r.issues.map fun i =>
      .object [("index", Json.ofNat i.index), ("error", .string i.error.message)]))]

end Report

end ProcessDiagram
