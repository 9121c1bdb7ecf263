import ProcessDiagram.Diagram.Ledger
import ProcessDiagram.Diagram.Registry
import ProcessDiagram.Graph.Basic
import ProcessDiagram.Process.Element

/-! A drawing in progress, and how each element of a process is added to it. -/
namespace ProcessDiagram

/-- The registry issues an id for every node of the canvas; the ledger knows the task nodes. -/
structure Drawing where
  registry : Registry
  ledger : Ledger
  canvas : Subgraph

/-- Where flow enters a drawn element and where it leaves it. -/
structure Endpoints where
  entry : String
  exit : String
deriving DecidableEq, Repr

def Endpoints.single (id : String) : Endpoints := ⟨id, id⟩

def spacerId : String := "spacer"

namespace Drawing

def bare : Drawing := ⟨.empty, .empty, .empty⟩

/-- The id of the spacer is reserved before anything is drawn. -/
def blank : Drawing := { bare with registry := (Registry.empty.reserve spacerId).2 }

def draw (d : Drawing) (key label : String) (kind : NodeKind) (style : NodeStyle := kind.style) :
    String × Drawing :=
  let (id, registry) := d.registry.allocate key
  (id, { d with registry, canvas := d.canvas.addNode ⟨id, label, kind, style⟩ })

def link (d : Drawing) (edge : Edge) : Drawing := { d with canvas := d.canvas.addEdge edge }

/-- Every condition has a node of its own, whatever its text. -/
def condition (d : Drawing) (text key : String) : String × Drawing :=
  d.draw ("condition_" ++ key) text .condition

/-- A task that is drawn already keeps its node and its label. -/
def task (d : Drawing) (name label : String) : String × Drawing :=
  match d.ledger.get? name with
  | some id => (id, d)
  | none =>
    let (id, d) := d.draw name label .task
    (id, { d with ledger := d.ledger.record name id })

/-- Draws tasks one after another from a node on; the last node reached is the result. -/
def chain (cursor : String) : List TaskRef → Drawing → String × Drawing
  | [], d => (cursor, d)
  | t :: rest, d =>
    let (id, d) := d.task t.taskName t.label
    chain id rest (d.link (.flow cursor id))

def eventKind : EventClass → NodeKind
  | .start => .startEvent
  | .final => .endEvent
  | .generic => .genericEvent

/-- The condition of a final event is an annotation beside the flow. -/
def event (d : Drawing) (e : Event) : Endpoints × Drawing :=
  let (id, d) := d.draw ("evento_" ++ e.name) e.name (eventKind e.eventClass)
  match e.eventClass, e.condition with
  | .final, some reason =>
    let (note, d) := d.draw ("fin_label_" ++ e.name) reason .condition
      { NodeStyle.condition with fontSize := some 10 }
    (.single id, d.link (.note id note))
  | _, _ => (.single id, d)

def gatewayNode : GatewayKind → NodeKind
  | .xor => .xorGateway
  | .and => .andGateway

/-- The condition of a branch is drawn at exclusive gateways only. -/
def branchCondition (g : Gateway) (b : Branch) : Option String :=
  if g.kind = .xor then b.conditionText else none

/-- From a node to the merge, unless that edge is there: branches that end in the same task share it. -/
def close (d : Drawing) (cursor merge : String) : Drawing :=
  if d.canvas.edges.any fun e => e.source = cursor && e.target = merge then d
  else d.link (.flow cursor merge)

/-- One branch: from the decision through its condition, if drawn, and its tasks to the merge. -/
def branch (d : Drawing) (g : Gateway) (decision merge : String) (i : Nat) (b : Branch) : Drawing :=
  let (start, d) := match branchCondition g b with
    | some text =>
      let (id, d) := d.condition text ("branch_" ++ g.name ++ "_" ++ toString i)
      (id, d.link (.flow decision id))
    | none => (decision, d)
  let (cursor, d) := chain start b.tasks d
  d.close cursor merge

def branches (g : Gateway) (decision merge : String) : Nat → List Branch → Drawing → Drawing
  | _, [], d => d
  | i, b :: rest, d => branches g decision merge (i + 1) rest (d.branch g decision merge i b)

def gateway (d : Drawing) (g : Gateway) : Endpoints × Drawing :=
  let kind := gatewayNode g.kind
  let (decision, d) := d.draw ("gateway_" ++ g.name) kind.glyph kind
  let (merge, d) := d.draw ("merge_" ++ g.name) kind.glyph kind
  (⟨decision, merge⟩, branches g decision merge 0 g.branches d)

/-- A pair of markers: the start leads through the tasks to the condition, which leads back to the start,
outside the ranking, and on to the end. -/
def loop (d : Drawing) (l : Loop) : Endpoints × Drawing :=
  let (start, d) := d.draw ("loop_start_" ++ l.name) "" .loopMarker
  let (stop, d) := d.draw ("loop_end_" ++ l.name) "" .loopMarker
  let (cursor, d) := chain start l.tasks d
  let (test, d) := d.condition l.conditionText ("loop_cond_" ++ l.name)
  let d := d.link (.flow cursor test)
  let d := d.link (Edge.flow test start).nonConstraining
  (⟨start, stop⟩, d.link (.flow test stop))

def element (d : Drawing) : FlowElement → Endpoints × Drawing
  | .event e => d.event e
  | .task t =>
    let (id, d) := d.task t.name t.label
    (.single id, d)
  | .gateway g => d.gateway g
  | .loop l => d.loop l

end Drawing

end ProcessDiagram
