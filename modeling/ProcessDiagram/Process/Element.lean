import ProcessDiagram.Json.Printer
import ProcessDiagram.Text.LetterCase

/-! The elements of a process: events, tasks, gateways and loops. -/
namespace ProcessDiagram

inductive ElementKind where
  | event
  | task
  | gateway
  | loop
deriving DecidableEq, Repr

namespace ElementKind

def name : ElementKind → String
  | .event => "evento"
  | .task => "tarea"
  | .gateway => "pasarela"
  | .loop => "bucle"

def ofWord? : String → Option ElementKind
  | "evento" => some .event
  | "event" => some .event
  | "tarea" => some .task
  | "task" => some .task
  | "pasarela" => some .gateway
  | "gateway" => some .gateway
  | "bucle" => some .loop
  | "loop" => some .loop
  | _ => none

/-- Letter case does not matter. -/
def ofText? (s : String) : Option ElementKind := ofWord? (Text.lower s)

/-- Fields without which an element cannot be drawn. -/
def requiredFields (_ : ElementKind) : List String := ["name"]

end ElementKind

/-- Events that begin the process, events that end it, and all others. -/
inductive EventClass where
  | start
  | final
  | generic
deriving DecidableEq, Repr

structure Event where
  name : String
  /-- Why the process ends; drawn with final events only. -/
  condition : Option String := none
deriving DecidableEq, Repr

/-- The name tells the class, in either language and in any letter case. -/
def Event.eventClass (e : Event) : EventClass :=
  match Text.lower e.name with
  | "inicio" => .start
  | "start" => .start
  | "fin" => .final
  | "end" => .final
  | _ => .generic

structure Task where
  name : String
  description : Option String := none
deriving DecidableEq, Repr

/-- The description, or else the name. -/
def Task.label (t : Task) : String := t.description.getD t.name

/-- A task mentioned in a branch or a loop: by its name, in full, or by any other value, whose JSON
text is then the name. -/
inductive TaskRef where
  | name (text : String)
  | detailed (task : Task)
  | other (value : Json)
deriving Repr

namespace TaskRef

def taskName : TaskRef → String
  | .name s => s
  | .detailed t => t.name
  | .other v => v.compact

def label : TaskRef → String
  | .name s => s
  | .detailed t => t.label
  | .other v => v.compact

end TaskRef

inductive GatewayKind where
  | xor
  | and
deriving DecidableEq, Repr

namespace GatewayKind

def name : GatewayKind → String
  | .xor => "XOR"
  | .and => "AND"

def ofWord? : String → Option GatewayKind
  | "XOR" => some .xor
  | "AND" => some .and
  | _ => none

/-- Letter case does not matter. -/
def ofText? (s : String) : Option GatewayKind := ofWord? (Text.upper s)

end GatewayKind

structure Branch where
  name : Option String := none
  condition : Option String := none
  tasks : List TaskRef := []
deriving Repr

/-- Empty text is no condition. -/
def Branch.conditionText (b : Branch) : Option String := b.condition.filter (· ≠ "")

structure Gateway where
  name : String
  /-- The type as it was written. -/
  typeText : String := "XOR"
  branches : List Branch := []
deriving Repr

namespace Gateway

def declaredKind (g : Gateway) : Option GatewayKind := GatewayKind.ofText? g.typeText

/-- A gateway that is not exclusive is parallel. -/
def kind (g : Gateway) : GatewayKind := g.declaredKind.getD .and

end Gateway

structure Loop where
  name : String
  condition : Option String := none
  tasks : List TaskRef := []
deriving Repr

def Loop.conditionText (l : Loop) : String := l.condition.getD ""

inductive FlowElement where
  | event (e : Event)
  | task (t : Task)
  | gateway (g : Gateway)
  | loop (l : Loop)
deriving Repr

namespace FlowElement

def kind : FlowElement → ElementKind
  | .event _ => .event
  | .task _ => .task
  | .gateway _ => .gateway
  | .loop _ => .loop

def name : FlowElement → String
  | .event e => e.name
  | .task t => t.name
  | .gateway g => g.name
  | .loop l => l.name

end FlowElement

end ProcessDiagram
