import ProcessDiagram.Process.Description

/-! Where a flow mentions its tasks. -/
namespace ProcessDiagram

def validElements (entries : List Entry) : List FlowElement := entries.filterMap Except.toOption

/-- Entries with a slot of their own: all but those without type. -/
def slotted (entries : List Entry) : List Entry :=
  entries.filter fun
    | .ok _ => true
    | .error e => !e.isUntyped

theorem filterMap_slotted (entries : List Entry) :
    (slotted entries).filterMap Except.toOption = validElements entries := by
  induction entries with
  | nil => rfl
  | cons entry rest ih =>
    simp only [slotted, validElements] at ih ⊢
    cases entry with
    | ok e => simp [Except.toOption, ih]
    | error e => cases h : e.isUntyped <;> simp [List.filterMap_cons, Except.toOption, h, ih]

/-- A mention gives a name and the label to draw if the task is new. -/
def TaskRef.mention (t : TaskRef) : String × String := (t.taskName, t.label)

namespace FlowElement

def innerMentions : FlowElement → List (String × String)
  | .gateway g => g.branches.flatMap fun b => b.tasks.map TaskRef.mention
  | .loop l => l.tasks.map TaskRef.mention
  | _ => []

def mentions : FlowElement → List (String × String)
  | .task t => [(t.name, t.label)]
  | e => e.innerMentions

end FlowElement

def taskMentions (entries : List Entry) : List (String × String) :=
  (validElements entries).flatMap FlowElement.mentions

def innerMentions (entries : List Entry) : List (String × String) :=
  (validElements entries).flatMap FlowElement.innerMentions

def isTask (name : String) : Entry → Bool
  | .ok (.task t) => t.name = name
  | _ => false

/-- How often a task of the name comes right after a slot that is filled. -/
def entered (name : String) (slots : List Entry) : Nat :=
  (slots.zip slots.tail).countP fun (before, entry) => before.toBool && isTask name entry

theorem entered_cons (name : String) (before entry : Entry) (rest : List Entry) :
    entered name (before :: entry :: rest) =
      entered name (entry :: rest) + if before.toBool && isTask name entry then 1 else 0 := by
  simp only [entered, List.tail_cons, List.zip_cons_cons, List.countP_cons]

end ProcessDiagram
