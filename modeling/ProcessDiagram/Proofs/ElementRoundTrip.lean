import ProcessDiagram.Process.Encoding
import ProcessDiagram.Proofs.ElementForm

/-! Elements written as JSON and read back. The reader gets every element back that it could have read itself, from
fields in any order. -/
namespace ProcessDiagram

open Json

/-- A task in full: an object, or a list of its name and, if it has one, its description. -/
def Json.IsTask : Json → Prop
  | .object fields =>
    ExactlyOne IsScalar (under ["name"] fields) ∧ AtMostOne IsTextOrNull (under ["description"] fields)
  | .array [name] => IsScalar name
  | .array [name, description] => IsScalar name ∧ IsTextOrNull description
  | _ => False

/-- A value stands for itself only if it is neither the name of a task nor a task in full. -/
def TaskRef.Proper : TaskRef → Prop
  | .other v => ¬ v.IsText ∧ ¬ v.IsTask
  | _ => True

def FlowElement.Proper : FlowElement → Prop
  | .gateway g => ∀ b ∈ g.branches, ∀ t ∈ b.tasks, t.Proper
  | .loop l => ∀ t ∈ l.tasks, t.Proper
  | _ => True

inductive TaskRef.Written : TaskRef → Json → Prop
  | name (s : String) : Written (.name s) (.string s)
  | detailed {t : Task} {fields : List (String × Json)} (h : fields.Perm t.fields) :
    Written (.detailed t) (.object fields)
  | other (v : Json) : Written (.other v) v

inductive Branch.Written : Branch → Json → Prop
  | object {b : Branch} {tasks : List Json} {fields : List (String × Json)}
    (htasks : List.Forall₂ TaskRef.Written b.tasks tasks)
    (h : fields.Perm (optionalField "name" b.name ++ (optionalField "condición" b.condition ++
      [("tareas", .array tasks)]))) : Written b (.object fields)

/-- What an element is written as, with the fields of each of its records in any order. -/
inductive FlowElement.Written : FlowElement → Json → Prop
  | event {e : Event} {fields : List (String × Json)} (h : fields.Perm (("type", .string "evento") :: e.fields)) :
    Written (.event e) (.object fields)
  | task {t : Task} {fields : List (String × Json)} (h : fields.Perm (("type", .string "tarea") :: t.fields)) :
    Written (.task t) (.object fields)
  | gateway {g : Gateway} {branches : List Json} {fields : List (String × Json)}
    (hbranches : List.Forall₂ Branch.Written g.branches branches)
    (h : fields.Perm [("type", .string "pasarela"), ("name", .string g.name), ("type_pasarela", .string g.typeText),
      ("ramas", .array branches)]) : Written (.gateway g) (.object fields)
  | loop {l : Loop} {tasks : List Json} {fields : List (String × Json)}
    (htasks : List.Forall₂ TaskRef.Written l.tasks tasks)
    (h : fields.Perm (("type", .string "bucle") :: ("name", .string l.name) ::
      (optionalField "condición" l.condition ++ [("tareas", .array tasks)]))) : Written (.loop l) (.object fields)

namespace Decode

private theorem exists_task_decode {route : Route} {v : Json} : (∃ t, task.decode route v = .ok t) ↔ v.IsTask := by
  cases v with
  | object fields => exact exists_task
  | array items =>
    simp only [RecordFormat.decode, RecordFormat.ofItems_eq_ok_iff, exists_and_left, exists_task]
    rcases items with _ | ⟨name, _ | ⟨description, _ | ⟨_, _⟩⟩⟩ <;>
      simp [task, under, IsTask, ExactlyOne, AtMostOne]
  | _ => simp [RecordFormat.decode, IsTask]

theorem taskRef_detailed {v : Json} {t : Task} (h : task.decode .direct v = .ok t) : taskRef v = .detailed t := by
  cases v with
  | string s => cases h
  | _ => simp only [taskRef, h]

private theorem taskRef_other {v : Json} (hs : ¬ v.IsText) (ht : ¬ v.IsTask) : taskRef v = .other v := by
  cases hd : task.decode .direct v with
  | ok t => exact absurd (exists_task_decode.mp ⟨t, hd⟩) ht
  | error e =>
    cases v with
    | string s => exact absurd trivial hs
    | _ => simp only [taskRef, hd]

/-- A value is kept as it is only if nothing better can be made of it. -/
private theorem taskRef_proper (v : Json) : (taskRef v).Proper := by
  by_cases hs : v.IsText
  · cases v with
    | string s => trivial
    | _ => exact hs.elim
  by_cases ht : v.IsTask
  · obtain ⟨t, ht⟩ := exists_task_decode.mpr ht
    rw [taskRef_detailed ht]
    trivial
  · rw [taskRef_other hs ht]
    exact ⟨hs, ht⟩

section written
variable {keys : List String} {key : String} {value : Option String}

private theorem under_optionalField :
    under keys (optionalField key value) = if key ∈ keys then value.toList.map .string else [] := by
  cases value <;> by_cases h : key ∈ keys <;> simp [optionalField, under, h]

private theorem required_name (s : String) : Required scalarName [.string s] s := ⟨_, rfl, rfl⟩

private theorem given_text (s default : String) : Given text default [.string s] s := .inr ⟨_, rfl, rfl⟩

private theorem given_optionalText (value : Option String) :
    Given optionalText none (value.toList.map .string) value := by
  cases value with
  | none => exact .inl ⟨rfl, rfl⟩
  | some s => exact .inr ⟨_, rfl, rfl⟩

private theorem event_fields (e : Event) : event.ofFields e.fields = .ok e := by
  have hname := required_name e.name
  have hcondition := given_optionalText e.condition
  rw [event_ofFields]
  simpa [Event.fields, under_optionalField, conditionKeys] using ⟨hname, hcondition⟩

private theorem task_fields (t : Task) : task.ofFields t.fields = .ok t := by
  have hname := required_name t.name
  have hdescription := given_optionalText t.description
  rw [task_ofFields]
  simpa [Task.fields, under_optionalField] using ⟨hname, hdescription⟩

private theorem branch_fields {b : Branch} {tasks : List Json} (h : taskRefs (.array tasks) = .ok b.tasks) :
    branch.ofFields (optionalField "name" b.name ++ (optionalField "condición" b.condition ++
      [("tareas", .array tasks)])) = .ok b := by
  have hname := given_optionalText b.name
  have hcondition := given_optionalText b.condition
  have htasks : Given taskRefs [] [.array tasks] b.tasks := .inr ⟨_, rfl, h⟩
  rw [branch_ofFields]
  simpa [under_optionalField, conditionKeys] using ⟨hname, hcondition, htasks⟩

private theorem gateway_fields {g : Gateway} {branches : List Json}
    (h : listOf (branch.decode .direct) (.array branches) = .ok g.branches) :
    (gateway .direct).ofFields [("name", .string g.name), ("type_pasarela", .string g.typeText),
      ("ramas", .array branches)] = .ok g := by
  have hname := required_name g.name
  have htype := given_text g.typeText "XOR"
  have hbranches : Given (listOf (branch.decode .direct)) [] [.array branches] g.branches := .inr ⟨_, rfl, h⟩
  rw [gateway_ofFields]
  simpa using ⟨hname, htype, hbranches⟩

private theorem loop_fields {l : Loop} {tasks : List Json} (h : taskRefs (.array tasks) = .ok l.tasks) :
    loop.ofFields (("name", .string l.name) :: (optionalField "condición" l.condition ++
      [("tareas", .array tasks)])) = .ok l := by
  have hname := required_name l.name
  have hcondition := given_optionalText l.condition
  have htasks : Given taskRefs [] [.array tasks] l.tasks := .inr ⟨_, rfl, h⟩
  rw [loop_ofFields]
  simpa [under_optionalField, conditionKeys] using ⟨hname, hcondition, htasks⟩

end written

end Decode

section read
open Decode

/-- What holds of each item holds of the list. -/
private theorem listOf_written {α : Type} {item : Json → Result α} {Written : α → Json → Prop} {as : List α}
    {items : List Json} (h : List.Forall₂ Written as items)
    (hread : ∀ a ∈ as, ∀ v, Written a v → item v = .ok a) : listOf item (.array items) = .ok as := by
  refine listOf_eq_ok_iff.mpr ⟨items, rfl, ?_⟩
  induction h with
  | nil => exact .nil
  | cons ha _ ih =>
    obtain ⟨hfirst, hread⟩ := List.forall_mem_cons.mp hread
    exact .cons (hfirst _ ha) (ih hread)

private theorem TaskRef.Written.taskRef_eq {t : TaskRef} {v : Json} (h : t.Written v) (hp : t.Proper) :
    Decode.taskRef v = t := by
  cases h with
  | name s => rfl
  | detailed h => exact taskRef_detailed (task_follows.ofFields_perm h.symm (task_fields _))
  | other v => exact taskRef_other hp.1 hp.2

private theorem taskRefs_written {ts : List TaskRef} {items : List Json} (h : List.Forall₂ TaskRef.Written ts items)
    (hp : ∀ t ∈ ts, t.Proper) : taskRefs (.array items) = .ok ts :=
  listOf_written h fun t ht _ hw => congrArg Except.ok (hw.taskRef_eq (hp t ht))

private theorem Branch.Written.decode_eq {b : Branch} {v : Json} (h : b.Written v) (hp : ∀ t ∈ b.tasks, t.Proper) :
    branch.decode .direct v = .ok b := by
  cases h with
  | object htasks h =>
    exact branch_follows.ofFields_perm h.symm (branch_fields (taskRefs_written htasks hp))

private theorem TaskRef.written_toJson (t : TaskRef) : t.Written t.toJson := by
  cases t with
  | name s => exact .name s
  | detailed t => exact .detailed (List.Perm.refl _)
  | other v => exact .other v

private theorem written_tasks (ts : List TaskRef) : List.Forall₂ TaskRef.Written ts (ts.map TaskRef.toJson) :=
  List.forall₂_map_right_iff.mpr (List.forall₂_same.mpr fun t _ => t.written_toJson)

private theorem written_branches (bs : List Branch) :
    List.Forall₂ Branch.Written bs (bs.map fun b => .object b.fields) :=
  List.forall₂_map_right_iff.mpr
    (List.forall₂_same.mpr fun b _ => .object (written_tasks b.tasks) (List.Perm.refl _))

/-- Whatever is in a field that holds a list was read from some item. -/
private theorem exists_item_of_given {α : Type} {item : Json → Result α} {values : List Json} {as : List α} {a : α}
    (h : Given (listOf item) [] values as) (ha : a ∈ as) : ∃ v, item v = .ok a := by
  obtain ⟨_, rfl⟩ | ⟨v, -, hv⟩ := h
  · cases ha
  obtain ⟨items, -, hitems⟩ := listOf_eq_ok_iff.mp hv
  clear hv
  induction hitems with
  | nil => cases ha
  | cons hv _ ih =>
    obtain rfl | ha := List.mem_cons.mp ha
    · exact ⟨_, hv⟩
    · exact ih ha

private theorem proper_of_given {values : List Json} {ts : List TaskRef} (h : Given taskRefs [] values ts) :
    ∀ t ∈ ts, t.Proper := by
  intro t ht
  obtain ⟨v, hv⟩ := exists_item_of_given h ht
  rw [← Except.ok.inj hv]
  exact taskRef_proper v

end read

namespace FlowElement
open Decode
variable {e : FlowElement} {v : Json} {fields : List (String × Json)}

theorem typed_of_perm {kind : ElementKind} {rest : List (String × Json)}
    (h : fields.Perm (("type", .string kind.name) :: rest)) (hrest : under ["type"] rest = []) :
    Typed kind fields := by
  have hp : (under ["type"] fields).Perm [.string kind.name] := by
    simpa [hrest] using (under_perm h : (under ["type"] fields).Perm _)
  have hlower : Text.lower kind.name ∈ kind.words := by
    cases kind <;> decide
  exact ⟨kind.name, by rw [lookup_eq_head?, List.perm_singleton.mp hp]; rfl, hlower⟩

/-- An element is read back from what it is written as. -/
private theorem Written.ofJson_eq (h : e.Written v) (hp : e.Proper) : ofJson v = .ok e := by
  refine ofJson_eq_ok_iff.mpr ?_
  cases h with
  | @event e fields h =>
    refine ⟨fields, rfl, typed_of_perm h ?_, map_eq_ok_iff.mpr ⟨e, event_follows.ofFields_perm h.symm ?_, rfl⟩⟩
    · simp [Event.fields, under_optionalField]
    · exact event_follows.ofFields_cons (by simp [textRules, Rule.keys]) (event_fields e)
  | @task t fields h =>
    refine ⟨fields, rfl, typed_of_perm h ?_, map_eq_ok_iff.mpr ⟨t, task_follows.ofFields_perm h.symm ?_, rfl⟩⟩
    · simp [Task.fields, under_optionalField]
    · exact task_follows.ofFields_cons (by simp [textRules, Rule.keys]) (task_fields t)
  | @gateway g branches fields hbranches h =>
    refine ⟨fields, rfl, typed_of_perm h ?_, map_eq_ok_iff.mpr
      ⟨g, (gateway_follows .direct).ofFields_perm h.symm ?_, rfl⟩⟩
    · simp
    · refine (gateway_follows .direct).ofFields_cons (by simp [gatewayRules, Rule.keys]) (gateway_fields ?_)
      exact listOf_written hbranches fun b hb _ hw => hw.decode_eq (hp b hb)
  | @loop l tasks fields htasks h =>
    refine ⟨fields, rfl, typed_of_perm h ?_, map_eq_ok_iff.mpr ⟨l, loop_follows.ofFields_perm h.symm ?_, rfl⟩⟩
    · simp [under_optionalField]
    · exact loop_follows.ofFields_cons (by simp [bodyRules, Rule.keys]) (loop_fields (taskRefs_written htasks hp))

/-- The fields as they are declared are one order of them. -/
private theorem written_toJson (e : FlowElement) : e.Written e.toJson := by
  cases e with
  | event e => exact .event (List.Perm.refl _)
  | task t => exact .task (List.Perm.refl _)
  | gateway g => exact .gateway (written_branches g.branches) (List.Perm.refl _)
  | loop l => exact .loop (written_tasks l.tasks) (List.Perm.refl _)

private theorem proper_of_ofJson (h : ofJson v = .ok e) : e.Proper := by
  obtain ⟨fields, rfl, _, he⟩ := ofJson_eq_ok_iff.mp h
  cases e with
  | event _ => trivial
  | task _ => trivial
  | gateway g =>
    obtain ⟨g', hg, ⟨⟩⟩ := map_eq_ok_iff.mp he
    obtain ⟨_, _, hbranches⟩ := gateway_ofFields.mp hg
    intro b hb
    obtain ⟨w, hw⟩ := exists_item_of_given hbranches hb
    obtain ⟨_, _, hb⟩ := RecordFormat.decode_eq_ok_iff.mp hw
    exact proper_of_given (branch_ofFields.mp hb).2.2
  | loop l =>
    obtain ⟨l', hl, ⟨⟩⟩ := map_eq_ok_iff.mp he
    exact proper_of_given (loop_ofFields.mp hl).2.2

/-- Reading undoes writing, whatever the order of the fields, for every element whose values that stand for themselves
could not be read as names or tasks. No others are ever read, so that writing what was read and reading it again changes
nothing. -/
theorem ofJson_toJson :
    (∀ e : FlowElement, e.Proper → ofJson e.toJson = .ok e) ∧
    (∀ e : FlowElement, e.Written e.toJson) ∧
    (∀ (e : FlowElement) (v : Json), e.Proper → e.Written v → ofJson v = .ok e) ∧
    (∀ (v : Json) (e : FlowElement), ofJson v = .ok e → e.Proper ∧ ofJson e.toJson = .ok e) :=
  ⟨fun e hp => (written_toJson e).ofJson_eq hp, written_toJson, fun _ _ hp hw => hw.ofJson_eq hp,
    fun _ e h => ⟨proper_of_ofJson h, (written_toJson e).ofJson_eq (proper_of_ofJson h)⟩⟩

/-- References of all three sorts, in a branch with an empty name and without condition. -/
def handover : FlowElement := .gateway {
  name := "Check", typeText := "and"
  branches := [{
    name := some ""
    tasks := [.name "Pack", .detailed { name := "Ship", description := some "" }, .other (.array [])] }] }

def handoverListed : Json := .object [
  ("name", .string "Check"),
  ("gateway_type", .string "and"),
  ("branches", .array [.array [.string "", .null,
    .array [.string "Pack", .array [.string "Ship", .string ""], .array []]]]),
  ("type", .string "Gateway")]

theorem handover_ofJson_toJson :
    handover.Proper ∧ ofJson handover.toJson = .ok handover ∧
    ofJson (.object (handover.fields ++ [("type", .string "pasarela")])) = .ok handover ∧
    ofJson handoverListed = .ok handover ∧ ofJson handover.toJson = ofJson handoverListed := by
  obtain ⟨hread, _, hwritten, hagain⟩ := ofJson_toJson
  have hproper : handover.Proper := by
    simp [handover, FlowElement.Proper, TaskRef.Proper, IsText, IsTask]
  have hlisted : ofJson handoverListed = .ok handover := by rfl
  have hlast : handover.Written (.object (handover.fields ++ [("type", .string "pasarela")])) :=
    .gateway (written_branches _) (List.perm_append_singleton _ _)
  exact ⟨hproper, hread _ hproper, hwritten _ _ hproper hlast, hlisted, (hagain _ _ hlisted).2.trans hlisted.symm⟩

end FlowElement

end ProcessDiagram
