import Mathlib.Data.List.Forall2
import ProcessDiagram.Proofs.RecordFields

/-! The tables of the five records, and what each record reads off its fields. -/
namespace ProcessDiagram.Decode

variable {α ρ : Type}

def textRules (title : String) (aliases : List String) : List (Rule TextDraft) := [
  { Value := String, title := "name", aliases := [], required := true, read := scalarName
    slot := (·.name), put := fun draft a => { draft with name := a } },
  { Value := Option String, title, aliases, read := optionalText
    slot := (·.text), put := fun draft a => { draft with text := a } }]

def bodyRules (named : Bool) (name : Json → Result α) : List (Rule (BodyDraft α)) := [
  { Value := α, title := "name", aliases := [], required := named, read := name
    slot := (·.name), put := fun draft a => { draft with name := a } },
  { Value := Option String, title := "condición", aliases := ["condicion", "condition"], read := optionalText
    slot := (·.condition), put := fun draft a => { draft with condition := a } },
  { Value := List TaskRef, title := "tareas", aliases := ["tasks"], read := taskRefs
    slot := (·.tasks), put := fun draft a => { draft with tasks := a } }]

def gatewayRules (route : Route) : List (Rule GatewayDraft) := [
  { Value := String, title := "name", aliases := [], required := true, read := scalarName
    slot := (·.name), put := fun draft a => { draft with name := a } },
  { Value := String, title := "type_pasarela", aliases := ["gateway_type"], read := text
    slot := (·.typeText), put := fun draft a => { draft with typeText := a } },
  { Value := List Branch, title := "ramas", aliases := ["branches"], read := listOf (branch.decode route)
    slot := (·.branches), put := fun draft a => { draft with branches := a } }]

private theorem follows_textRules {f : RecordFormat TextDraft ρ} {title : String} {aliases : List String}
    (accept : f.accept = readBy (textRules title aliases)) (blank : f.blank = {}) (h : "name" ∉ title :: aliases)
    (finish : ∀ draft, (∃ record, f.finish draft = some record) ↔ draft.name.isSome) :
    f.Follows (textRules title aliases) where
  accept := accept
  blank := by simp [textRules, blank]
  put := by simp [textRules]
  apart := by simpa [textRules, Rule.apart_iff, Rule.keys] using h
  finish := by simp [textRules, finish]
  ext := by
    rintro ⟨⟩ ⟨⟩ h
    simp_all [textRules]

theorem event_follows : event.Follows (textRules "condicion" ["condición", "condition"]) := by
  refine follows_textRules ?_ rfl (by decide) (by simp [event, Option.isSome_iff_exists])
  -- The match on the key and the search through the table agree name by name.
  funext draft key v
  simp only [event]
  split <;> simp_all [readBy, textRules, Rule.keys]

theorem task_follows : task.Follows (textRules "description" []) := by
  refine follows_textRules ?_ rfl (by decide) (by simp [task, Option.isSome_iff_exists])
  funext draft key v
  simp only [task]
  split <;> simp_all [readBy, textRules, Rule.keys]

private theorem follows_bodyRules {f : RecordFormat (BodyDraft α) ρ} {named : Bool} {name : Json → Result α}
    (accept : f.accept = acceptBody name) (blank : f.blank = {})
    (finish : ∀ draft, (∃ record, f.finish draft = some record) ↔ (named → draft.name.isSome)) :
    f.Follows (bodyRules named name) where
  accept := by
    rw [accept]
    funext draft key v
    unfold acceptBody
    split <;> simp_all [readBy, bodyRules, Rule.keys]
  blank := by simp [bodyRules, blank]
  put := by simp [bodyRules]
  apart := by simp [bodyRules, Rule.apart_iff, Rule.keys]
  finish := by simp [bodyRules, finish]
  ext := by
    rintro ⟨⟩ ⟨⟩ h
    simp_all [bodyRules]

theorem branch_follows : branch.Follows (bodyRules false optionalText) :=
  follows_bodyRules rfl rfl (by simp [branch])

theorem loop_follows : loop.Follows (bodyRules true scalarName) :=
  follows_bodyRules rfl rfl (by simp [loop, Option.isSome_iff_exists])

theorem gateway_follows (route : Route) : (gateway route).Follows (gatewayRules route) where
  accept := by
    funext draft key v
    simp only [gateway]
    split <;> simp_all [readBy, gatewayRules, Rule.keys]
  blank := by simp [gatewayRules, gateway]
  put := by simp [gatewayRules]
  apart := by simp [gatewayRules, Rule.apart_iff, Rule.keys]
  finish := by simp [gatewayRules, gateway, Option.isSome_iff_exists]
  ext := by
    rintro ⟨⟩ ⟨⟩ h
    simp_all [gatewayRules]

def conditionKeys : List String := ["condición", "condicion", "condition"]

section values
variable {v : Json}

theorem listOf_eq_ok_iff {item : Json → Result α} {as : List α} :
    listOf item v = .ok as ↔ ∃ items, v = .array items ∧ List.Forall₂ (fun v a => item v = .ok a) items as := by
  cases v <;> simp [listOf, mapM_eq_ok_iff]

end values

section fields
variable {fields : List (String × Json)}

private theorem forall_textRules {title : String} {aliases : List String} {draft : TextDraft} :
    (∀ r ∈ textRules title aliases, r.Reads fields (r.slot draft)) ↔
      Filled scalarName (Json.under ["name"] fields) draft.name ∧
        Filled optionalText (Json.under (title :: aliases) fields) draft.text := by
  simp [textRules, Rule.Reads, Rule.keys]

private theorem forall_bodyRules {named : Bool} {name : Json → Result α} {draft : BodyDraft α} :
    (∀ r ∈ bodyRules named name, r.Reads fields (r.slot draft)) ↔
      Filled name (Json.under ["name"] fields) draft.name ∧
        Filled optionalText (Json.under conditionKeys fields) draft.condition ∧
        Filled taskRefs (Json.under ["tareas", "tasks"] fields) draft.tasks := by
  simp [bodyRules, Rule.Reads, Rule.keys, conditionKeys]

private theorem forall_gatewayRules {route : Route} {draft : GatewayDraft} :
    (∀ r ∈ gatewayRules route, r.Reads fields (r.slot draft)) ↔
      Filled scalarName (Json.under ["name"] fields) draft.name ∧
        Filled text (Json.under ["type_pasarela", "gateway_type"] fields) draft.typeText ∧
        Filled (listOf (branch.decode route)) (Json.under ["ramas", "branches"] fields) draft.branches := by
  simp [gatewayRules, Rule.Reads, Rule.keys]

theorem under_conditionKeys :
    Json.under ["condicion", "condición", "condition"] fields = Json.under conditionKeys fields :=
  Json.under_congr (by simp [conditionKeys, or_left_comm])

theorem event_ofFields {e : Event} : event.ofFields fields = .ok e ↔
    Required scalarName (Json.under ["name"] fields) e.name ∧
      Given optionalText none (Json.under conditionKeys fields) e.condition := by
  simp only [event_follows.ofFields_eq_ok_iff, forall_textRules, under_conditionKeys, ← exists_filled_getD]
  constructor
  · rintro ⟨⟨_ | name, text⟩, ⟨hname, htext⟩, ⟨⟩⟩
    exact ⟨hname, text, htext, rfl⟩
  · obtain ⟨name, condition⟩ := e
    rintro ⟨hname, text, htext, rfl⟩
    exact ⟨⟨some name, text⟩, ⟨hname, htext⟩, rfl⟩

theorem task_ofFields {t : Task} : task.ofFields fields = .ok t ↔
    Required scalarName (Json.under ["name"] fields) t.name ∧
      Given optionalText none (Json.under ["description"] fields) t.description := by
  simp only [task_follows.ofFields_eq_ok_iff, forall_textRules, ← exists_filled_getD]
  constructor
  · rintro ⟨⟨_ | name, text⟩, ⟨hname, htext⟩, ⟨⟩⟩
    exact ⟨hname, text, htext, rfl⟩
  · obtain ⟨name, description⟩ := t
    rintro ⟨hname, text, htext, rfl⟩
    exact ⟨⟨some name, text⟩, ⟨hname, htext⟩, rfl⟩

theorem branch_ofFields {b : Branch} : branch.ofFields fields = .ok b ↔
    Given optionalText none (Json.under ["name"] fields) b.name ∧
      Given optionalText none (Json.under conditionKeys fields) b.condition ∧
      Given taskRefs [] (Json.under ["tareas", "tasks"] fields) b.tasks := by
  simp only [branch_follows.ofFields_eq_ok_iff, forall_bodyRules, ← exists_filled_getD]
  constructor
  · rintro ⟨⟨name, condition, tasks⟩, ⟨hname, hcondition, htasks⟩, ⟨⟩⟩
    exact ⟨⟨name, hname, rfl⟩, ⟨condition, hcondition, rfl⟩, tasks, htasks, rfl⟩
  · obtain ⟨name, condition, tasks⟩ := b
    rintro ⟨⟨name, hname, rfl⟩, ⟨condition, hcondition, rfl⟩, tasks, htasks, rfl⟩
    exact ⟨⟨name, condition, tasks⟩, ⟨hname, hcondition, htasks⟩, rfl⟩

theorem loop_ofFields {l : Loop} : loop.ofFields fields = .ok l ↔
    Required scalarName (Json.under ["name"] fields) l.name ∧
      Given optionalText none (Json.under conditionKeys fields) l.condition ∧
      Given taskRefs [] (Json.under ["tareas", "tasks"] fields) l.tasks := by
  simp only [loop_follows.ofFields_eq_ok_iff, forall_bodyRules, ← exists_filled_getD]
  constructor
  · rintro ⟨⟨_ | name, condition, tasks⟩, ⟨hname, hcondition, htasks⟩, ⟨⟩⟩
    exact ⟨hname, ⟨condition, hcondition, rfl⟩, tasks, htasks, rfl⟩
  · obtain ⟨name, condition, tasks⟩ := l
    rintro ⟨hname, ⟨condition, hcondition, rfl⟩, tasks, htasks, rfl⟩
    exact ⟨⟨some name, condition, tasks⟩, ⟨hname, hcondition, htasks⟩, rfl⟩

theorem gateway_ofFields {route : Route} {g : Gateway} : (gateway route).ofFields fields = .ok g ↔
    Required scalarName (Json.under ["name"] fields) g.name ∧
      Given text "XOR" (Json.under ["type_pasarela", "gateway_type"] fields) g.typeText ∧
      Given (listOf (branch.decode route)) [] (Json.under ["ramas", "branches"] fields) g.branches := by
  simp only [(gateway_follows route).ofFields_eq_ok_iff, forall_gatewayRules, ← exists_filled_getD]
  constructor
  · rintro ⟨⟨_ | name, typeText, branches⟩, ⟨hname, htype, hbranches⟩, ⟨⟩⟩
    exact ⟨hname, ⟨typeText, htype, rfl⟩, branches, hbranches, rfl⟩
  · obtain ⟨name, typeText, branches⟩ := g
    rintro ⟨hname, ⟨typeText, htype, rfl⟩, branches, hbranches, rfl⟩
    exact ⟨⟨some name, typeText, branches⟩, ⟨hname, htype, hbranches⟩, rfl⟩

end fields

end ProcessDiagram.Decode
