import ProcessDiagram.Proofs.RecordFormats

/-! The values that are elements of a flow. Their grammar is stated field by field, without drafts and without an order
of reading; what is refused, and with which error, is stated beside it. -/
namespace ProcessDiagram

namespace Json

def IsScalar : Json → Prop
  | .string _ => True
  | .number _ => True
  | .bool _ => True
  | _ => False

def IsText : Json → Prop
  | .string _ => True
  | _ => False

def IsTextOrNull : Json → Prop
  | .string _ => True
  | .null => True
  | _ => False

def IsListOf (form : Json → Prop) : Json → Prop
  | .array items => ∀ item ∈ items, form item
  | _ => False

def IsList : Json → Prop := IsListOf fun _ => True

/-- A branch in full, or only its name, condition and tasks, in this order and as many of them as there are. -/
def IsBranch : Json → Prop
  | .object fields =>
    AtMostOne IsTextOrNull (under ["name"] fields) ∧
      AtMostOne IsTextOrNull (under Decode.conditionKeys fields) ∧
      AtMostOne IsList (under ["tareas", "tasks"] fields)
  | .array items =>
    items.length ≤ 3 ∧ (∀ v ∈ items[0]?, IsTextOrNull v) ∧ (∀ v ∈ items[1]?, IsTextOrNull v) ∧ ∀ v ∈ items[2]?, IsList v
  | _ => False

/-- Null, false, a zero, and empty text, list or object. -/
def IsNothing (v : Json) : Prop :=
  v = .null ∨ v = .bool false ∨ (∃ n, v = .number n ∧ n.isZero) ∨ v = .string "" ∨ v = .array [] ∨ v = .object []

end Json

open Json

namespace ElementKind

def words : ElementKind → List String
  | .event => ["evento", "event"]
  | .task => ["tarea", "task"]
  | .gateway => ["pasarela", "gateway"]
  | .loop => ["bucle", "loop"]

/-- The fields that an element of a kind may have; fields of other names may be anything. -/
def Form (kind : ElementKind) (fields : List (String × Json)) : Prop :=
  ExactlyOne IsScalar (under ["name"] fields) ∧
    match kind with
    | .event => AtMostOne IsTextOrNull (under Decode.conditionKeys fields)
    | .task => AtMostOne IsTextOrNull (under ["description"] fields)
    | .gateway =>
      AtMostOne IsText (under ["type_pasarela", "gateway_type"] fields) ∧
        AtMostOne (IsListOf IsBranch) (under ["ramas", "branches"] fields)
    | .loop =>
      AtMostOne IsTextOrNull (under Decode.conditionKeys fields) ∧
        AtMostOne IsList (under ["tareas", "tasks"] fields)

end ElementKind

namespace FlowElement

def Untyped (fields : List (String × Json)) : Prop :=
  ∀ t, lookup fields "type" = some t → t.IsNothing

/-- The `type` is a word for the kind, in any letter case. -/
def Typed (kind : ElementKind) (fields : List (String × Json)) : Prop :=
  ∃ s, lookup fields "type" = some (.string s) ∧ Text.lower s ∈ kind.words

/-- The `type` names no kind: a word for none of them, told as it is, or something else, told as JSON text. -/
def Mistyped (text : String) (fields : List (String × Json)) : Prop :=
  ∃ t, lookup fields "type" = some t ∧ ¬ t.IsNothing ∧
    ((t = .string text ∧ ∀ kind : ElementKind, Text.lower text ∉ kind.words) ∨ (¬ t.IsText ∧ text = t.compact))

end FlowElement

namespace Decode
variable {α β : Type} {v : Json} {fields : List (String × Json)}

private theorem exists_scalarName : (∃ s, scalarName v = .ok s) ↔ v.IsScalar := by
  cases v <;> simp [scalarName, IsScalar]

private theorem exists_text : (∃ s, text v = .ok s) ↔ v.IsText := by
  cases v <;> simp [text, IsText]

private theorem exists_optionalText : (∃ s, optionalText v = .ok s) ↔ v.IsTextOrNull := by
  cases v <;> simp [optionalText, IsTextOrNull]

private theorem exists_listOf {item : Json → Result α} :
    (∃ as, listOf item v = .ok as) ↔ v.IsListOf fun v => ∃ a, item v = .ok a := by
  simp only [listOf_eq_ok_iff]
  cases v <;> simp [IsListOf, exists_forall₂]

private theorem exists_taskRefs : (∃ tasks, taskRefs v = .ok tasks) ↔ v.IsList := by
  simp [taskRefs, exists_listOf, IsList]

theorem exists_task : (∃ t, task.ofFields fields = .ok t) ↔
    ExactlyOne IsScalar (under ["name"] fields) ∧ AtMostOne IsTextOrNull (under ["description"] fields) := by
  rw [task_follows.exists_ofFields]
  simp [textRules, Rule.Accepts, Rule.keys, exists_scalarName, exists_optionalText]

private theorem exists_branch_ofFields : (∃ b, branch.ofFields fields = .ok b) ↔
    AtMostOne IsTextOrNull (under ["name"] fields) ∧ AtMostOne IsTextOrNull (under conditionKeys fields) ∧
      AtMostOne IsList (under ["tareas", "tasks"] fields) := by
  rw [branch_follows.exists_ofFields]
  simp [bodyRules, Rule.Accepts, Rule.keys, exists_optionalText, exists_taskRefs, conditionKeys]

private theorem exists_branch {route : Route} : (∃ b, branch.decode route v = .ok b) ↔ v.IsBranch := by
  cases v with
  | object fields => exact exists_branch_ofFields
  | array items =>
    -- Each item stands alone under the names of its field.
    have hunder : under ["name"] (branch.fields.zip items) = items[0]?.toList ∧
        under conditionKeys (branch.fields.zip items) = items[1]?.toList ∧
        under ["tareas", "tasks"] (branch.fields.zip items) = items[2]?.toList := by
      rcases items with _ | ⟨_, _ | ⟨_, _ | _⟩⟩ <;> simp [branch, under, conditionKeys]
    obtain ⟨hname, hcondition, htasks⟩ := hunder
    simp only [RecordFormat.decode, RecordFormat.ofItems_eq_ok_iff, exists_and_left, exists_branch_ofFields, hname,
      hcondition, htasks, atMostOne_toList, IsBranch]
    rfl
  | _ => simp [RecordFormat.decode, IsBranch]

private theorem exists_map {f : α → β} {x : Result α} : (∃ b, f <$> x = .ok b) ↔ ∃ a, x = .ok a := by
  cases x <;> simp [Functor.map, Except.map]

/-- An object is read as an element of a kind exactly if its fields have the form of one. -/
private theorem exists_element {kind : ElementKind} :
    (∃ e, element .direct kind (.object fields) = .ok e) ↔ kind.Form fields := by
  cases kind with
  | event =>
    simp only [element, RecordFormat.decode, exists_map, event_follows.exists_ofFields]
    simp [textRules, Rule.Accepts, Rule.keys, exists_scalarName, exists_optionalText, under_conditionKeys,
      ElementKind.Form]
  | task => exact exists_map.trans exists_task
  | gateway =>
    simp only [element, RecordFormat.decode, exists_map, (gateway_follows _).exists_ofFields]
    simp [gatewayRules, Rule.Accepts, Rule.keys, exists_scalarName, exists_text, exists_listOf, exists_branch,
      ElementKind.Form]
  | loop =>
    simp only [element, RecordFormat.decode, exists_map, loop_follows.exists_ofFields]
    simp [bodyRules, Rule.Accepts, Rule.keys, exists_scalarName, exists_optionalText, exists_taskRefs, conditionKeys,
      ElementKind.Form]

theorem kind_element {route : Route} {kind : ElementKind} {e : FlowElement} (h : element route kind v = .ok e) :
    e.kind = kind := by
  cases kind <;> obtain ⟨_, _, rfl⟩ := map_eq_ok_iff.mp h <;> rfl

end Decode

private theorem Json.isVacant_iff {v : Json} : v.isVacant ↔ v.IsNothing := by
  cases v <;> simp [isVacant, IsNothing]

namespace ElementKind

theorem ofWord?_eq_some_iff {word : String} {kind : ElementKind} : ofWord? word = some kind ↔ word ∈ kind.words := by
  unfold ofWord?
  split <;> cases kind <;> simp_all [words]

private theorem ofText?_eq_none_iff {s : String} :
    ofText? s = none ↔ ∀ kind : ElementKind, Text.lower s ∉ kind.words := by
  simp [Option.eq_none_iff_forall_ne_some, ofText?, ofWord?_eq_some_iff]

private theorem ofJson_nothing {t : Json} (h : t.IsNothing) : ElementKind.ofJson t = .error .missingType :=
  if_pos (isVacant_iff.mpr h)

private theorem ofJson_word {s : String} {kind : ElementKind} (h : Text.lower s ∈ kind.words) :
    ElementKind.ofJson (.string s) = .ok kind := by
  have hs : s ≠ "" := by
    rintro rfl
    revert h
    cases kind <;> decide
  have hk : ofText? s = some kind := ofWord?_eq_some_iff.mpr h
  simp [ElementKind.ofJson, isVacant, hs, hk]

private theorem ofJson_unknown {s : String} (hs : s ≠ "") (h : ∀ kind : ElementKind, Text.lower s ∉ kind.words) :
    ElementKind.ofJson (.string s) = .error (.unrecognizedKind s) := by
  simp [ElementKind.ofJson, isVacant, hs, ofText?_eq_none_iff.mpr h]

private theorem ofJson_not_text {t : Json} (ht : ¬ t.IsNothing) (h : ¬ t.IsText) :
    ElementKind.ofJson t = .error (.unrecognizedKind t.compact) := by
  have hv := isVacant_iff.not.mpr ht
  cases t with
  | string s => exact absurd trivial h
  | _ => exact if_neg hv

end ElementKind

namespace FlowElement

private theorem typed_cases (fields : List (String × Json)) :
    Untyped fields ∨ (∃ text, Mistyped text fields) ∨ ∃ kind, Typed kind fields := by
  by_cases hu : Untyped fields
  · exact .inl hu
  right
  obtain ⟨t, ht, hsome⟩ : ∃ t, lookup fields "type" = some t ∧ ¬ t.IsNothing := by
    simpa [Untyped] using hu
  cases t with
  | string s =>
    by_cases hk : ∃ kind : ElementKind, Text.lower s ∈ kind.words
    · exact .inr (hk.imp fun _ h => ⟨s, ht, h⟩)
    · exact .inl ⟨s, .string s, ht, hsome, .inl ⟨rfl, not_exists.mp hk⟩⟩
  | _ => exact .inl ⟨_, _, ht, hsome, .inr ⟨by simp [IsText], rfl⟩⟩

/-- The six outcomes of reading a value, each with what leads to it. -/
inductive Outcome : Json → Except DescriptionError FlowElement → Prop
  | notAnObject {v} (h : ∀ fields, v ≠ .object fields) : Outcome v (.error .elementNotAnObject)
  | untyped {fields} (h : Untyped fields) : Outcome (.object fields) (.error .missingType)
  | mistyped {text fields} (h : Mistyped text fields) : Outcome (.object fields) (.error (.unrecognizedKind text))
  | unnamed {kind fields} (h : Typed kind fields) (hname : lookup fields "name" = none) :
    Outcome (.object fields) (.error (.missingField kind "name"))
  | malformed {kind fields reason} (h : Typed kind fields) (hname : lookup fields "name" ≠ none)
    (hform : ¬ kind.Form fields) : Outcome (.object fields) (.error (.invalidElement kind reason))
  | read {fields} {e : FlowElement} (h : Typed e.kind fields)
    (he : Decode.element .direct e.kind (.object fields) = .ok e) : Outcome (.object fields) (.ok e)

section outcome
variable {v : Json} {fields : List (String × Json)} {kind : ElementKind}

private theorem ofJson_untyped (h : Untyped fields) : ofJson (.object fields) = .error .missingType := by
  cases ht : lookup fields "type" with
  | none => simp [ofJson, ht]
  | some t =>
    simp only [ofJson, ht, ElementKind.ofJson_nothing (h t ht)]
    rfl

private theorem ofJson_mistyped {text : String} (h : Mistyped text fields) :
    ofJson (.object fields) = .error (.unrecognizedKind text) := by
  obtain ⟨t, ht, hsome, ⟨rfl, hk⟩ | ⟨hs, rfl⟩⟩ := h
  · have hne : text ≠ "" := fun h => hsome (by simp [IsNothing, h])
    simp only [ofJson, ht, ElementKind.ofJson_unknown hne hk]
    rfl
  · simp only [ofJson, ht, ElementKind.ofJson_not_text hsome hs]
    rfl

private theorem ofJson_unnamed (h : Typed kind fields) (hname : lookup fields "name" = none) :
    ofJson (.object fields) = .error (.missingField kind "name") := by
  obtain ⟨s, ht, hs⟩ := h
  simp [ofJson, ht, ElementKind.ofJson_word hs, ElementKind.requiredFields, hname, bind, Except.bind]

private theorem ofJson_named (h : Typed kind fields) (hname : lookup fields "name" ≠ none) : ofJson (.object fields) =
    (Decode.element .direct kind (.object fields)).mapError fun e => .invalidElement kind e.message := by
  obtain ⟨s, ht, hs⟩ := h
  simp [ofJson, ht, ElementKind.ofJson_word hs, ElementKind.requiredFields, hname, bind, Except.bind]

private theorem outcome_typed (h : Typed kind fields) : Outcome (.object fields) (ofJson (.object fields)) := by
  by_cases hname : lookup fields "name" = none
  · rw [ofJson_unnamed h hname]
    exact .unnamed h hname
  rw [ofJson_named h hname]
  cases he : Decode.element .direct kind (.object fields) with
  | ok e =>
    obtain rfl := Decode.kind_element he
    exact .read h he
  | error reason =>
    refine .malformed h hname fun hform => ?_
    obtain ⟨e, he'⟩ := Decode.exists_element.mpr hform
    cases he.symm.trans he'

private theorem outcome (v : Json) : Outcome v (ofJson v) := by
  cases v with
  | object fields =>
    obtain h | ⟨text, h⟩ | ⟨kind, h⟩ := typed_cases fields
    · rw [ofJson_untyped h]
      exact .untyped h
    · rw [ofJson_mistyped h]
      exact .mistyped h
    · exact outcome_typed h
  | _ => exact .notAnObject (by simp)

/-- What led to an outcome can be read off it. -/
private theorem outcome_of_eq {r : Except DescriptionError FlowElement} (h : ofJson v = r) :
    Outcome v r := h ▸ outcome v

private theorem notAnObject_iff : ofJson v = .error .elementNotAnObject ↔ ∀ fields, v ≠ .object fields := by
  constructor
  · intro h
    cases outcome_of_eq h with | notAnObject hv => exact hv
  · intro h
    cases v with
    | object fields => exact absurd rfl (h fields)
    | _ => rfl

private theorem missingType_iff : ofJson v = .error .missingType ↔ ∃ fields, v = .object fields ∧ Untyped fields := by
  constructor
  · intro h
    cases outcome_of_eq h with | untyped ht => exact ⟨_, rfl, ht⟩
  · rintro ⟨fields, rfl, h⟩
    exact ofJson_untyped h

private theorem unrecognizedKind_iff {text : String} : ofJson v = .error (.unrecognizedKind text) ↔
    ∃ fields, v = .object fields ∧ Mistyped text fields := by
  constructor
  · intro h
    cases outcome_of_eq h with | mistyped ht => exact ⟨_, rfl, ht⟩
  · rintro ⟨fields, rfl, h⟩
    exact ofJson_mistyped h

private theorem missingField_iff {field : String} : ofJson v = .error (.missingField kind field) ↔
    field = "name" ∧ ∃ fields, v = .object fields ∧ Typed kind fields ∧ lookup fields "name" = none := by
  constructor
  · intro h
    cases outcome_of_eq h with | unnamed ht hname => exact ⟨rfl, _, rfl, ht, hname⟩
  · rintro ⟨rfl, fields, rfl, h, hname⟩
    exact ofJson_unnamed h hname

private theorem name_of_form (h : kind.Form fields) : lookup fields "name" ≠ none := by
  obtain ⟨v, hv, _⟩ := h.1
  simp [lookup_eq_head?, hv]

theorem ofJson_eq_ok_iff {e : FlowElement} : ofJson v = .ok e ↔ ∃ fields, v = .object fields ∧
    Typed e.kind fields ∧ Decode.element .direct e.kind (.object fields) = .ok e := by
  constructor
  · intro h
    cases outcome_of_eq h with | read ht he => exact ⟨_, rfl, ht, he⟩
  · rintro ⟨fields, rfl, ht, he⟩
    rw [ofJson_named ht (name_of_form (Decode.exists_element.mp ⟨e, he⟩)), he]
    rfl

private theorem ok_iff : (∃ e, ofJson v = .ok e ∧ e.kind = kind) ↔
    ∃ fields, v = .object fields ∧ Typed kind fields ∧ lookup fields "name" ≠ none ∧ kind.Form fields := by
  constructor
  · rintro ⟨e, h, rfl⟩
    obtain ⟨fields, rfl, ht, he⟩ := ofJson_eq_ok_iff.mp h
    have hform := Decode.exists_element.mp ⟨e, he⟩
    exact ⟨fields, rfl, ht, name_of_form hform, hform⟩
  · rintro ⟨fields, rfl, ht, _, hform⟩
    obtain ⟨e, he⟩ := Decode.exists_element.mpr hform
    obtain rfl := Decode.kind_element he
    exact ⟨e, ofJson_eq_ok_iff.mpr ⟨fields, rfl, ht, he⟩, rfl⟩

private theorem invalidElement_iff : (∃ reason, ofJson v = .error (.invalidElement kind reason)) ↔
    ∃ fields, v = .object fields ∧ Typed kind fields ∧ lookup fields "name" ≠ none ∧ ¬ kind.Form fields := by
  constructor
  · rintro ⟨reason, h⟩
    cases outcome_of_eq h with | malformed ht hname hform => exact ⟨_, rfl, ht, hname, hform⟩
  · rintro ⟨fields, rfl, h, hname, hform⟩
    rw [ofJson_named h hname]
    cases he : Decode.element .direct kind (.object fields) with
    | ok e => exact absurd (Decode.exists_element.mp ⟨e, he⟩) hform
    | error reason => exact ⟨reason.message, rfl⟩

end outcome

/-- An element is read exactly from the objects of its grammar. Any other value is refused, for the first of these
reasons: it is no object, it has no type, an unknown type, no name, a field of the wrong form. -/
theorem ofJson_follows_grammar (v : Json) :
    (ofJson v = .error .elementNotAnObject ↔ ∀ fields, v ≠ .object fields) ∧
    (ofJson v = .error .missingType ↔ ∃ fields, v = .object fields ∧ Untyped fields) ∧
    (∀ text, ofJson v = .error (.unrecognizedKind text) ↔ ∃ fields, v = .object fields ∧ Mistyped text fields) ∧
    (∀ kind field, ofJson v = .error (.missingField kind field) ↔
      field = "name" ∧ ∃ fields, v = .object fields ∧ Typed kind fields ∧ lookup fields "name" = none) ∧
    (∀ kind, (∃ e, ofJson v = .ok e ∧ e.kind = kind) ↔
      ∃ fields, v = .object fields ∧ Typed kind fields ∧ lookup fields "name" ≠ none ∧ kind.Form fields) ∧
    (∀ kind, (∃ reason, ofJson v = .error (.invalidElement kind reason)) ↔
      ∃ fields, v = .object fields ∧ Typed kind fields ∧ lookup fields "name" ≠ none ∧ ¬ kind.Form fields) :=
  ⟨notAnObject_iff, missingType_iff, fun _ => unrecognizedKind_iff, fun _ _ => missingField_iff, fun _ => ok_iff,
    fun _ => invalidElement_iff⟩

/-- Null counts as a value: a condition under two of its names is refused. -/
example : ofJson (.object [("condition", .null), ("condición", .string "done"), ("name", .string "fin"),
    ("type", .string "evento")]) = .error (.invalidElement .event "duplicate field `condicion`") := by rfl

end FlowElement

end ProcessDiagram
