import ProcessDiagram.Proofs.ElementForm

/-! Elements read by their exact tag. Taking the tag out of an object and leaving it there as a field that no record
knows come to the same, whatever the other fields are, so that the two readers of elements differ in nothing but the
letter case of tags. -/
namespace ProcessDiagram

open Json

private theorem Json.under_filter_ne {keys : List String} {key : String} (h : key ∉ keys)
    (fields : List (String × Json)) : under keys (fields.filter (·.1 ≠ key)) = under keys fields := by
  have hkeep : ∀ field ∈ fields, (decide (field.1 ∈ keys) && decide (field.1 ≠ key)) = decide (field.1 ∈ keys) := by
    intro field _
    by_cases hk : field.1 ∈ keys
    · have hne : field.1 ≠ key := fun he => h (he ▸ hk)
      simp [hk, hne]
    · simp [hk]
  rw [under, under, List.filter_filter, List.filter_congr hkeep]

namespace Decode
variable {fields : List (String × Json)}

private theorem RecordFormat.Follows.ofFields_filter {δ ρ : Type} {f : RecordFormat δ ρ} {rules : List (Rule δ)}
    (hf : f.Follows rules) {key : String} (hk : ∀ r ∈ rules, key ∉ r.keys) {record : ρ} :
    f.ofFields (fields.filter (·.1 ≠ key)) = .ok record ↔ f.ofFields fields = .ok record := by
  rw [hf.ofFields_eq_ok_iff, hf.ofFields_eq_ok_iff]
  refine exists_congr fun draft => and_congr_left fun _ => forall₂_congr fun r hr => ?_
  rw [Rule.Reads, under_filter_ne (hk r hr), Rule.Reads]

private theorem branch_decode_route (route other : Route) (v : Json) (b : Branch) :
    branch.decode route v = .ok b ↔ branch.decode other v = .ok b := by
  rw [RecordFormat.decode_eq_ok_iff, RecordFormat.decode_eq_ok_iff]

/-- The branches of a gateway are read alike on both routes. -/
private theorem gateway_decode_route (route other : Route) (v : Json) (g : Gateway) :
    (gateway route).decode route v = .ok g ↔ (gateway other).decode other v = .ok g := by
  have hlist (v : Json) (bs : List Branch) :
      listOf (branch.decode route) v = .ok bs ↔ listOf (branch.decode other) v = .ok bs := by
    simp only [listOf_eq_ok_iff, branch_decode_route route other]
  have hfields : (gateway route).fields? v = (gateway other).fields? v := rfl
  rw [RecordFormat.decode_eq_ok_iff, RecordFormat.decode_eq_ok_iff, hfields]
  refine exists_congr fun fields => and_congr_right fun _ => ?_
  rw [gateway_ofFields, gateway_ofFields]
  simp only [Given, Required, hlist]

/-- Which element a value is read as depends on the route only for errors. -/
private theorem element_route (route other : Route) (kind : ElementKind) (v : Json) (e : FlowElement) :
    element route kind v = .ok e ↔ element other kind v = .ok e := by
  cases kind with
  | event => simp only [element, map_eq_ok_iff, RecordFormat.decode_eq_ok_iff]
  | task => simp only [element, map_eq_ok_iff, RecordFormat.decode_eq_ok_iff]
  | gateway => simp only [element, map_eq_ok_iff, gateway_decode_route route other]
  | loop => simp only [element, map_eq_ok_iff, RecordFormat.decode_eq_ok_iff]

/-- No record has a field `type`. -/
private theorem element_filter {route : Route} {kind : ElementKind} {e : FlowElement} :
    element route kind (.object (fields.filter (·.1 ≠ "type"))) = .ok e ↔
      element route kind (.object fields) = .ok e := by
  cases kind with
  | event =>
    simp only [element, map_eq_ok_iff, RecordFormat.decode]
    exact exists_congr fun _ => and_congr_left fun _ => event_follows.ofFields_filter (by simp [textRules, Rule.keys])
  | task =>
    simp only [element, map_eq_ok_iff, RecordFormat.decode]
    exact exists_congr fun _ => and_congr_left fun _ => task_follows.ofFields_filter (by simp [textRules, Rule.keys])
  | gateway =>
    simp only [element, map_eq_ok_iff, RecordFormat.decode]
    exact exists_congr fun _ => and_congr_left fun _ =>
      (gateway_follows route).ofFields_filter (by simp [gatewayRules, Rule.keys])
  | loop =>
    simp only [element, map_eq_ok_iff, RecordFormat.decode]
    exact exists_congr fun _ => and_congr_left fun _ => loop_follows.ofFields_filter (by simp [bodyRules, Rule.keys])

private theorem mem_elementTags {s : String} : s ∈ elementTags ↔ ∃ kind : ElementKind, s ∈ kind.words := by
  constructor
  · have hall : ∀ s ∈ elementTags, ∃ kind ∈ [ElementKind.event, .task, .gateway, .loop], s ∈ kind.words := by decide
    exact fun h => (hall s h).imp fun _ => And.right
  · have hall : ∀ kind : ElementKind, ∀ s ∈ kind.words, s ∈ elementTags := by rintro ⟨⟩ <;> decide
    exact fun ⟨kind, h⟩ => hall kind s h

private theorem tag_eq_ok_iff {t : Json} {kind : ElementKind} : tag t = .ok kind ↔ ∃ s ∈ kind.words, t = .string s := by
  cases t with
  | string s =>
    simp only [← ElementKind.ofWord?_eq_some_iff, Json.string.injEq, exists_eq_right', tag]
    cases ElementKind.ofWord? s <;> simp
  | _ => simp [tag]

private theorem tagged_eq_ok_iff {e : FlowElement} : tagged (.object fields) = .ok e ↔
    ∃ s ∈ e.kind.words, lookup fields "type" = some (.string s) ∧ element .direct e.kind (.object fields) = .ok e := by
  cases ht : lookup fields "type" with
  | none => simp [tagged, ht]
  | some t =>
    simp only [tagged, ht, bind_eq_ok_iff, tag_eq_ok_iff, element_filter, element_route .tagged .direct]
    constructor
    · rintro ⟨kind, ⟨s, hs, rfl⟩, he⟩
      obtain rfl := kind_element he
      exact ⟨s, hs, rfl, he⟩
    · rintro ⟨s, hs, hts, he⟩
      exact ⟨e.kind, ⟨s, hs, Option.some.inj hts⟩, he⟩

end Decode

private theorem ElementKind.lower_word {kind : ElementKind} {s : String} (h : s ∈ kind.words) :
    Text.lower s ∈ kind.words := by
  have hall : ∀ s ∈ kind.words, Text.lower s ∈ kind.words := by cases kind <;> decide
  exact hall s h

theorem ElementKind.eq_of_mem_words {kind other : ElementKind} {s : String} (h : s ∈ kind.words)
    (ho : s ∈ other.words) : kind = other :=
  Option.some.inj ((ofWord?_eq_some_iff.mpr h).symm.trans (ofWord?_eq_some_iff.mpr ho))

namespace FlowElement
open Decode
variable {fields : List (String × Json)}

private theorem typed_of_ofJson {e : FlowElement} (h : ofJson (.object fields) = .ok e) : Typed e.kind fields := by
  obtain ⟨_, hv, ht, -⟩ := ofJson_eq_ok_iff.mp h
  cases hv
  exact ht

private theorem tagged_of_ofJson {e : FlowElement} {s : String} (h : ofJson (.object fields) = .ok e)
    (ht : lookup fields "type" = some (.string s)) (hs : s ∈ elementTags) : tagged (.object fields) = .ok e := by
  obtain ⟨_, hv, ⟨s', ht', hlower⟩, he⟩ := ofJson_eq_ok_iff.mp h
  cases hv
  obtain rfl : s = s' := by simpa [ht] using ht'
  obtain ⟨kind, hkind⟩ := mem_elementTags.mp hs
  -- The word and the same word in lower case are words of one kind.
  obtain rfl : kind = e.kind := ElementKind.eq_of_mem_words (ElementKind.lower_word hkind) hlower
  exact tagged_eq_ok_iff.mpr ⟨s, hkind, ht, he⟩

/-- The two readers of elements agree on objects: an element read by its exact tag is the one that is read by its kind
in any letter case, and each element read by its kind is read by its tag as well if that is one of the eight words as
they stand. The objects that only one of them reads are those under such a word in other letter case. -/
theorem tagged_agrees (fields : List (String × Json)) :
    (∀ e, tagged (.object fields) = .ok e → ofJson (.object fields) = .ok e) ∧
    (∀ e s, ofJson (.object fields) = .ok e → lookup fields "type" = some (.string s) → s ∈ elementTags →
      tagged (.object fields) = .ok e) ∧
    (∀ e, ofJson (.object fields) = .ok e → ((∀ e', tagged (.object fields) ≠ .ok e') ↔
      ∃ s, lookup fields "type" = some (.string s) ∧ s ∉ elementTags ∧ Text.lower s ∈ elementTags)) := by
  refine ⟨fun e h => ?_, fun e s h ht hs => tagged_of_ofJson h ht hs, fun e h => ⟨fun hnone => ?_, ?_⟩⟩
  · obtain ⟨s, hs, ht, he⟩ := tagged_eq_ok_iff.mp h
    exact ofJson_eq_ok_iff.mpr ⟨fields, rfl, ⟨s, ht, ElementKind.lower_word hs⟩, he⟩
  · obtain ⟨s, ht, hs⟩ := typed_of_ofJson h
    exact ⟨s, ht, fun hexact => hnone e (tagged_of_ofJson h ht hexact), mem_elementTags.mpr ⟨e.kind, hs⟩⟩
  · rintro ⟨s, ht, hs, -⟩ e' he'
    obtain ⟨s', hs', ht', -⟩ := tagged_eq_ok_iff.mp he'
    obtain rfl : s = s' := by simpa [ht] using ht'
    exact hs (mem_elementTags.mpr ⟨_, hs'⟩)

/-- A gateway under a word of one's choice, with a number for its name, a branch as a list, one with tasks of all three
forms, and a condition under its English name. -/
def reviewFields (word : String) : List (String × Json) :=
  [("branches", .array [
      .array [.null, .string "minor"],
      .object [("condition", .string "major"),
        ("tareas", .array [.string "fix", .object [("name", .bool true)], .null])]]),
    ("name", .number (.integer 7)),
    ("type", .string word)]

def review : FlowElement :=
  .gateway {
    name := "7"
    branches := [{ condition := some "minor" },
      { condition := some "major", tasks := [.name "fix", .detailed { name := "true" }, .other .null] }] }

theorem review_tagged_agrees :
    tagged (.object (reviewFields "gateway")) = .ok review ∧ ofJson (.object (reviewFields "gateway")) = .ok review ∧
    ofJson (.object (reviewFields "Gateway")) = .ok review ∧
    ∀ e, tagged (.object (reviewFields "Gateway")) ≠ .ok e := by
  obtain ⟨hread, hexact, -⟩ := tagged_agrees (reviewFields "gateway")
  have hlower : ofJson (.object (reviewFields "gateway")) = .ok review := by rfl
  have htagged := hexact review "gateway" hlower rfl (by decide)
  obtain ⟨-, -, hother⟩ := tagged_agrees (reviewFields "Gateway")
  have hcapital : ofJson (.object (reviewFields "Gateway")) = .ok review := by rfl
  have hrefused := (hother review hcapital).mpr ⟨"Gateway", rfl, by decide, by decide⟩
  exact ⟨htagged, hread review htagged, hcapital, hrefused⟩

end FlowElement

end ProcessDiagram
