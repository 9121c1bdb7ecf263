import Mathlib.Data.List.Induction
import Mathlib.Tactic.MkIffOfInductiveProp
import ProcessDiagram.Process.Decoding
import ProcessDiagram.Proofs.Lists

/-! Records read field by field. A format that follows a table of rules reads each field at most once, under any of its
names, and nothing else of the record matters to it: neither other fields nor their order. -/
namespace ProcessDiagram

def Json.under (keys : List String) (fields : List (String × Json)) : List Json :=
  (fields.filter (·.1 ∈ keys)).map (·.2)

namespace Json

def ExactlyOne (form : Json → Prop) (values : List Json) : Prop := ∃ v, values = [v] ∧ form v

def AtMostOne (form : Json → Prop) (values : List Json) : Prop := values = [] ∨ ExactlyOne form values

theorem atMostOne_toList {form : Json → Prop} {v : Option Json} : AtMostOne form v.toList ↔ ∀ w ∈ v, form w := by
  cases v <;> simp [AtMostOne, ExactlyOne]

theorem under_congr {keys others : List String} {fields : List (String × Json)} (h : ∀ key, key ∈ keys ↔ key ∈ others) :
    under keys fields = under others fields := by
  simp [under, h]

@[simp]
theorem under_nil (keys : List String) : under keys [] = [] := rfl

@[simp]
theorem under_cons (keys : List String) (key : String) (v : Json) (fields : List (String × Json)) :
    under keys ((key, v) :: fields) = (if key ∈ keys then [v] else []) ++ under keys fields := by
  by_cases h : key ∈ keys <;> simp [under, h]

@[simp]
theorem under_append (keys : List String) (fields later : List (String × Json)) :
    under keys (fields ++ later) = under keys fields ++ under keys later := by
  simp [under]

theorem under_perm {keys : List String} {fields others : List (String × Json)} (h : fields.Perm others) :
    (under keys fields).Perm (under keys others) := (h.filter _).map _

theorem lookup_eq_head? (fields : List (String × Json)) (key : String) :
    lookup fields key = (under [key] fields).head? := by
  simp [lookup, under, List.head?_filter]

end Json

namespace Decode

section values
variable {α : Type} {read : Json → Result α} {values : List Json}

def Required (read : Json → Result α) (values : List Json) (a : α) : Prop :=
  ∃ v, values = [v] ∧ read v = .ok a

/-- What a slot holds in the end: nothing if there is no value, and else what the only one is read as. -/
def Filled (read : Json → Result α) (values : List Json) : Option α → Prop
  | none => values = []
  | some a => Required read values a

def Given (read : Json → Result α) (default : α) (values : List Json) (a : α) : Prop :=
  values = [] ∧ a = default ∨ Required read values a

private theorem Filled.unique {a b : Option α} (ha : Filled read values a) (hb : Filled read values b) : a = b := by
  cases a with
  | none =>
    cases b with
    | none => rfl
    | some b =>
      obtain ⟨v, hv, _⟩ := hb
      cases (show _ = [] from ha).symm.trans hv
  | some a =>
    obtain ⟨v, hv, hread⟩ := ha
    cases b with
    | none => cases hv.symm.trans (show _ = [] from hb)
    | some b =>
      obtain ⟨w, hw, hread'⟩ := hb
      cases hv.symm.trans hw
      rw [Except.ok.inj (hread.symm.trans hread')]

private theorem exists_required :
    (∃ a, Required read values a) ↔ Json.ExactlyOne (fun v => ∃ a, read v = .ok a) values := by
  constructor
  · rintro ⟨a, v, rfl, hread⟩
    exact ⟨v, rfl, a, hread⟩
  · rintro ⟨v, rfl, a, hread⟩
    exact ⟨a, v, rfl, hread⟩

private theorem exists_filled :
    (∃ slot, Filled read values slot) ↔ Json.AtMostOne (fun v => ∃ a, read v = .ok a) values := by
  rw [Json.AtMostOne, ← exists_required]
  constructor
  · rintro ⟨_ | a, h⟩
    · exact .inl h
    · exact .inr ⟨a, h⟩
  · rintro (h | ⟨a, h⟩)
    · exact ⟨none, h⟩
    · exact ⟨some a, h⟩

private theorem Filled.perm {others : List Json} {slot : Option α} (hp : values.Perm others)
    (h : Filled read values slot) : Filled read others slot := by
  cases slot with
  | none =>
    obtain rfl : values = [] := h
    exact hp.nil_eq.symm
  | some a =>
    obtain ⟨v, rfl, hread⟩ := h
    exact ⟨v, List.perm_singleton.mp hp.symm, hread⟩

theorem exists_filled_getD {default a : α} :
    (∃ slot, Filled read values slot ∧ slot.getD default = a) ↔ Given read default values a := by
  constructor
  · rintro ⟨slot, hs, rfl⟩
    cases slot with
    | none => exact .inl ⟨hs, rfl⟩
    | some a => exact .inr hs
  · rintro (⟨hnil, rfl⟩ | h)
    · exact ⟨none, hnil, rfl⟩
    · exact ⟨some a, h, rfl⟩

end values

/-- How a format reads one field: the names of the field, the one that errors mention first, whether a record must have
it, and its place in the draft. -/
structure Rule (δ : Type) where
  Value : Type
  title : String
  aliases : List String
  required : Bool := false
  read : Json → Result Value
  slot : δ → Option Value
  put : δ → Option Value → δ

namespace Rule
variable {δ : Type}

def keys (r : Rule δ) : List String := r.title :: r.aliases

def Reads (r : Rule δ) (fields : List (String × Json)) (slot : Option r.Value) : Prop :=
  Filled r.read (Json.under r.keys fields) slot

/-- The field is there if it must be, has one value at most, and that can be read. -/
def Accepts (r : Rule δ) (fields : List (String × Json)) : Prop :=
  if r.required then Json.ExactlyOne (fun v => ∃ a, r.read v = .ok a) (Json.under r.keys fields)
  else Json.AtMostOne (fun v => ∃ a, r.read v = .ok a) (Json.under r.keys fields)

private theorem accepts_iff {r : Rule δ} {fields : List (String × Json)} :
    r.Accepts fields ↔ ∃ slot, r.Reads fields slot ∧ (r.required → slot.isSome) := by
  rw [Accepts, ← exists_required, ← exists_filled]
  split
  · next hr =>
    constructor
    · rintro ⟨a, ha⟩
      exact ⟨some a, ha, fun _ => rfl⟩
    · rintro ⟨slot, hs, hsome⟩
      obtain ⟨a, rfl⟩ := Option.isSome_iff_exists.mp (hsome hr)
      exact ⟨a, hs⟩
  · next hr => simp [hr, Reads]

section concat
variable {r : Rule δ} {fields : List (String × Json)} {key : String} {v : Json} {slot : Option r.Value}

private theorem reads_concat_of_notMem (hk : key ∉ r.keys) :
    r.Reads (fields ++ [(key, v)]) slot ↔ r.Reads fields slot := by
  rw [Reads, Reads, Json.under_append, Json.under_cons, if_neg hk, Json.under_nil, List.append_nil, List.append_nil]

private theorem reads_concat_of_mem (hk : key ∈ r.keys) : r.Reads (fields ++ [(key, v)]) slot ↔
    r.Reads fields none ∧ ∃ a, r.read v = .ok a ∧ slot = some a := by
  rw [Reads, Json.under_append, Json.under_cons, if_pos hk, Json.under_nil, List.append_nil]
  cases slot with
  | none => simp [Filled]
  | some a =>
    have happend (w : Json) : Json.under r.keys fields ++ [v] = [w] ↔ Json.under r.keys fields = [] ∧ v = w := by
      rw [List.append_eq_singleton_iff]
      simp
    simp [Reads, Filled, Required, happend, and_assoc]

end concat

@[mk_iff]
structure Apart (r s : Rule δ) : Prop where
  keys : ∀ key ∈ r.keys, key ∉ s.keys
  first : ∀ draft a, s.slot (r.put draft a) = s.slot draft
  second : ∀ draft a, r.slot (s.put draft a) = r.slot draft

end Rule

/-- One field read by the first rule that knows its name; a field of another name is passed over. -/
def readBy {δ : Type} : List (Rule δ) → δ → String → Json → Result δ
  | [], draft, _, _ => .ok draft
  | r :: rest, draft, key, v =>
    if key ∈ r.keys then r.put draft <$> fill r.title (r.slot draft) (r.read v) else readBy rest draft key v

private theorem fill_eq_ok_iff {α : Type} {field : String} {slot : Option α} {value : Result α} {filled : Option α} :
    fill field slot value = .ok filled ↔ slot = none ∧ ∃ a, value = .ok a ∧ filled = some a := by
  cases slot <;> cases value <;> simp [fill, Except.map, eq_comm]

section readBy
variable {δ : Type} {rules : List (Rule δ)} {draft draft' : δ} {key : String} {v : Json}

/-- Whichever rule reads a field, it leaves the slots of others alone. -/
private theorem slot_of_apart {r : Rule δ} (ha : ∀ s ∈ rules, r.Apart s) (h : readBy rules draft key v = .ok draft') :
    r.slot draft' = r.slot draft := by
  induction rules with
  | nil => rw [Except.ok.inj h]
  | cons s rest ih =>
    obtain ⟨hs, ha⟩ := List.forall_mem_cons.mp ha
    rw [readBy] at h
    by_cases hk : key ∈ s.keys
    · rw [if_pos hk] at h
      obtain ⟨filled, _, rfl⟩ := map_eq_ok_iff.mp h
      exact hs.second _ _
    · rw [if_neg hk] at h
      exact ih ha h

/-- A field that a rule knows fills its slot, which was empty. -/
private theorem slot_of_readBy (hp : ∀ r ∈ rules, ∀ draft a, r.slot (r.put draft a) = a)
    (ha : rules.Pairwise Rule.Apart) (h : readBy rules draft key v = .ok draft') : ∀ r ∈ rules,
      if key ∈ r.keys then r.slot draft = none ∧ ∃ a, r.read v = .ok a ∧ r.slot draft' = some a
      else r.slot draft' = r.slot draft := by
  induction rules with
  | nil => exact fun _ h => nomatch h
  | cons r rest ih =>
    obtain ⟨hr, ha⟩ := List.pairwise_cons.mp ha
    obtain ⟨hput, hp⟩ := List.forall_mem_cons.mp hp
    rw [readBy] at h
    by_cases hk : key ∈ r.keys
    · rw [if_pos hk, map_eq_ok_iff] at h
      obtain ⟨filled, hf, rfl⟩ := h
      obtain ⟨hnone, a, hread, rfl⟩ := fill_eq_ok_iff.mp hf
      refine List.forall_mem_cons.mpr ⟨?_, fun s hs => ?_⟩
      · rw [if_pos hk]
        exact ⟨hnone, a, hread, hput _ _⟩
      · rw [if_neg ((hr s hs).keys key hk), (hr s hs).first]
    · rw [if_neg hk] at h
      refine List.forall_mem_cons.mpr ⟨?_, ih hp ha h⟩
      rw [if_neg hk]
      exact slot_of_apart hr h

private theorem exists_readBy (h : ∀ r ∈ rules, key ∈ r.keys → r.slot draft = none ∧ ∃ a, r.read v = .ok a) :
    ∃ draft', readBy rules draft key v = .ok draft' := by
  induction rules with
  | nil => exact ⟨draft, rfl⟩
  | cons r rest ih =>
    obtain ⟨hr, h⟩ := List.forall_mem_cons.mp h
    rw [readBy]
    by_cases hk : key ∈ r.keys
    · obtain ⟨hnone, a, hread⟩ := hr hk
      rw [if_pos hk]
      exact ⟨r.put draft (some a), map_eq_ok_iff.mpr ⟨_, fill_eq_ok_iff.mpr ⟨hnone, a, hread, rfl⟩, rfl⟩⟩
    · rw [if_neg hk]
      exact ih h

end readBy

namespace RecordFormat
variable {δ ρ : Type} {f : RecordFormat δ ρ} {rules : List (Rule δ)}

structure Follows (f : RecordFormat δ ρ) (rules : List (Rule δ)) : Prop where
  accept : f.accept = readBy rules
  blank : ∀ r ∈ rules, r.slot f.blank = none
  put : ∀ r ∈ rules, ∀ draft a, r.slot (r.put draft a) = a
  apart : rules.Pairwise Rule.Apart
  finish : ∀ draft, (∃ record, f.finish draft = some record) ↔ ∀ r ∈ rules, r.required → (r.slot draft).isSome
  ext : ∀ draft draft', (∀ r ∈ rules, r.slot draft = r.slot draft') → draft = draft'

private theorem acceptAll_concat (fields : List (String × Json)) (key : String) (v : Json) :
    f.acceptAll (fields ++ [(key, v)]) = f.acceptAll fields >>= fun draft => f.accept draft key v := by
  simp [acceptAll]

/-- Each slot holds what its field comes to. -/
private theorem Follows.reads (hf : f.Follows rules) {fields : List (String × Json)} {draft : δ}
    (h : f.acceptAll fields = .ok draft) : ∀ r ∈ rules, r.Reads fields (r.slot draft) := by
  -- The fold takes the fields from the front, so that the step is at the last one.
  induction fields using List.reverseRecOn generalizing draft with
  | nil =>
    intro r hr
    rw [← Except.ok.inj h, hf.blank r hr]
    rfl
  | append_singleton fields field ih =>
    obtain ⟨key, v⟩ := field
    rw [acceptAll_concat] at h
    obtain ⟨before, hb, h⟩ := bind_eq_ok_iff.mp h
    rw [hf.accept] at h
    have hs := slot_of_readBy hf.put hf.apart h
    intro r hr
    have hbefore := ih hb r hr
    have hslot := hs r hr
    by_cases hk : key ∈ r.keys
    · rw [if_pos hk] at hslot
      obtain ⟨hnone, a, hread, hsome⟩ := hslot
      rw [hnone] at hbefore
      rw [hsome]
      exact (Rule.reads_concat_of_mem hk).mpr ⟨hbefore, a, hread, rfl⟩
    · rw [if_neg hk] at hslot
      rw [hslot]
      exact (Rule.reads_concat_of_notMem hk).mpr hbefore

/-- A record is read as soon as each of its fields is. -/
private theorem Follows.exists_acceptAll (hf : f.Follows rules) {fields : List (String × Json)}
    (h : ∀ r ∈ rules, ∃ a, r.Reads fields a) : ∃ draft, f.acceptAll fields = .ok draft := by
  induction fields using List.reverseRecOn with
  | nil => exact ⟨f.blank, rfl⟩
  | append_singleton fields field ih =>
    obtain ⟨key, v⟩ := field
    have hlast : ∀ r ∈ rules, ∃ a, r.Reads fields a ∧ (key ∈ r.keys → a = none ∧ ∃ b, r.read v = .ok b) := by
      intro r hr
      obtain ⟨a, ha⟩ := h r hr
      by_cases hk : key ∈ r.keys
      · obtain ⟨hnone, b, hread, _⟩ := (Rule.reads_concat_of_mem hk).mp ha
        exact ⟨none, hnone, fun _ => ⟨rfl, b, hread⟩⟩
      · exact ⟨a, (Rule.reads_concat_of_notMem hk).mp ha, fun h => absurd h hk⟩
    obtain ⟨before, hb⟩ := ih fun r hr => (hlast r hr).imp fun _ h => h.1
    rw [acceptAll_concat, hb]
    show ∃ draft, f.accept before key v = .ok draft
    rw [hf.accept]
    refine exists_readBy fun r hr hk => ?_
    obtain ⟨a, ha, hnew⟩ := hlast r hr
    obtain ⟨rfl, hread⟩ := hnew hk
    exact ⟨(hf.reads hb r hr).unique ha, hread⟩

private theorem Follows.acceptAll_eq_ok_iff (hf : f.Follows rules) {fields : List (String × Json)} {draft : δ} :
    f.acceptAll fields = .ok draft ↔ ∀ r ∈ rules, r.Reads fields (r.slot draft) := by
  refine ⟨hf.reads, fun h => ?_⟩
  obtain ⟨draft', ha⟩ := hf.exists_acceptAll fun r hr => ⟨_, h r hr⟩
  rw [ha, hf.ext draft' draft fun r hr => (hf.reads ha r hr).unique (h r hr)]

theorem Follows.ofFields_eq_ok_iff (hf : f.Follows rules) {fields : List (String × Json)} {record : ρ} :
    f.ofFields fields = .ok record ↔
      ∃ draft, (∀ r ∈ rules, r.Reads fields (r.slot draft)) ∧ f.finish draft = some record := by
  rw [ofFields, bind_eq_ok_iff]
  refine exists_congr fun draft => and_congr hf.acceptAll_eq_ok_iff ?_
  cases f.finish draft <;> simp

/-- The order of the fields does not matter. -/
theorem Follows.ofFields_perm (hf : f.Follows rules) {fields others : List (String × Json)} {record : ρ}
    (hp : fields.Perm others) (h : f.ofFields fields = .ok record) : f.ofFields others = .ok record := by
  obtain ⟨draft, hreads, hfinish⟩ := hf.ofFields_eq_ok_iff.mp h
  exact hf.ofFields_eq_ok_iff.mpr ⟨draft, fun r hr => (hreads r hr).perm (Json.under_perm hp), hfinish⟩

/-- A field of another name does not matter. -/
theorem Follows.ofFields_cons (hf : f.Follows rules) {fields : List (String × Json)} {key : String} {v : Json}
    {record : ρ} (hk : ∀ r ∈ rules, key ∉ r.keys) (h : f.ofFields fields = .ok record) :
    f.ofFields ((key, v) :: fields) = .ok record := by
  obtain ⟨draft, hreads, hfinish⟩ := hf.ofFields_eq_ok_iff.mp h
  refine hf.ofFields_eq_ok_iff.mpr ⟨draft, fun r hr => ?_, hfinish⟩
  rw [Rule.Reads, Json.under_cons, if_neg (hk r hr), List.nil_append]
  exact hreads r hr

/-- A record is read exactly if each of its fields is accepted. -/
theorem Follows.exists_ofFields (hf : f.Follows rules) {fields : List (String × Json)} :
    (∃ record, f.ofFields fields = .ok record) ↔ ∀ r ∈ rules, r.Accepts fields := by
  simp only [hf.ofFields_eq_ok_iff, Rule.accepts_iff]
  constructor
  · rintro ⟨record, draft, hreads, hfinish⟩ r hr
    exact ⟨r.slot draft, hreads r hr, (hf.finish draft).mp ⟨record, hfinish⟩ r hr⟩
  · intro h
    obtain ⟨draft, ha⟩ := hf.exists_acceptAll fun r hr => (h r hr).imp fun _ h => h.1
    have hreads := hf.reads ha
    obtain ⟨record, hfinish⟩ := (hf.finish draft).mpr fun r hr hrequired => by
      obtain ⟨slot, hslot, hsome⟩ := h r hr
      rw [(hreads r hr).unique hslot]
      exact hsome hrequired
    exact ⟨record, draft, hreads, hfinish⟩

/-- A list that is not too long stands for the fields in their order. -/
theorem ofItems_eq_ok_iff {route : Route} {items : List Json} {record : ρ} : f.ofItems route items = .ok record ↔
    items.length ≤ f.fields.length ∧ f.ofFields (f.fields.zip items) = .ok record := by
  unfold ofItems ofFields
  rw [bind_eq_ok_iff, bind_eq_ok_iff, ← exists_and_left]
  refine exists_congr fun draft => ?_
  rw [and_left_comm]
  refine and_congr_right fun _ => ?_
  by_cases h : items.length ≤ f.fields.length <;> cases f.finish draft <;> simp [h]

def fields? (f : RecordFormat δ ρ) : Json → Option (List (String × Json))
  | .object fields => some fields
  | .array items => if items.length ≤ f.fields.length then some (f.fields.zip items) else none
  | _ => none

/-- Whether a value is read as a record, and as which, does not depend on the route. -/
theorem decode_eq_ok_iff {route : Route} {v : Json} {record : ρ} :
    f.decode route v = .ok record ↔ ∃ fields ∈ f.fields? v, f.ofFields fields = .ok record := by
  cases v with
  | object fields => simp [decode, fields?]
  | array items =>
    rw [decode, ofItems_eq_ok_iff, fields?]
    by_cases h : items.length ≤ f.fields.length <;> simp [h]
  | _ => simp [decode, fields?]

end RecordFormat
end Decode
end ProcessDiagram
