import Mathlib.Data.List.Basic
import ProcessDiagram.Proofs.Lists
import ProcessDiagram.Proofs.Mention

/-! Which elements of a flow come one after the other, by their positions, and what lies between them. -/
namespace ProcessDiagram

def between (entries : List Entry) (i j : Nat) : List Entry := (entries.take j).drop (i + 1)

/-- An entry that fails for another reason than a missing type. -/
def isGap : Entry → Bool
  | .ok _ => false
  | .error e => !e.isUntyped

def separated (entries : List Entry) (i j : Nat) : Bool := (between entries i j).any isGap

/-- Two elements with no third one between them. -/
structure Consecutive (entries : List Entry) (i j : Nat) : Prop where
  lt : i < j
  first : ∃ e, entries[i]? = some (.ok e)
  second : ∃ e, entries[j]? = some (.ok e)
  failing : ∀ entry ∈ between entries i j, ∃ e, entry = .error e

/-- Two elements with nothing between them but entries without type. -/
structure Neighbours (entries : List Entry) (i j : Nat) : Prop where
  lt : i < j
  first : ∃ e, entries[i]? = some (.ok e)
  second : ∃ e, entries[j]? = some (.ok e)
  untyped : ∀ entry ∈ between entries i j, entry = .error .missingType

private theorem isUntyped_iff {e : DescriptionError} : e.isUntyped ↔ e = .missingType := by
  cases e <;> simp [DescriptionError.isUntyped]

/-- Neighbours are consecutive elements that no gap separates. -/
theorem neighbours_iff {entries : List Entry} {i j : Nat} :
    Neighbours entries i j ↔ Consecutive entries i j ∧ separated entries i j = false := by
  have pointwise (entry : Entry) : entry = .error .missingType ↔ (∃ e, entry = .error e) ∧ isGap entry = false := by
    cases entry with
    | ok e => simp
    | error e => simp [isGap, isUntyped_iff]
  constructor
  · rintro ⟨hlt, hi, hj, hu⟩
    refine ⟨⟨hlt, hi, hj, fun entry h => ((pointwise entry).mp (hu entry h)).1⟩, ?_⟩
    refine List.any_eq_false.mpr fun entry h => ?_
    rw [((pointwise entry).mp (hu entry h)).2]
    exact Bool.false_ne_true
  · rintro ⟨⟨hlt, hi, hj, hf⟩, hs⟩
    refine ⟨hlt, hi, hj, fun entry h => (pointwise entry).mpr ⟨hf entry h, ?_⟩⟩
    exact Bool.eq_false_iff.mpr (List.any_eq_false.mp hs entry h)

/-! The pairs of neighbours, in the order of the flow. -/

/-- The position of the first element, if it comes before all gaps. -/
def leader : List Entry → Option Nat
  | [] => none
  | .ok _ :: _ => some 0
  | .error e :: rest => if e.isUntyped then (leader rest).map (· + 1) else none

def shift (pair : Nat × Nat) : Nat × Nat := (pair.1 + 1, pair.2 + 1)

def neighbours : List Entry → List (Nat × Nat)
  | [] => []
  | .ok _ :: rest => ((leader rest).map fun j => (0, j + 1)).toList ++ (neighbours rest).map shift
  | .error _ :: rest => (neighbours rest).map shift

private theorem leader_eq_some_iff {entries : List Entry} {j : Nat} : leader entries = some j ↔
    (∃ e, entries[j]? = some (.ok e)) ∧ ∀ entry ∈ entries.take j, entry = .error .missingType := by
  induction entries generalizing j with
  | nil => simp [leader]
  | cons entry rest ih =>
    cases entry with
    | ok e =>
      cases j with
      | zero => simp [leader]
      | succ j => simp [leader]
    | error e =>
      cases j with
      | zero => cases h : e.isUntyped <;> simp [leader, h]
      | succ j =>
        by_cases h : e.isUntyped
        · have he := isUntyped_iff.mp h
          simp [leader, he, ih, DescriptionError.isUntyped]
        · have he : e ≠ .missingType := fun he => h (isUntyped_iff.mpr he)
          simp [leader, h, he]

private theorem neighbours_succ {entry : Entry} {rest : List Entry} {i j : Nat} :
    Neighbours (entry :: rest) (i + 1) (j + 1) ↔ Neighbours rest i j :=
  ⟨fun h => ⟨Nat.lt_of_succ_lt_succ h.lt, h.first, h.second, h.untyped⟩,
    fun h => ⟨Nat.succ_lt_succ h.lt, h.first, h.second, h.untyped⟩⟩

private theorem neighbours_zero {entry : Entry} {rest : List Entry} {j : Nat} :
    Neighbours (entry :: rest) 0 (j + 1) ↔ (∃ e, entry = .ok e) ∧ leader rest = some j := by
  rw [leader_eq_some_iff]
  constructor
  · rintro ⟨_, ⟨e, he⟩, hj, hu⟩
    exact ⟨⟨e, Option.some_inj.mp he⟩, hj, hu⟩
  · rintro ⟨⟨e, rfl⟩, hj, hu⟩
    exact ⟨Nat.succ_pos j, ⟨e, rfl⟩, hj, hu⟩

private theorem mem_map_shift {pairs : List (Nat × Nat)} {i j : Nat} :
    (i, j) ∈ pairs.map shift ↔ ∃ k l, (k, l) ∈ pairs ∧ i = k + 1 ∧ j = l + 1 := by
  simp only [List.mem_map, shift, Prod.exists, Prod.mk.injEq, eq_comm]

theorem mem_neighbours {entries : List Entry} {i j : Nat} :
    (i, j) ∈ neighbours entries ↔ Neighbours entries i j := by
  induction entries generalizing i j with
  | nil =>
    refine ⟨fun h => absurd h List.not_mem_nil, fun h => ?_⟩
    obtain ⟨e, he⟩ := h.first
    cases he
  | cons entry rest ih =>
    -- the first entry takes part in pairs that begin at position zero, and in no others
    have later : (i, j) ∈ (neighbours rest).map shift ↔ Neighbours (entry :: rest) i j ∧ i ≠ 0 := by
      rw [mem_map_shift]
      constructor
      · rintro ⟨k, l, h, rfl, rfl⟩
        exact ⟨neighbours_succ.mpr (ih.mp h), Nat.succ_ne_zero k⟩
      · rintro ⟨h, hi⟩
        obtain ⟨k, rfl⟩ := Nat.exists_eq_succ_of_ne_zero hi
        obtain ⟨l, rfl⟩ := Nat.exists_eq_succ_of_ne_zero (Nat.ne_zero_of_lt h.lt)
        exact ⟨k, l, ih.mpr (neighbours_succ.mp h), rfl, rfl⟩
    have start (h : Neighbours (entry :: rest) i j) (hi : i = 0) :
        ∃ l, j = l + 1 ∧ (∃ e, entry = .ok e) ∧ leader rest = some l := by
      subst hi
      obtain ⟨l, rfl⟩ := Nat.exists_eq_succ_of_ne_zero (Nat.ne_zero_of_lt h.lt)
      exact ⟨l, rfl, neighbours_zero.mp h⟩
    cases entry with
    | ok e =>
      rw [neighbours, List.mem_append, later]
      simp only [Option.mem_toList, Option.map_eq_some_iff, Prod.mk.injEq]
      constructor
      · rintro (⟨l, hl, rfl, rfl⟩ | ⟨h, _⟩)
        · exact neighbours_zero.mpr ⟨⟨e, rfl⟩, hl⟩
        · exact h
      · intro h
        by_cases hi : i = 0
        · obtain ⟨l, hj, _, hl⟩ := start h hi
          exact Or.inl ⟨l, hl, hi.symm, hj.symm⟩
        · exact Or.inr ⟨h, hi⟩
    | error e =>
      rw [neighbours, later]
      refine ⟨fun h => h.1, fun h => ⟨h, fun hi => ?_⟩⟩
      obtain ⟨_, _, ⟨_, he⟩, _⟩ := start h hi
      cases he

theorem neighbours_sorted (entries : List Entry) : (neighbours entries).Pairwise (fun p q => p.1 < q.1) := by
  induction entries with
  | nil => exact .nil
  | cons entry rest ih =>
    have later : ((neighbours rest).map shift).Pairwise (fun p q => p.1 < q.1) :=
      List.pairwise_map.mpr (ih.imp Nat.succ_lt_succ)
    cases entry with
    | ok e =>
      rw [neighbours, List.pairwise_append]
      refine ⟨?_, later, ?_⟩
      · cases leader rest <;> simp
      · rintro p hp ⟨i, j⟩ hq
        obtain ⟨k, _, _, rfl, _⟩ := mem_map_shift.mp hq
        obtain ⟨_, _, rfl⟩ := Option.map_eq_some_iff.mp (Option.mem_toList.mp hp)
        exact Nat.succ_pos k
    | error e => exact later

/-! With its failing entries left out, or turned into entries without type, a flow has all its consecutive elements as
neighbours. -/

def purged (entries : List Entry) : List Entry := (validElements entries).map .ok

def loosen : Entry → Entry
  | .ok e => .ok e
  | .error _ => .error .missingType

private theorem loosen_eq_ok_iff {entry : Entry} {e : FlowElement} : loosen entry = .ok e ↔ entry = .ok e := by
  cases entry <;> simp [loosen]

private theorem loosen_eq_error_iff {entry : Entry} : loosen entry = .error .missingType ↔ ∃ e, entry = .error e := by
  cases entry <;> simp [loosen]

private theorem consecutive_iff {entries : List Entry} {i j : Nat} :
    Consecutive entries i j ↔ Neighbours (entries.map loosen) i j := by
  have ok (k : Nat) : (∃ e, (entries.map loosen)[k]? = some (.ok e)) ↔ ∃ e, entries[k]? = some (.ok e) := by
    simp only [List.getElem?_map, Option.map_eq_some_iff, loosen_eq_ok_iff, exists_eq_right]
  have failing : (∀ entry ∈ between (entries.map loosen) i j, entry = .error .missingType) ↔
      ∀ entry ∈ between entries i j, ∃ e, entry = .error e := by
    simp only [between, ← List.map_take, ← List.map_drop, List.forall_mem_map, loosen_eq_error_iff]
  exact ⟨fun h => ⟨h.lt, (ok i).mpr h.first, (ok j).mpr h.second, failing.mpr h.failing⟩,
    fun h => ⟨h.lt, (ok i).mp h.first, (ok j).mp h.second, failing.mp h.untyped⟩⟩

def consecutives (entries : List Entry) : List (Nat × Nat) := neighbours (entries.map loosen)

theorem mem_consecutives {entries : List Entry} {i j : Nat} :
    (i, j) ∈ consecutives entries ↔ Consecutive entries i j := mem_neighbours.trans consecutive_iff.symm

theorem neighbours_eq_filter (entries : List Entry) : neighbours entries =
    (consecutives entries).filter fun pair => !separated entries pair.1 pair.2 := by
  refine eq_of_sorted (neighbours_sorted entries) ((neighbours_sorted _).filter _) ?_
  rintro ⟨i, j⟩
  rw [mem_neighbours, neighbours_iff, List.mem_filter, mem_consecutives, Bool.not_eq_true']

theorem map_loosen {entries : List Entry} (h : ∀ e, Except.error e ∈ entries → e = .missingType) :
    entries.map loosen = entries := by
  conv_rhs => rw [← List.map_id entries]
  apply List.map_congr_left
  intro entry hm
  cases entry with
  | ok e => rfl
  | error e => rw [h e hm]; rfl

end ProcessDiagram
