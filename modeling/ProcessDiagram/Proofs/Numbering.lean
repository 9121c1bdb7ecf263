import Mathlib.Data.List.Induction
import ProcessDiagram.Diagram.Drawing
import ProcessDiagram.Proofs.Identifier

/-! The numbers behind ids. While every id in use comes from a key, the counter of a registry says how many keys found
their base taken, so that each number is given once and none is left out. -/
namespace ProcessDiagram

/-- The base of a key is the spacer's id, or an earlier key has the same one. -/
def Collides (earlier : List String) (key : String) : Prop :=
  Registry.baseId key = spacerId ∨ ∃ other ∈ earlier, Registry.baseId other = Registry.baseId key

instance (earlier : List String) (key : String) : Decidable (Collides earlier key) :=
  inferInstanceAs (Decidable (_ ∨ ∃ other ∈ earlier, Registry.baseId other = Registry.baseId key))

def collisionCount (keys : List String) : Nat :=
  keys.zipIdx.countP fun x => Collides (keys.take x.2) x.1

def idAfter (earlier : List String) (key : String) : String :=
  if Collides earlier key then Registry.suffixed (Registry.baseId key) (collisionCount (earlier ++ [key]))
  else Registry.baseId key

def hasSuffix (id : String) : Bool := '_' ∈ id.toList

private theorem collisionCount_concat (keys : List String) (key : String) :
    collisionCount (keys ++ [key]) = collisionCount keys + if Collides keys key then 1 else 0 := by
  have hold : keys.zipIdx.countP (fun x => Collides ((keys ++ [key]).take x.2) x.1) = collisionCount keys := by
    refine List.countP_congr fun x hx => ?_
    have hlt : x.2 < keys.length := by simpa using List.snd_lt_of_mem_zipIdx hx
    rw [List.take_append_of_le_length (Nat.le_of_lt hlt)]
  rw [collisionCount, List.zipIdx_append, List.countP_append, hold]
  simp [List.countP_cons]

private theorem idAfter_of_collides {earlier : List String} {key : String} (h : Collides earlier key) :
    idAfter earlier key = Registry.suffixed (Registry.baseId key) (collisionCount earlier + 1) := by
  rw [idAfter, if_pos h, collisionCount_concat, if_pos h]

private theorem idAfter_of_not_collides {earlier : List String} {key : String} (h : ¬ Collides earlier key) :
    idAfter earlier key = Registry.baseId key := if_neg h

private theorem collides_concat {earlier : List String} {key other : String} :
    Collides (earlier ++ [key]) other ↔ Collides earlier other ∨ Registry.baseId key = Registry.baseId other := by
  simp [Collides, or_and_right, exists_or, or_assoc]

namespace Registry

private theorem baseId_no_underscore (key : String) : '_' ∉ (baseId key).toList := by
  refine IsIdentifier.underscore_notMem fun c hc => ?_
  rw [baseId, String.toList_ofList] at hc
  exact (List.mem_filter.mp hc).2

theorem hasSuffix_suffixed (base : String) (n : Nat) : hasSuffix (suffixed base n) := by
  simp [hasSuffix, suffixed]

private theorem hasSuffix_baseId (key : String) : hasSuffix (baseId key) = false :=
  decide_eq_false (baseId_no_underscore key)

theorem baseId_ne_suffixed (key base : String) (n : Nat) : baseId key ≠ suffixed base n := by
  intro he
  have hs := hasSuffix_suffixed base n
  rw [← he, hasSuffix_baseId] at hs
  exact Bool.false_ne_true hs

/-- A number can be read off an id. -/
private theorem number_inj {key other : String} {m n : Nat}
    (h : suffixed (baseId key) m = suffixed (baseId other) n) : m = n := by
  have hd : '_' ∉ (toString m).toList := by simp [Nat.toString_eq_repr]
  have hl : (baseId key).toList ++ '_' :: (toString m).toList =
      (baseId other).toList ++ '_' :: (toString n).toList := by
    simpa [suffixed, List.append_assoc] using congrArg String.toList h
  have hbase := (List.append_cons_inj_of_notMem (baseId_no_underscore key) hd).mp hl
  have he : baseId key = baseId other := String.toList_injective hbase.1
  exact suffixed_injective (baseId key) (h.trans (by rw [he]))

def issue (r : Registry) (keys : List String) : Registry := keys.foldl (fun r key => (r.allocate key).2) r

theorem issue_append (r : Registry) (keys later : List String) :
    r.issue (keys ++ later) = (r.issue keys).issue later := List.foldl_append

private theorem issue_concat (r : Registry) (keys : List String) (key : String) :
    r.issue (keys ++ [key]) = ((r.issue keys).allocate key).2 := r.issue_append keys [key]

/-- What stands in a registry after the spacer's id was reserved and each of the keys was given an id. -/
structure Tidy (r : Registry) (keys : List String) : Prop where
  head : r.issued.head? = some spacerId
  length : r.issued.length = keys.length + 1
  bases : ∀ key, baseId key ∈ r.issued ↔ Collides keys key
  numbers : ∀ key n, suffixed (baseId key) n ∈ r.issued → n ≤ r.collisions
  counted : r.collisions = collisionCount keys
  suffixes : r.issued.countP hasSuffix = r.collisions

namespace Tidy
variable {r : Registry} {keys : List String}

private theorem suffixed_notMem (h : r.Tidy keys) (key : String) :
    suffixed (baseId key) (r.collisions + 1) ∉ r.issued := by
  intro hm
  have := h.numbers key _ hm
  omega

/-- The first number that is tried is free. -/
theorem nextFree_eq (h : r.Tidy keys) (key : String) :
    nextFree (baseId key) r.collisions r.issued = r.collisions + 1 := by
  rw [nextFree, if_neg (h.suffixed_notMem key)]

private theorem allocate_eq (h : r.Tidy keys) (key : String) : r.allocate key = (idAfter keys key,
    ⟨r.issued ++ [idAfter keys key], if Collides keys key then r.collisions + 1 else r.collisions⟩) := by
  by_cases hc : Collides keys key
  · rw [idAfter_of_collides hc, if_pos hc, ← h.counted]
    simp only [allocate, if_pos ((h.bases key).mpr hc), h.nextFree_eq]
  · rw [idAfter_of_not_collides hc, if_neg hc]
    simp only [allocate, if_neg (mt (h.bases key).mp hc)]

/-- A key whose base is taken leaves a number behind, and any other its base. -/
private theorem allocate (h : r.Tidy keys) (key : String) : (r.allocate key).2.Tidy (keys ++ [key]) := by
  rw [h.allocate_eq]
  by_cases hc : Collides keys key
  · simp only [if_pos hc, idAfter_of_collides hc, ← h.counted]
    constructor
    · simp [List.head?_append, h.head]
    · simp [h.length]
    · intro other
      have hne : baseId other ≠ suffixed (baseId key) (r.collisions + 1) :=
        baseId_ne_suffixed other (baseId key) _
      rw [List.mem_append, List.mem_singleton, h.bases, collides_concat, or_iff_left hne]
      refine (or_iff_left_of_imp fun he => ?_).symm
      rwa [Collides, ← he]
    · intro other n hm
      rcases List.mem_append.mp hm with hm | hm
      · exact Nat.le_succ_of_le (h.numbers other n hm)
      · exact Nat.le_of_eq (number_inj (List.mem_singleton.mp hm))
    · rw [collisionCount_concat, if_pos hc, h.counted]
    · simp [hasSuffix_suffixed, h.suffixes]
  · simp only [if_neg hc, idAfter_of_not_collides hc]
    constructor
    · simp [List.head?_append, h.head]
    · simp [h.length]
    · intro other
      rw [List.mem_append, List.mem_singleton, h.bases, collides_concat, eq_comm]
    · intro other n hm
      rcases List.mem_append.mp hm with hm | hm
      · exact h.numbers other n hm
      · exact absurd (List.mem_singleton.mp hm).symm (baseId_ne_suffixed key (baseId other) n)
    · rw [collisionCount_concat, if_neg hc, Nat.add_zero, h.counted]
    · simp [hasSuffix_baseId, h.suffixes]

theorem issue (h : r.Tidy []) (keys : List String) : (r.issue keys).Tidy keys := by
  induction keys using List.reverseRecOn with
  | nil => exact h
  | append_singleton keys key ih =>
    rw [issue_concat]
    exact ih.allocate key

/-- The ids stand in the order of the keys, each as it is due after the keys before it. -/
theorem getElem?_issued (h : r.Tidy []) {keys : List String} {i : Nat} {key : String} (hk : keys[i]? = some key) :
    (r.issue keys).issued.tail[i]? = some (idAfter (keys.take i) key) := by
  induction keys using List.reverseRecOn with
  | nil => cases hk
  | append_singleton keys last ih =>
    have ht := h.issue keys
    have hne : (r.issue keys).issued ≠ [] := by
      intro he
      have := ht.length
      simp [he] at this
    have hlen : (r.issue keys).issued.tail.length = keys.length := by simp [ht.length]
    rw [issue_concat, ht.allocate_eq, List.tail_append_of_ne_nil hne]
    rcases Nat.lt_trichotomy i keys.length with hlt | rfl | hgt
    · rw [List.getElem?_append_left (by omega), List.take_append_of_le_length (Nat.le_of_lt hlt)]
      rw [List.getElem?_append_left hlt] at hk
      exact ih hk
    · rw [List.getElem?_append_right (by omega), List.take_left, hlen]
      simp only [List.getElem?_append_right (Nat.le_refl _), Nat.sub_self, List.getElem?_cons_zero,
        Option.some.injEq] at hk ⊢
      rw [hk]
    · rw [List.getElem?_eq_none (by simp; omega)] at hk
      cases hk

end Tidy

end Registry

end ProcessDiagram
