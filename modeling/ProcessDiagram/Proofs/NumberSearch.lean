import Mathlib.Data.Finset.Card
import Mathlib.Order.Interval.Finset.Nat
import ProcessDiagram.Proofs.RegistryHistory

/-! How long the search for a free number goes on. It takes one number after the other, from any counter and whatever
ids are in use, and is over before the ids in use are used up. -/
namespace ProcessDiagram.Registry

/-- The search for a free number, given up after so many rounds. In each round the next number is taken, and it is the
one that is searched for if its id is free. -/
def search (issued : List String) (base : String) : Nat → Nat → Option Nat
  | 0, _ => none
  | rounds + 1, n =>
    if suffixed base (n + 1) ∈ issued then search issued base rounds (n + 1) else some (n + 1)

variable {issued : List String} {base : String} {n m : Nat}

/-- The least free number is found in the round that takes it, and not before. -/
private theorem search_eq (least : IsLeast {k | n < k ∧ suffixed base k ∉ issued} m) (rounds : Nat) :
    search issued base rounds n = if m ≤ n + rounds then some m else none := by
  induction rounds generalizing n with
  | zero =>
    have hlt : n < m := least.1.1
    rw [search, if_neg (by omega)]
  | succ rounds ih =>
    obtain ⟨⟨hlt, hfree⟩, hle⟩ := least
    rw [search]
    by_cases hnext : suffixed base (n + 1) ∈ issued
    · have hne : n + 1 ≠ m := fun he => hfree (he ▸ hnext)
      have hstill : IsLeast {k | n + 1 < k ∧ suffixed base k ∉ issued} m :=
        ⟨⟨by omega, hfree⟩, fun k hk => hle ⟨Nat.lt_of_succ_lt hk.1, hk.2⟩⟩
      rw [if_pos hnext, ih hstill, Nat.add_right_comm, Nat.add_assoc]
    · have hm : m = n + 1 := Nat.le_antisymm (hle ⟨Nat.lt_succ_self n, hnext⟩) hlt
      rw [if_neg hnext, hm, if_pos (by omega)]

/-- The base and the numbers that are passed over belong to different ids in use. -/
private theorem advance_le_card (hbase : base ∈ issued) (hapart : ∀ k, base ≠ suffixed base k)
    (least : IsLeast {k | n < k ∧ suffixed base k ∉ issued} m) : m - n ≤ issued.toFinset.card := by
  have hnew : base ∉ (Finset.Ioo n m).image (suffixed base) := by
    intro hm
    obtain ⟨k, _, hk⟩ := Finset.mem_image.mp hm
    exact hapart k hk.symm
  have hused : insert base ((Finset.Ioo n m).image (suffixed base)) ⊆ issued.toFinset := by
    refine Finset.insert_subset (List.mem_toFinset.mpr hbase) fun id hid => ?_
    obtain ⟨k, hk, rfl⟩ := Finset.mem_image.mp hid
    obtain ⟨hnk, hkm⟩ := Finset.mem_Ioo.mp hk
    by_contra hfree
    exact Nat.not_lt_of_le (least.2 ⟨hnk, fun h => hfree (List.mem_toFinset.mpr h)⟩) hkm
  have hcard := Finset.card_le_card hused
  rw [Finset.card_insert_of_notMem hnew, Finset.card_image_of_injective _ (suffixed_injective base),
    Nat.card_Ioo] at hcard
  omega

/-- In every state of a registry, a call for a name whose base is free leaves the counter as it is. For any other name
the search comes to an end, after at least one round and at most as many as there are ids in use, and the counter goes up
by the number of its rounds. -/
theorem allocate_search_ends (r : Registry) (name : String) :
    (baseId name ∉ r.issued → r.allocate name = (baseId name, ⟨r.issued ++ [baseId name], r.collisions⟩)) ∧
    (baseId name ∈ r.issued → ∃ rounds, 1 ≤ rounds ∧ rounds ≤ r.issued.toFinset.card ∧
      (∀ limit, search r.issued (baseId name) limit r.collisions =
        if rounds ≤ limit then some (r.collisions + rounds) else none) ∧
      r.allocate name = (suffixed (baseId name) (r.collisions + rounds),
        ⟨r.issued ++ [suffixed (baseId name) (r.collisions + rounds)], r.collisions + rounds⟩)) := by
  refine ⟨fun hfree => if_neg hfree, fun hbase => ?_⟩
  have least := isLeast_nextFree (baseId name) r.collisions r.issued
  obtain ⟨rounds, hrounds⟩ := Nat.exists_eq_add_of_lt least.1.1
  have hadvance := advance_le_card hbase (baseId_ne_suffixed name (baseId name)) least
  refine ⟨rounds + 1, by omega, by omega, fun limit => ?_, ?_⟩
  · rw [search_eq least, hrounds, Nat.add_assoc]
    simp only [Nat.add_le_add_iff_left]
  · rw [allocate, if_pos hbase, hrounds, Nat.add_assoc]

def crowded : Registry := ⟨["a", "a_5", "b", "a_6"], 4⟩

theorem crowded_search_ends :
    crowded.allocate "c" = ("c", ⟨crowded.issued ++ ["c"], 4⟩) ∧ 3 ≤ crowded.issued.toFinset.card ∧
    search crowded.issued "a" 2 4 = none ∧ search crowded.issued "a" 3 4 = some 7 ∧
    crowded.allocate "a!" = ("a_7", ⟨crowded.issued ++ ["a_7"], 7⟩) := by
  have hc : baseId "c" = "c" := by decide +kernel
  have ha : baseId "a!" = "a" := by decide +kernel
  obtain ⟨hfree, -⟩ := allocate_search_ends crowded "c"
  obtain ⟨-, htaken⟩ := allocate_search_ends crowded "a!"
  rw [hc] at hfree
  rw [ha] at htaken
  obtain ⟨rounds, _, hcard, hsearch, hallocate⟩ := htaken (by decide)
  have hlast : (crowded.allocate "a!").2.collisions = 7 := by decide +kernel
  rw [hallocate] at hlast
  have hrounds : rounds = 3 := Nat.add_left_cancel hlast
  subst hrounds
  exact ⟨hfree (by decide), hcard, hsearch 2, hsearch 3, hallocate⟩

end ProcessDiagram.Registry
