import Mathlib.Data.List.Basic
import Std.Data.String.ToNat
import ProcessDiagram.Diagram.Registry

/-! What a registry issues: an id that nobody holds, which is the base of a name or such a base with
a number behind an underscore. -/
namespace ProcessDiagram

/-- The two forms of an issued id. The base has no underscore, so the two never meet. -/
def IsIdentifier (id : String) : Prop :=
  ∃ base : String, (∀ c ∈ base.toList, Text.isAlphanumeric c) ∧
    (id = base ∨ ∃ n, id = Registry.suffixed base n)

namespace Registry

theorem suffixed_injective (base : String) : Function.Injective (suffixed base) := by
  intro m n h
  have ht : toString m = toString n := (String.append_right_inj (base ++ "_")).mp h
  exact Nat.repr_injective (by simpa [Nat.toString_eq_repr] using ht)

theorem lt_nextFree (base : String) (n : Nat) (taken : List String) : n < nextFree base n taken := by
  fun_induction nextFree base n taken with
  | case1 n taken _ ih => omega
  | case2 n taken _ => omega

/-- A number that is struck out on the way is smaller than the one found. -/
theorem suffixed_nextFree_notMem (base : String) (n : Nat) (taken : List String) :
    suffixed base (nextFree base n taken) ∉ taken := by
  fun_induction nextFree base n taken with
  | case1 n taken _ ih =>
    have hlt := lt_nextFree base (n + 1) (taken.erase (suffixed base (n + 1)))
    intro hmem
    refine ih ((List.mem_erase_of_ne fun he => ?_).mpr hmem)
    have := suffixed_injective base he
    omega
  | case2 n taken h => exact h

/-- What one call does: the base if it is free, and else a number above the counter. -/
theorem allocate_cases (r : Registry) (name : String) :
    (baseId name ∉ r.issued ∧ r.allocate name = (baseId name, ⟨r.issued ++ [baseId name], r.collisions⟩)) ∨
    (baseId name ∈ r.issued ∧ ∃ n, r.collisions < n ∧ suffixed (baseId name) n ∉ r.issued ∧
      r.allocate name = (suffixed (baseId name) n, ⟨r.issued ++ [suffixed (baseId name) n], n⟩)) := by
  by_cases h : baseId name ∈ r.issued
  · exact Or.inr ⟨h, _, lt_nextFree _ _ _, suffixed_nextFree_notMem _ _ _, if_pos h⟩
  · exact Or.inl ⟨h, if_neg h⟩

theorem allocate_notMem (r : Registry) (name : String) : (r.allocate name).1 ∉ r.issued := by
  obtain ⟨h, he⟩ | ⟨_, n, _, h, he⟩ := r.allocate_cases name <;> rw [he] <;> exact h

@[simp] theorem issued_allocate (r : Registry) (name : String) :
    (r.allocate name).2.issued = r.issued ++ [(r.allocate name).1] := by
  obtain ⟨_, he⟩ | ⟨_, n, _, _, he⟩ := r.allocate_cases name <;> rw [he]

theorem allocate_isIdentifier (r : Registry) (name : String) : IsIdentifier (r.allocate name).1 := by
  have hb : ∀ c ∈ (baseId name).toList, Text.isAlphanumeric c := by
    intro c hc
    rw [baseId, String.toList_ofList] at hc
    exact (List.mem_filter.mp hc).2
  obtain ⟨_, he⟩ | ⟨_, n, _, _, he⟩ := r.allocate_cases name
  · exact ⟨_, hb, Or.inl (by rw [he])⟩
  · exact ⟨_, hb, Or.inr ⟨n, by rw [he]⟩⟩

end Registry

namespace IsIdentifier

theorem underscore_notMem {base : String} (h : ∀ c ∈ base.toList, Text.isAlphanumeric c) :
    '_' ∉ base.toList := fun hm => absurd (h _ hm) (by decide)

/-- What stands behind an underscore in an id is a number. -/
theorem tail_eq_toString {word tail : String} (h : IsIdentifier (word ++ "_" ++ tail)) :
    ∃ n : Nat, tail = toString n := by
  obtain ⟨base, hb, he | ⟨n, he⟩⟩ := h
  · have hu : '_' ∈ base.toList := by rw [← he]; simp
    exact absurd hu (underscore_notMem hb)
  · have hd : '_' ∉ (toString n).toList := by
      simp [Nat.toString_eq_repr]
    have hl : base.toList ++ '_' :: (toString n).toList = word.toList ++ '_' :: tail.toList := by
      simpa [Registry.suffixed, List.append_assoc] using congrArg String.toList he.symm
    have ht := (List.append_cons_inj_of_notMem (underscore_notMem hb) hd).mp hl
    exact ⟨n, String.toList_injective ht.2.2.symm⟩

end IsIdentifier

end ProcessDiagram
