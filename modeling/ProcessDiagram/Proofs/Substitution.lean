/-! A character replaced throughout a text. The search for it cuts the text into the places where it stands and the
pieces between them; what comes out is what each character becomes by itself. -/
namespace ProcessDiagram.Text
open String.Slice (Pos)
open String.Slice.Pattern String.Slice.Pattern.Model

def substitute (c : Char) (t s : List Char) : List Char := s.flatMap fun d => if d = c then t else [d]

variable {c : Char} {t s r : List Char}

theorem substitute_append : substitute c t (s ++ r) = substitute c t s ++ substitute c t r := List.flatMap_append

private theorem substitute_self : substitute c t [c] = t := by simp [substitute]

theorem substitute_of_notMem (h : c ∉ s) : substitute c t s = s := by
  induction s with
  | nil => rfl
  | cons d s ih =>
    rw [List.mem_cons, not_or] at h
    rw [substitute, List.flatMap_cons, if_neg (Ne.symm h.1)]
    exact congrArg (d :: ·) (ih h.2)

/-! Pieces of text between positions. -/

section Pieces
variable {text : String.Slice} {p q : text.Pos}

private theorem copy_sliceFrom (h : p ≤ q) :
    (text.sliceFrom p).copy = (text.slice p q h).copy ++ (text.sliceFrom q).copy := by
  obtain ⟨before, after, hp, hq⟩ := String.Slice.copy_slice_eq_iff_splits.mp ⟨h, rfl⟩
  rw [hp.copy_sliceFrom_eq, hq.copy_sliceFrom_eq]

private theorem exists_get_of_mem_slice {h : p ≤ q} (hc : c ∈ (text.slice p q h).copy.toList) :
    ∃ place, p ≤ place ∧ place < q ∧ ∃ hp, place.get hp = c := by
  obtain ⟨place, hplace, hget⟩ := String.Slice.mem_toList_copy_iff_exists_get.mp hc
  have hlt : Pos.ofSlice place < q := by
    simpa [← Pos.lt_endPos_iff, ← Pos.ofSlice_lt_ofSlice_iff] using hplace
  exact ⟨Pos.ofSlice place, Pos.le_ofSlice, hlt, Pos.ne_endPos_of_lt hlt, Pos.get_eq_get_ofSlice ▸ hget⟩

private theorem slice_of_match (h : IsLongestMatchAt c p q) : (text.slice p q h.le).copy.toList = [c] := by
  obtain ⟨hp, rfl, hget⟩ := Char.isLongestMatchAt_iff.mp h
  rw [String.Slice.copy_slice_next, hget, String.toList_singleton]

private theorem notMem_slice (h : p ≤ q) (hnone : ∀ place, p ≤ place → place < q → ¬ MatchesAt c place) :
    c ∉ (text.slice p q h).copy.toList := by
  intro hc
  obtain ⟨place, hle, hlt, hget⟩ := exists_get_of_mem_slice hc
  exact hnone place hle hlt (Char.matchesAt_iff.mpr hget)

end Pieces

/-! The search and what is written in its course. -/

def replaceStep {text : String.Slice} (replacement done : String) : SearchStep text → String
  | .matched _ _ => done ++ replacement.toSlice
  | .rejected start stop => done ++ text.slice! start stop

private theorem toList_foldl_replaceStep (replacement : String) {text : String.Slice} {p : text.Pos}
    {steps : List (SearchStep text)} (h : IsValidSearchFrom c p steps) (done : String) :
    (steps.foldl (replaceStep replacement) done).toList =
      done.toList ++ substitute c replacement.toList (text.sliceFrom p).copy.toList := by
  induction h generalizing done with
  | endPos =>
    rw [String.Slice.copy_sliceFrom_endPos]
    simp [substitute]
  | matched hmatch _ ih =>
    rw [List.foldl_cons, ih, copy_sliceFrom hmatch.le, String.toList_append, slice_of_match hmatch, substitute_append,
      substitute_self]
    simp [replaceStep]
  | mismatched hlt hnone _ ih =>
    have hle := Std.le_of_lt hlt
    rw [List.foldl_cons, ih, copy_sliceFrom hle, String.toList_append, substitute_append,
      substitute_of_notMem (notMem_slice hle hnone), replaceStep, ← String.Slice.slice_eq_slice! (h := hle)]
    simp

theorem toList_replace (c : Char) (replacement s : String) :
    (s.replace c replacement).toList = substitute c replacement.toList s.toList := by
  have hvalid : IsValidSearchFrom c s.toSlice.startPos (ToForwardSearcher.toSearcher c s.toSlice).toList :=
    LawfulToForwardSearcherModel.isValidSearchFrom_toList s.toSlice
  have hfold : s.replace c replacement =
      (ToForwardSearcher.toSearcher c s.toSlice).fold (replaceStep replacement) "" := by
    rw [String.replace, String.Slice.replace]
    congr
    funext done step
    cases step <;> rfl
  rw [hfold, ← Std.Iter.foldl_toList, toList_foldl_replaceStep replacement hvalid]
  simp

end ProcessDiagram.Text
