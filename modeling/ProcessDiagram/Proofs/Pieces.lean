import Mathlib.Data.List.DropRight
import ProcessDiagram.Text.Blank
import ProcessDiagram.Proofs.Lists

/-! Text in pieces. To cut a text at a character and to join pieces with it undo each other, and what is left of a text
without the blanks at its ends is told by what stands around it. -/
namespace ProcessDiagram.Text
variable {sep : Char}

private theorem splitChars_eq_splitOn (s : List Char) : splitChars sep s = s.splitOn sep := by
  induction s with
  | nil => rfl
  | cons c s ih =>
    obtain ⟨piece, pieces, hs⟩ := List.exists_cons_of_ne_nil (List.splitOn_ne_nil sep s)
    rw [splitChars, ih, List.splitOn_cons_eq_if_modifyHead, hs]
    by_cases hc : c = sep <;> simp [hc]

private theorem map_toList_split (s : String) : (split sep s).map String.toList = s.toList.splitOn sep := by
  rw [split, splitChars_eq_splitOn, List.map_map]
  simp [Function.comp_def]

theorem split_ne_nil (s : String) : split sep s ≠ [] := by
  intro h
  exact List.splitOn_ne_nil sep s.toList (by rw [← map_toList_split, h]; rfl)

theorem intercalate_split (s : String) : (String.singleton sep).intercalate (split sep s) = s := by
  refine String.toList_injective ?_
  rw [String.toList_intercalate, map_toList_split, String.toList_singleton, List.intercalate_splitOn]

theorem split_intercalate {pieces : List String} (h : ∀ p ∈ pieces, sep ∉ p.toList) (hne : pieces ≠ []) :
    split sep ((String.singleton sep).intercalate pieces) = pieces := by
  refine List.map_injective_iff.mpr (fun _ _ => String.toList_injective) ?_
  rw [map_toList_split, String.toList_intercalate, String.toList_singleton, List.splitOn_intercalate]
  · simpa using h
  · simpa using hne

theorem split_append (s t : String) : split sep (s ++ String.singleton sep ++ t) = split sep s ++ split sep t := by
  refine List.map_injective_iff.mpr (fun _ _ => String.toList_injective) ?_
  rw [List.map_append, map_toList_split, map_toList_split, map_toList_split, String.toList_append, String.toList_append,
    String.toList_singleton, List.append_assoc, List.singleton_append, List.splitOn_append_cons_self]

theorem split_of_notMem {s : String} (h : sep ∉ s.toList) : split sep s = [s] := by
  refine List.map_injective_iff.mpr (fun _ _ => String.toList_injective) ?_
  rw [map_toList_split, List.splitOn_eq_singleton h]
  rfl

theorem notMem_of_mem_split {s piece : String} (h : piece ∈ split sep s) : sep ∉ piece.toList := by
  refine notMem_of_mem_splitOn (s := s.toList) ?_
  rw [← map_toList_split]
  exact List.mem_map_of_mem h

structure IsTrim (s t : String) : Prop where
  around : ∃ before after, allBlank before ∧ allBlank after ∧ s = before ++ t ++ after
  head : ∀ c ∈ t.toList.head?, ¬ isBlank c
  last : ∀ c ∈ t.toList.getLast?, ¬ isBlank c

private theorem trimChars_eq (s : List Char) : trimChars s = (s.dropWhile isBlank).rdropWhile isBlank := rfl

theorem isTrim_trim (s : String) : IsTrim s (trim s) where
  around := by
    refine ⟨.ofList (s.toList.takeWhile isBlank), .ofList ((s.toList.dropWhile isBlank).rtakeWhile isBlank), ?_, ?_, ?_⟩
    · simp [allBlank]
    · rw [allBlank, String.toList_ofList, List.all_eq_true]
      exact fun c => List.mem_rtakeWhile_imp
    · refine String.toList_injective ?_
      rw [trim, trimChars_eq, String.toList_append, String.toList_append, String.toList_ofList, String.toList_ofList,
        String.toList_ofList, List.append_assoc, List.rdropWhile_append_rtakeWhile, List.takeWhile_append_dropWhile]
  head c hc := by
    rw [trim, String.toList_ofList, trimChars_eq] at hc
    obtain ⟨rest, hrest⟩ := List.rdropWhile_prefix isBlank (l := s.toList.dropWhile isBlank)
    have hfirst : (s.toList.dropWhile isBlank).head? = some c := by
      rw [← hrest, List.head?_append, hc]
      rfl
    have hnot := List.head?_dropWhile_not isBlank s.toList
    rw [hfirst] at hnot
    simpa using hnot
  last c hc := by
    rw [trim, String.toList_ofList, trimChars_eq] at hc
    obtain ⟨hne, rfl⟩ := List.mem_getLast?_eq_getLast hc
    exact List.rdropWhile_last_not isBlank _ hne

theorem IsTrim.trim_eq {s t : String} (h : IsTrim s t) : trim s = t := by
  obtain ⟨⟨before, after, hbefore, hafter, rfl⟩, hhead, hlast⟩ := h
  rw [allBlank, List.all_eq_true] at hbefore hafter
  refine String.toList_injective ?_
  rw [trim, String.toList_ofList, trimChars_eq, String.toList_append, String.toList_append, List.append_assoc,
    List.dropWhile_append_of_pos hbefore]
  by_cases ht : t.toList = []
  · rw [ht, List.nil_append, List.dropWhile_eq_nil_iff.mpr hafter, List.rdropWhile_nil]
  · obtain ⟨c, rest, hcons⟩ := List.exists_cons_of_ne_nil ht
    have hc : ¬ isBlank c := hhead c (by rw [hcons]; rfl)
    have hstart : (t.toList ++ after.toList).dropWhile isBlank = t.toList ++ after.toList := by
      rw [hcons, List.cons_append, List.dropWhile_cons_of_neg hc]
    have hend : t.toList.rdropWhile isBlank = t.toList :=
      List.rdropWhile_eq_self_iff.mpr fun hne => hlast _ (List.getLast?_eq_some_getLast hne)
    rw [hstart, List.rdropWhile, List.reverse_append,
      List.dropWhile_append_of_pos fun c hc => hafter c (List.mem_reverse.mp hc)]
    exact hend

theorem IsTrim.trim_self {s t : String} (h : IsTrim s t) : trim t = t :=
  IsTrim.trim_eq ⟨⟨"", "", rfl, rfl, by simp⟩, h.head, h.last⟩

end ProcessDiagram.Text
