import Mathlib.Data.List.Induction
import ProcessDiagram.Files.Path
import ProcessDiagram.Proofs.Pieces

/-! Which directory holds the path that an extension makes of a stem. Both have the same pieces in front of the last one,
so they are in the same directory, unless the last piece of the stem is none of its components. -/
namespace ProcessDiagram.Path
open Text

def leading (path : String) : List String := (split '/' path).dropLast

def lastPiece (path : String) : String := (split '/' path).getLastD ""

/-- The path ends in a slash, or in a slash and a dot. Neither counts as a component behind the directory it names. -/
def NamesDirectory (path : String) : Prop := ['/'] <:+ path.toList ∨ ['/', '.'] <:+ path.toList

instance (path : String) : Decidable (NamesDirectory path) := inferInstanceAs (Decidable (_ ∨ _))

/-- The texts of a path up to each component among its pieces, the longest first, where more pieces follow. -/
def above (pieces : List String) : List String :=
  ((List.range pieces.length).reverse.filter (isComponent (pieces ++ [""]))).map (upTo pieces)

theorem split_eq (path : String) : split '/' path = leading path ++ [lastPiece path] := by
  rw [lastPiece, List.getLastD_eq_getLast?, List.getLast?_eq_some_getLast (split_ne_nil path), Option.getD_some]
  exact (List.dropLast_concat_getLast (split_ne_nil path)).symm

theorem leading_of_split {path p : String} {ps : List String} (h : split '/' path = ps ++ [p]) : leading path = ps := by
  rw [leading, h, List.dropLast_concat]

private theorem lastPiece_of_split {path p : String} {ps : List String} (h : split '/' path = ps ++ [p]) :
    lastPiece path = p := by
  rw [lastPiece, h, List.getLastD_concat]

theorem notMem_leading (path : String) : ∀ p ∈ leading path, '/' ∉ p.toList :=
  fun _ hp => notMem_of_mem_split (List.dropLast_subset _ hp)

private theorem notMem_lastPiece (path : String) : '/' ∉ (lastPiece path).toList := by
  refine notMem_of_mem_split (s := path) ?_
  rw [split_eq]
  exact List.mem_append_right _ List.mem_cons_self

private theorem eq_intercalate (path : String) : path = "/".intercalate (leading path ++ [lastPiece path]) := by
  rw [← split_eq]
  exact (intercalate_split path).symm

private theorem eq_lastPiece {path : String} (h : leading path = []) : path = lastPiece path := by
  conv_lhs => rw [eq_intercalate path, h, List.nil_append, String.intercalate_singleton]

private theorem eq_append_lastPiece {path : String} (h : leading path ≠ []) :
    path = "/".intercalate (leading path) ++ "/" ++ lastPiece path := by
  conv_lhs => rw [eq_intercalate path, String.intercalate_append_of_ne_nil h (List.cons_ne_nil _ _),
    String.intercalate_singleton]

theorem isAbsolute_iff {path : String} : isAbsolute path ↔ (leading path).head? = some "" := by
  rw [isAbsolute, beq_iff_eq]
  cases hl : leading path with
  | nil =>
    have hpath : path = lastPiece path := eq_lastPiece hl
    have hnone : path.toList.head? ≠ some '/' := fun h => notMem_lastPiece path (hpath ▸ List.mem_of_head? h)
    simp [hnone]
  | cons p rest =>
    have hfirst : '/' ∉ p.toList := notMem_leading path p (hl ▸ List.mem_cons_self)
    have hpath : path.toList = p.toList ++ '/' :: ("/".intercalate (rest ++ [lastPiece path])).toList := by
      conv_lhs => rw [eq_intercalate path, hl, List.cons_append, ← List.singleton_append,
        String.intercalate_append_of_ne_nil (List.cons_ne_nil _ _) (by simp), String.intercalate_singleton]
      simp
    rw [hpath, List.head?_cons, Option.some_inj]
    cases hp : p.toList with
    | nil => simp [String.toList_eq_nil_iff.mp hp]
    | cons c cs =>
      have hc : c ≠ '/' := fun h => hfirst (by simp [hp, h])
      have hne : p ≠ "" := fun h => by simp [h] at hp
      simp [hc, hne]

/-! ### Components -/

private theorem isComponent_append {ps qs : List String} {i : Nat} (hi : i < ps.length) (hq : qs ≠ []) :
    isComponent (ps ++ qs) i = isComponent (ps ++ [""]) i := by
  have hget : (ps ++ qs)[i]? = (ps ++ [""])[i]? := by
    rw [List.getElem?_append_left hi, List.getElem?_append_left hi]
  have hlong : (ps ++ qs).length > 1 := by
    have := List.length_pos_iff.mpr hq
    rw [List.length_append]
    omega
  have hlong' : (ps ++ [""]).length > 1 := by
    rw [List.length_append, List.length_singleton]
    omega
  simp only [isComponent, hget, hlong, hlong']

/-- The last piece of a path is a component unless it is empty, or a dot behind others. -/
private theorem isComponent_last (ps : List String) (p : String) :
    isComponent (ps ++ [p]) ps.length ↔ p ≠ "" ∧ (p = "." → ps = []) := by
  rw [isComponent, List.getElem?_concat_length]
  split <;> simp_all

/-- Any other piece is one unless it is empty or a dot, or if it is the first. -/
private theorem isComponent_inner (ps : List String) (p : String) :
    isComponent ((ps ++ [p]) ++ [""]) ps.length ↔ (p = "" ∨ p = "." → ps = []) := by
  rw [isComponent, List.append_assoc, List.getElem?_append_right (Nat.le_refl _), Nat.sub_self]
  split <;> simp_all

private theorem upTo_concat {ps : List String} {p : String} (h : ps ++ [p] ≠ [""]) :
    upTo (ps ++ [p]) ps.length = "/".intercalate (ps ++ [p]) := by
  have hne : "/".intercalate (ps ++ [p]) ≠ "" := by
    intro he
    rcases eq_or_ne ps [] with rfl | hps
    · rw [List.nil_append, String.intercalate_singleton] at he
      exact h (by rw [he, List.nil_append])
    · rw [String.intercalate_append_of_ne_nil hps (List.cons_ne_nil _ _)] at he
      simp at he
  rw [upTo, List.take_of_length_le (by simp)]
  split
  · contradiction
  · rfl

theorem split_upTo {ps : List String} {p : String} (h : ∀ q ∈ ps ++ [p], '/' ∉ q.toList) (hne : ps ++ [p] ≠ [""]) :
    split '/' (upTo (ps ++ [p]) ps.length) = ps ++ [p] := by
  rw [upTo_concat hne]
  exact split_intercalate h (by simp)

theorem upTo_ne_empty (pieces : List String) (i : Nat) : upTo pieces i ≠ "" := by
  rw [upTo]
  split
  · simp
  · assumption

/-- One more index comes in front of those before it. -/
private theorem texts_succ (f : Nat → Bool) (g : Nat → String) (n : Nat) :
    ((List.range (n + 1)).reverse.filter f).map g =
      if f n then g n :: ((List.range n).reverse.filter f).map g else ((List.range n).reverse.filter f).map g := by
  rw [List.range_succ, List.reverse_append, List.reverse_singleton, List.singleton_append, List.filter_cons]
  split <;> rfl

private theorem texts_append (ps : List String) {qs : List String} (hq : qs ≠ []) :
    ((List.range ps.length).reverse.filter (isComponent (ps ++ qs))).map (upTo (ps ++ qs)) = above ps := by
  have hlt {i : Nat} (hi : i ∈ (List.range ps.length).reverse) : i < ps.length := by simpa using hi
  rw [above, List.filter_congr fun i hi => isComponent_append (hlt hi) hq]
  refine List.map_congr_left fun i hi => ?_
  rw [upTo, upTo, List.take_append_of_le_length (hlt (List.mem_of_mem_filter hi))]

theorem above_concat (ps : List String) (p : String) : above (ps ++ [p]) =
    if p = "" ∨ p = "." → ps = [] then upTo (ps ++ [p]) ps.length :: above ps else above ps := by
  have hrest := texts_append ps (List.cons_ne_nil p [])
  have hcomponents : (List.range ps.length).reverse.filter (isComponent ((ps ++ [p]) ++ [""])) =
      (List.range ps.length).reverse.filter (isComponent (ps ++ [p])) := by
    refine List.filter_congr fun i hi => ?_
    have hlt : i < ps.length := by simpa using hi
    rw [List.append_assoc]
    exact (isComponent_append hlt (by simp)).trans (isComponent_append hlt (by simp)).symm
  rw [above, List.length_append, List.length_singleton, texts_succ, hcomponents, hrest]
  simp only [isComponent_inner]

private theorem lineage_eq (path : String) : lineage path =
    if lastPiece path ≠ "" ∧ (lastPiece path = "." → leading path = []) then path :: above (leading path)
    else above (leading path) := by
  have hrest := texts_append (leading path) (List.cons_ne_nil (lastPiece path) [])
  rw [lineage, split_eq, List.length_append, List.length_singleton, texts_succ, hrest]
  simp only [isComponent_last]
  split
  · rename_i h
    have hne : leading path ++ [lastPiece path] ≠ [""] := by simp [List.append_eq_singleton_iff, h.1]
    rw [upTo_concat hne, ← eq_intercalate]
  · rfl

/-! ### The directories above -/

/-- The texts above a path are those of the directories that it leads through. -/
private theorem lineage_of_suffix {ps : List String} (h : ∀ p ∈ ps, '/' ∉ p.toList) {dir : String} {rest : List String}
    (hs : dir :: rest <:+ above ps) : lineage dir = dir :: rest := by
  induction ps using List.reverseRecOn with
  | nil => simp [above] at hs
  | append_singleton ps p ih =>
    have hps : ∀ q ∈ ps, '/' ∉ q.toList := fun q hq => h q (List.mem_append_left _ hq)
    rw [above_concat] at hs
    split at hs
    · rename_i hp
      rcases List.suffix_cons_iff.mp hs with he | hs
      · obtain ⟨rfl, rfl⟩ := List.cons.inj he
        by_cases hroot : ps ++ [p] = [""]
        · obtain ⟨rfl, rfl⟩ : ps = [] ∧ p = "" := by simpa [List.append_eq_singleton_iff] using hroot
          decide +kernel
        · have hsplit : split '/' (upTo (ps ++ [p]) ps.length) = ps ++ [p] := split_upTo h hroot
          rw [lineage_eq, leading_of_split hsplit, lastPiece_of_split hsplit, if_pos]
          refine ⟨fun he => ?_, fun he => hp (.inr he)⟩
          exact hroot (by rw [hp (.inl he), he, List.nil_append])
      · exact ih hps hs
    · exact ih hps hs

theorem lineage_of_above {ps : List String} (h : ∀ p ∈ ps, '/' ∉ p.toList) {dir : String} {rest : List String}
    (ha : above ps = dir :: rest) : lineage dir = dir :: rest :=
  lineage_of_suffix h (ha ▸ List.suffix_rfl)

theorem above_eq_nil_iff {ps : List String} : above ps = [] ↔ ps = [] := by
  induction ps using List.reverseRecOn with
  | nil => simp [above]
  | append_singleton ps p ih =>
    rw [above_concat]
    split
    · simp
    · rename_i h
      have hne : ps ≠ [] := fun he => h fun _ => he
      simp [ih, hne]

/-- A directory is not the one above itself. -/
private theorem head?_tail_above {ps : List String} (h : ∀ p ∈ ps, '/' ∉ p.toList) (hne : ps ≠ []) :
    (above ps).tail.head? ≠ (above ps).head? := by
  intro he
  cases ha : above ps with
  | nil => exact hne (above_eq_nil_iff.mp ha)
  | cons dir rest =>
    rw [ha] at he
    cases rest with
    | nil => cases he
    | cons dir' rest =>
      obtain rfl : dir' = dir := Option.some.inj he
      have hlong : lineage dir' = dir' :: dir' :: rest := lineage_of_above h ha
      have hshort : lineage dir' = dir' :: rest := lineage_of_suffix h (by rw [ha]; exact List.suffix_cons _ _)
      simpa using congrArg List.length (hlong.symm.trans hshort)

private theorem split_slash (dir name : String) : split '/' (dir ++ "/" ++ name) = split '/' dir ++ split '/' name :=
  split_append dir name

private theorem namesDirectory_iff {path : String} :
    NamesDirectory path ↔ leading path ≠ [] ∧ (lastPiece path = "" ∨ lastPiece path = ".") := by
  have hbehind {dir name : String} (hname : '/' ∉ name.toList) (h : path = dir ++ "/" ++ name) :
      leading path ≠ [] ∧ lastPiece path = name := by
    have hsplit : split '/' path = split '/' dir ++ [name] := by rw [h, split_slash, split_of_notMem hname]
    exact ⟨leading_of_split hsplit ▸ split_ne_nil dir, lastPiece_of_split hsplit⟩
  constructor
  · rintro (⟨dir, hdir⟩ | ⟨dir, hdir⟩)
    · have hpath : path = String.ofList dir ++ "/" ++ "" := String.toList_injective (by simp [← hdir])
      exact (hbehind (by simp) hpath).imp_right .inl
    · have hpath : path = String.ofList dir ++ "/" ++ "." := String.toList_injective (by simp [← hdir])
      exact (hbehind (by simp) hpath).imp_right .inr
  · rintro ⟨hne, hlast⟩
    have hpath : path.toList = ("/".intercalate (leading path)).toList ++ '/' :: (lastPiece path).toList := by
      conv_lhs => rw [eq_append_lastPiece hne]
      simp
    rw [NamesDirectory, hpath]
    rcases hlast with hlast | hlast <;> rw [hlast]
    · exact .inl (List.suffix_append _ _)
    · exact .inr (List.suffix_append _ _)

theorem parent?_eq (path : String) :
    parent? path = if NamesDirectory path then (above (leading path)).tail.head? else (above (leading path)).head? := by
  rw [parent?, lineage_eq]
  split
  · rename_i h
    rw [if_neg fun hd => ?_, List.tail_cons]
    obtain ⟨hne, hlast⟩ := namesDirectory_iff.mp hd
    exact hne (h.2 (hlast.resolve_left h.1))
  · rename_i h
    by_cases hne : leading path = []
    · have hnone : above (leading path) = [] := above_eq_nil_iff.mpr hne
      simp [hnone]
    · have hd : NamesDirectory path := namesDirectory_iff.mpr ⟨hne, by by_contra hlast; simp_all⟩
      rw [if_pos hd]

/-! ### Extensions -/

section extension
variable {stem extension : String}

private theorem split_withExtension (h : '/' ∉ extension.toList) :
    split '/' (withExtension stem extension) = leading stem ++ [lastPiece stem ++ "." ++ extension] := by
  have hlast : '/' ∉ (lastPiece stem ++ "." ++ extension).toList := by
    simpa [h] using notMem_lastPiece stem
  by_cases hne : leading stem = []
  · rw [withExtension, hne, List.nil_append, ← split_of_notMem hlast, ← eq_lastPiece hne]
  · have hpath : withExtension stem extension =
        "/".intercalate (leading stem) ++ "/" ++ (lastPiece stem ++ "." ++ extension) := by
      conv_lhs => rw [withExtension, eq_append_lastPiece hne]
      simp only [String.append_assoc]
    rw [hpath, split_slash, split_of_notMem hlast]
    exact congrArg (· ++ _) (split_intercalate (notMem_leading stem) hne)

theorem leading_withExtension (h : '/' ∉ extension.toList) : leading (withExtension stem extension) = leading stem :=
  leading_of_split (split_withExtension h)

private theorem lastPiece_withExtension (h : '/' ∉ extension.toList) :
    lastPiece (withExtension stem extension) = lastPiece stem ++ "." ++ extension :=
  lastPiece_of_split (split_withExtension h)

/-- The name of a file goes on behind its dot. -/
private theorem not_namesDirectory_withExtension (h : '/' ∉ extension.toList) (hne : extension ≠ "") :
    ¬ NamesDirectory (withExtension stem extension) := by
  intro hd
  have hlast := (namesDirectory_iff.mp hd).2
  rw [lastPiece_withExtension h] at hlast
  have hlength : extension.length ≠ 0 := fun h => hne (String.length_eq_zero_iff.mp h)
  rcases hlast with he | he
  · simpa using congrArg String.length he
  · have hle := congrArg String.length he
    rw [String.length_append, String.length_append] at hle
    omega

/-- The directory that holds the output is the one above the stem, unless the stem names it itself. -/
theorem parent?_withExtension_eq_iff (h : '/' ∉ extension.toList) (hne : extension ≠ "") :
    parent? (withExtension stem extension) = parent? stem ↔ ¬ NamesDirectory stem := by
  rw [parent?_eq, if_neg (not_namesDirectory_withExtension h hne), leading_withExtension h, parent?_eq stem]
  by_cases hd : NamesDirectory stem
  · rw [if_pos hd]
    exact iff_of_false (head?_tail_above (notMem_leading stem) (namesDirectory_iff.mp hd).1).symm (not_not_intro hd)
  · rw [if_neg hd]
    exact iff_of_true rfl hd

/-- Otherwise the directory above the stem is the one above the directory that holds the output. -/
theorem exists_parent?_withExtension (h : '/' ∉ extension.toList) (hne : extension ≠ "") (hd : NamesDirectory stem) :
    ∃ dir, parent? (withExtension stem extension) = some dir ∧ parent? dir = parent? stem := by
  rw [parent?_eq, if_neg (not_namesDirectory_withExtension h hne), leading_withExtension h, parent?_eq stem, if_pos hd]
  cases ha : above (leading stem) with
  | nil => exact absurd (above_eq_nil_iff.mp ha) (namesDirectory_iff.mp hd).1
  | cons dir rest =>
    refine ⟨dir, rfl, ?_⟩
    rw [parent?, lineage_of_above (notMem_leading stem) ha, List.tail_cons]

end extension

/-! ### Names under a directory -/

private theorem namesDirectory_slash (dir name : String) :
    NamesDirectory (dir ++ "/" ++ name) ↔ NamesDirectory name ∨ name = "" ∨ name = "." := by
  have hsplit : split '/' (dir ++ "/" ++ name) = (split '/' dir ++ leading name) ++ [lastPiece name] := by
    rw [split_slash, split_eq name, List.append_assoc]
  have hne : split '/' dir ++ leading name ≠ [] := List.append_ne_nil_of_left_ne_nil (split_ne_nil dir) _
  rw [namesDirectory_iff, namesDirectory_iff, leading_of_split hsplit, lastPiece_of_split hsplit, and_iff_right hne]
  by_cases hname : leading name = []
  · rw [← eq_lastPiece hname]
    simp [hname]
  · rw [and_iff_right hname]
    refine ⟨.inl, ?_⟩
    rintro (h | rfl | rfl)
    · exact h
    · exact .inl rfl
    · exact absurd (by decide +kernel) hname

/-- A name under a directory names one if it ends so itself, or if it is empty or a dot. -/
theorem namesDirectory_join_iff (dir name : String) :
    NamesDirectory (join dir name) ↔ NamesDirectory name ∨ dir ≠ "" ∧ (name = "" ∨ name = ".") := by
  rw [join]
  split
  · rename_i habsolute
    have hempty : name ≠ "" := fun h => by rw [h] at habsolute; exact absurd habsolute (by decide)
    have hdot : name ≠ "." := fun h => by rw [h] at habsolute; exact absurd habsolute (by decide)
    simp [hempty, hdot]
  · split
    · rename_i hdir
      rcases eq_or_ne dir "" with rfl | hne
      · simp
      · obtain ⟨above, habove⟩ := List.getLast?_eq_some_iff.mp (hdir.resolve_left hne)
        have hslash : dir = String.ofList above ++ "/" := String.toList_injective (by simp [habove])
        rw [and_iff_right hne, ← namesDirectory_slash (String.ofList above), ← hslash]
    · rename_i hdir
      rw [and_iff_right fun h => hdir (.inl h), namesDirectory_slash]

end ProcessDiagram.Path
