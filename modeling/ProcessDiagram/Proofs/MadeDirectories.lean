import ProcessDiagram.Files.FileTree
import ProcessDiagram.Proofs.Lists
import ProcessDiagram.Proofs.OutputPath

/-! Making a directory with those above it. Afterwards the path leads to a directory, and none of the steps can find
that the one above is missing. -/
namespace ProcessDiagram.FileTree
open ProcessDiagram.Path

/-- A later tree in which every path that led to a directory still leads there. -/
structure Keeps (t t' : FileTree) : Prop where
  workDir : t'.workDir = t.workDir
  directory {p : Place} : t.entry? p = some .directory → t'.entry? p = some .directory
  link {p : Place} {path : String} : t.entry? p = some (.link path) → t'.entry? p = some (.link path)

theorem Keeps.refl (t : FileTree) : t.Keeps t := ⟨rfl, id, id⟩

theorem Keeps.trans {t t₁ t₂ : FileTree} (h : t.Keeps t₁) (h' : t₁.Keeps t₂) : t.Keeps t₂ :=
  ⟨h'.workDir.trans h.workDir, h'.directory ∘ h.directory, h'.link ∘ h.link⟩

private theorem entry?_nil (t : FileTree) : t.entry? [] = some .directory := rfl

private theorem entry?_put (t : FileTree) {p : Place} (hp : p ≠ []) (e : Entry) (q : Place) :
    entry? (t.put p e) q = if q = p then some e else t.entry? q := by
  unfold entry? put
  simp only [List.find?_append, List.find?_filter, List.find?_singleton, decide_eq_true_eq]
  by_cases hq : q = p
  · subst hq
    have hnone : t.entries.find? (fun x => decide (x.1 ≠ q ∧ x.1 = q)) = none := by simp [List.find?_eq_none]
    rw [hnone, Option.none_or, if_pos rfl, if_pos rfl, if_neg hp]
    rfl
  · have hother (x : Place × Entry) : (x.1 ≠ p ∧ x.1 = q) ↔ x.1 = q :=
      ⟨And.right, fun h => ⟨h ▸ hq, h⟩⟩
    simp only [hother, if_neg hq, if_neg (Ne.symm hq), Option.or_none]

/-- Nothing leads to a directory through what is neither one nor a link. -/
theorem keeps_put {t : FileTree} {p : Place} (hdir : t.entry? p ≠ some .directory)
    (hlink : ∀ path, t.entry? p ≠ some (.link path)) (e : Entry) : t.Keeps (t.put p e) := by
  have hne : p ≠ [] := fun h => hdir (h ▸ entry?_nil t)
  refine ⟨rfl, fun {q} hq => ?_, fun {q path} hq => ?_⟩
  · rw [entry?_put t hne, if_neg fun h : q = p => hdir (h ▸ hq)]
    exact hq
  · rw [entry?_put t hne, if_neg fun h : q = p => hlink path (h ▸ hq)]
    exact hq

/-! ### Walks -/

section walk
variable {t : FileTree} {links : Nat} {here : Place} {piece : String}

theorem walk_nil (toEnd : Bool) : t.walk toEnd links here [] = .ok here := by
  rw [walk]

private theorem walk_blank (toEnd : Bool) (rest : List String) (hhere : t.entry? here = some .directory)
    (hp : piece = "" ∨ piece = ".") : t.walk toEnd links here (piece :: rest) = t.walk toEnd links here rest := by
  rw [walk, hhere]
  exact if_pos hp

private theorem walk_back (toEnd : Bool) (rest : List String) (hhere : t.entry? here = some .directory) :
    t.walk toEnd links here (".." :: rest) = t.walk toEnd links here.dropLast rest := by
  rw [walk, hhere]
  simp

private theorem walk_into (toEnd : Bool) (rest : List String) (hhere : t.entry? here = some .directory)
    (hblank : ¬ (piece = "" ∨ piece = ".")) (hback : piece ≠ "..") (hlong : ¬ 255 < piece.utf8ByteSize)
    (hthere : t.entry? (here ++ [piece]) = some .directory) :
    t.walk toEnd links here (piece :: rest) = t.walk toEnd links (here ++ [piece]) rest := by
  rw [walk, hhere]
  simp only [if_neg hblank, if_neg hback, if_neg hlong, hthere]

private theorem walk_link (rest : List String) {path : String} (hhere : t.entry? here = some .directory)
    (hblank : ¬ (piece = "" ∨ piece = ".")) (hback : piece ≠ "..") (hlong : ¬ 255 < piece.utf8ByteSize)
    (hthere : t.entry? (here ++ [piece]) = some (.link path)) (hlinks : links ≠ 0) :
    t.walk true links here (piece :: rest) =
      t.walk true (links - 1) (if isAbsolute path then [] else here) (Text.split '/' path ++ rest) := by
  rw [walk, hhere]
  simp [hblank, hback, hlong, hthere, hlinks]

private theorem directory_of_walk {toEnd : Bool} {p : Place} {pieces : List String}
    (h : t.walk toEnd links here pieces = .ok p) (hp : t.entry? p = some .directory) :
    t.entry? here = some .directory := by
  cases pieces with
  | nil =>
    rw [walk_nil] at h
    cases h
    exact hp
  | cons piece rest =>
    rw [walk] at h
    split at h
    · assumption
    · cases h
    · cases h

/-- A walk to a directory is one in every later tree, and whatever follows goes on from there. -/
private theorem walk_append {p : Place} {pieces : List String} (h : t.walk true links here pieces = .ok p)
    (hp : t.entry? p = some .directory) :
    ∃ left, ∀ t', t.Keeps t' → ∀ more, t'.walk true links here (pieces ++ more) = t'.walk true left p more := by
  -- Along the walk in the first tree; each of its steps is one in the later tree.
  fun_induction t.walk true links here pieces with
  | case1 links here =>
    cases h
    exact ⟨links, fun _ _ _ => rfl⟩
  | case2 links here piece rest hhere hblank ih =>
    obtain ⟨left, hleft⟩ := ih h
    exact ⟨left, fun t' hkeep more => (walk_blank _ _ (hkeep.directory hhere) hblank).trans (hleft t' hkeep more)⟩
  | case3 links here rest hhere _ ih =>
    obtain ⟨left, hleft⟩ := ih h
    exact ⟨left, fun t' hkeep more => (walk_back _ _ (hkeep.directory hhere)).trans (hleft t' hkeep more)⟩
  | case8 links here piece rest hhere hblank hback hlong path hthere _ hlinks ih =>
    obtain ⟨left, hleft⟩ := ih h
    refine ⟨left, fun t' hkeep more => ?_⟩
    rw [List.cons_append, walk_link _ (hkeep.directory hhere) hblank hback hlong (hkeep.link hthere) hlinks,
      ← List.append_assoc]
    exact hleft t' hkeep more
  | case9 links here piece rest hhere hblank hback hlong _ _ _ ih =>
    -- What a walk goes through without following it is a directory.
    have hthere : t.entry? (here ++ [piece]) = some .directory := directory_of_walk h hp
    obtain ⟨left, hleft⟩ := ih h
    exact ⟨left, fun t' hkeep more => (walk_into _ _ (hkeep.directory hhere) hblank hback hlong
      (hkeep.directory hthere)).trans (hleft t' hkeep more)⟩
  | case6 => simp_all
  | case4 | case5 | case7 | case10 | case11 => cases h

end walk

/-! ### Paths that lead to a directory -/

/-- Where a path with pieces in front of its last one starts; that of an absolute path starts with an empty one. -/
def origin (t : FileTree) (pieces : List String) : Place := if pieces.head? = some "" then [] else t.workDir

def Reaches (t : FileTree) (pieces : List String) : Prop :=
  ∃ p, t.walk true linkLimit (t.origin pieces) pieces = .ok p ∧ t.entry? p = some .directory

section reach
variable {t t' : FileTree} {path : String} {ps : List String}

private theorem Keeps.origin (h : t.Keeps t') (ps : List String) : t'.origin ps = t.origin ps := by
  rw [FileTree.origin, FileTree.origin, h.workDir]

theorem Reaches.keep (hr : t.Reaches ps) (h : t.Keeps t') : t'.Reaches ps := by
  obtain ⟨p, hwalk, hp⟩ := hr
  obtain ⟨left, hleft⟩ := walk_append hwalk hp
  refine ⟨p, ?_, h.directory hp⟩
  have hmore := hleft t' h []
  rwa [List.append_nil, walk_nil, ← h.origin] at hmore

private theorem reaches_nil (h : t.entry? t.workDir = some .directory) : t.Reaches [] :=
  ⟨t.workDir, walk_nil true, h⟩

private theorem reaches_root (t : FileTree) : t.Reaches [""] :=
  ⟨[], by rw [walk_blank _ _ rfl (.inl rfl), walk_nil]; rfl, rfl⟩

private theorem start_eq (t : FileTree) (path : String) : t.start path = t.origin (leading path) := by
  simp only [start, origin, isAbsolute_iff]

private theorem origin_concat (t : FileTree) (hne : ps ≠ []) (p : String) : t.origin (ps ++ [p]) = t.origin ps := by
  rw [origin, origin, List.head?_append_of_ne_nil _ hne]

private theorem pieces_ok (h : pieces path = .ok ps) : ps = Text.split '/' path := by
  unfold pieces at h
  split at h
  · cases h
  · split at h
    · cases h
    · split at h
      · cases h
      · exact (Except.ok.inj h).symm

private theorem pieces_ne_notFound (hne : path ≠ "") : pieces path ≠ .error .notFound := by
  rw [pieces, if_neg hne]
  split
  · simp
  · split <;> simp

private theorem isDirectory_iff :
    t.isDirectory path ↔ ∃ p, t.resolve path = .ok p ∧ t.entry? p = some .directory := by
  unfold isDirectory
  split
  · simp_all
  · simp_all

private theorem resolve_ok {p : Place} (h : t.resolve path = .ok p) :
    t.walk true linkLimit (t.start path) (Text.split '/' path) = .ok p := by
  obtain ⟨ps, hp, hwalk⟩ := bind_eq_ok_iff.mp h
  rwa [← pieces_ok hp]

private theorem reaches_concat {p : String} (hr : t.Reaches ps) (hp : p = "" ∨ p = ".") (hne : ps ≠ []) :
    t.Reaches (ps ++ [p]) := by
  obtain ⟨place, hwalk, hplace⟩ := hr
  obtain ⟨left, hleft⟩ := walk_append hwalk hplace
  refine ⟨place, ?_, hplace⟩
  rw [origin_concat t hne, hleft t (.refl t), walk_blank _ _ hplace hp, walk_nil]

/-- The innermost directory above a path is where the pieces in front of its last one lead. -/
private theorem reaches_of_isDirectory (hslash : ∀ p ∈ ps, '/' ∉ p.toList) {dir : String} {rest : List String}
    (ha : above ps = dir :: rest) (hd : t.isDirectory dir) : t.Reaches ps := by
  induction ps using List.reverseRecOn with
  | nil => simp [above] at ha
  | append_singleton ps p ih =>
    rw [above_concat] at ha
    split at ha
    · by_cases hroot : ps ++ [p] = [""]
      · exact hroot ▸ reaches_root t
      · have hsplit : Text.split '/' dir = ps ++ [p] := (List.cons.inj ha).1 ▸ split_upTo hslash hroot
        obtain ⟨place, hresolve, hplace⟩ := isDirectory_iff.mp hd
        have hwalk := resolve_ok hresolve
        have horigin : t.start dir = t.origin (ps ++ [p]) := by
          rw [start_eq, leading_of_split hsplit]
          rcases eq_or_ne ps [] with rfl | hne
          · have hp : p ≠ "" := fun hp => hroot (by rw [hp, List.nil_append])
            simp [origin, hp]
          · rw [origin_concat t hne]
        rw [hsplit, horigin] at hwalk
        exact ⟨place, hwalk, hplace⟩
    · -- The last piece is no component, so the directory is the one that the pieces before it lead to.
      rename_i hskip
      push Not at hskip
      exact reaches_concat (ih (fun q hq => hslash q (List.mem_append_left _ hq)) ha) hskip.1 hskip.2

/-! ### Making directories -/

private theorem holder_of_reaches (hp : pieces path = .ok ps) (h : t.Reaches (leading path)) :
    ∃ dir, t.holder path = .ok (dir, lastPiece path) ∧ t.entry? dir = some .directory := by
  obtain ⟨dir, hwalk, hdir⟩ := h
  rw [← start_eq] at hwalk
  obtain rfl := pieces_ok hp
  refine ⟨dir, bind_eq_ok_iff.mpr ⟨_, hp, bind_eq_ok_iff.mpr ⟨dir, hwalk, ?_⟩⟩, hdir⟩
  rw [hdir]
  rfl

theorem holder_ne_notFound (hne : path ≠ "") (h : t.Reaches (leading path)) : t.holder path ≠ .error .notFound := by
  intro hholder
  rcases bind_eq_error_iff.mp hholder with hp | ⟨ps, hp, -⟩
  · exact pieces_ne_notFound hne hp
  · obtain ⟨dir, hfound, -⟩ := holder_of_reaches hp h
    rw [hfound] at hholder
    cases hholder

private theorem holder_ok {dir : Place} {name : String} (h : t.holder path = .ok (dir, name)) :
    pieces path = .ok (leading path ++ [name]) ∧ t.walk true linkLimit (t.start path) (leading path) = .ok dir ∧
      t.entry? dir = some .directory := by
  obtain ⟨ps, hp, h⟩ := bind_eq_ok_iff.mp h
  obtain ⟨place, hwalk, h⟩ := bind_eq_ok_iff.mp h
  obtain rfl := pieces_ok hp
  split at h
  · rename_i hplace
    obtain ⟨rfl, rfl⟩ := Prod.mk.inj (Except.ok.inj h)
    exact ⟨hp.trans (congrArg Except.ok (split_eq path)), hwalk, hplace⟩
  · cases h

private theorem makeDir_ok (h : t.makeDir path = .ok t') :
    ∃ dir name, t.holder path = .ok (dir, name) ∧ ¬ (name = "" ∨ name = "." ∨ name = "..") ∧
      ¬ 255 < name.utf8ByteSize ∧ t.entry? (dir ++ [name]) = none ∧ t' = t.put (dir ++ [name]) .directory := by
  obtain ⟨⟨dir, name⟩, hholder, h⟩ := bind_eq_ok_iff.mp h
  dsimp only at h
  split at h
  · cases h
  · split at h
    · cases h
    · split at h
      · cases h
      · rename_i hname hlong hfree
        exact ⟨dir, name, hholder, hname, hlong, by simpa using hfree, (Except.ok.inj h).symm⟩

/-- What is in the way of a directory may be anything but that the one above it is missing. -/
private theorem makeDir_ne_notFound (h : t.holder path ≠ .error .notFound) : t.makeDir path ≠ .error .notFound := by
  intro hmake
  rcases bind_eq_error_iff.mp hmake with hholder | ⟨⟨dir, name⟩, -, hmake⟩
  · exact h hholder
  · dsimp only at hmake
    split at hmake
    · cases hmake
    · split at hmake
      · cases hmake
      · split at hmake <;> cases hmake

private theorem isDirectory_of_makeDir (h : t.makeDir path = .ok t') : t.Keeps t' ∧ t'.isDirectory path := by
  obtain ⟨dir, name, hholder, hname, hlong, hfree, rfl⟩ := makeDir_ok h
  obtain ⟨hpieces, hwalk, hdir⟩ := holder_ok hholder
  have hkeep : t.Keeps (t.put (dir ++ [name]) .directory) := keeps_put (by simp [hfree]) (by simp [hfree]) _
  have hmade : entry? (t.put (dir ++ [name]) .directory) (dir ++ [name]) = some .directory := by
    rw [entry?_put t (by simp), if_pos rfl]
  refine ⟨hkeep, isDirectory_iff.mpr ⟨dir ++ [name], ?_, hmade⟩⟩
  push Not at hname
  obtain ⟨left, hleft⟩ := walk_append hwalk hdir
  rw [resolve, hpieces]
  refine (hleft _ hkeep [name]).trans ?_
  rw [walk_into _ _ (hkeep.directory hdir) (by simp [hname]) hname.2.2 hlong hmade, walk_nil]

private theorem ensureDir_ok (h : t.ensureDir path = .ok t') : t.Keeps t' ∧ t'.isDirectory path := by
  unfold ensureDir at h
  split at h
  · rename_i hmake
    cases h
    exact isDirectory_of_makeDir hmake
  · split at h
    · cases h
      exact ⟨.refl t, by assumption⟩
    · cases h

private theorem ensureDir_ne_notFound (h : t.makeDir path ≠ .error .notFound) :
    t.ensureDir path ≠ .error .notFound := by
  unfold ensureDir
  split
  · simp
  · split
    · simp
    · rename_i e he _
      exact fun hnot => h (he.trans hnot)

private theorem makeDirs_ok {paths : List String} (h : t.makeDirs paths = .ok t') :
    t.Keeps t' ∧ ∀ dir ∈ paths.head?, t'.isDirectory dir := by
  induction paths generalizing t' with
  | nil =>
    cases h
    exact ⟨.refl t, by simp⟩
  | cons path above ih =>
    rw [makeDirs] at h
    split at h
    · obtain ⟨t₁, hmade, h⟩ := bind_eq_ok_iff.mp h
      obtain ⟨hkeep, hdir⟩ := ensureDir_ok h
      exact ⟨(ih hmade).1.trans hkeep, by simpa using hdir⟩
    · obtain ⟨hkeep, hdir⟩ := ensureDir_ok h
      exact ⟨hkeep, by simpa using hdir⟩

/-- Once the directories above a path are made, the pieces in front of its last one lead to a directory. -/
theorem reaches_of_makeDirs (hwork : t.entry? t.workDir = some .directory) (hslash : ∀ p ∈ ps, '/' ∉ p.toList)
    (h : t.makeDirs (above ps) = .ok t') : t'.Reaches ps := by
  cases ha : above ps with
  | nil =>
    rw [ha] at h
    cases h
    exact above_eq_nil_iff.mp ha ▸ reaches_nil hwork
  | cons dir rest => exact reaches_of_isDirectory hslash ha ((makeDirs_ok h).2 dir (by simp [ha]))

/-- Each directory is made after the one above it, so none is found missing. -/
theorem makeDirs_ne_notFound (hwork : t.entry? t.workDir = some .directory) (hslash : ∀ p ∈ ps, '/' ∉ p.toList) :
    t.makeDirs (above ps) ≠ .error .notFound := by
  induction ps using List.reverseRecOn with
  | nil => simp [above, makeDirs]
  | append_singleton ps p ih =>
    have hps : ∀ q ∈ ps, '/' ∉ q.toList := fun q hq => hslash q (List.mem_append_left _ hq)
    rw [above_concat]
    split
    · rw [makeDirs]
      split
      · -- The one above was missing and is there now.
        intro hfail
        rcases bind_eq_error_iff.mp hfail with hmade | ⟨t₁, hmade, hensure⟩
        · exact ih hps hmade
        · have hreach : t₁.Reaches (leading (upTo (ps ++ [p]) ps.length)) := by
            by_cases hroot : ps ++ [p] = [""]
            · obtain ⟨rfl, rfl⟩ : ps = [] ∧ p = "" := by simpa [List.append_eq_singleton_iff] using hroot
              exact reaches_root t₁
            · rw [leading_of_split (split_upTo hslash hroot)]
              exact reaches_of_makeDirs hwork hps hmade
          have hholder := holder_ne_notFound (upTo_ne_empty _ _) hreach
          exact ensureDir_ne_notFound (makeDir_ne_notFound hholder) hensure
      · rename_i hmake
        exact ensureDir_ne_notFound hmake
    · exact ih hps

end reach

end ProcessDiagram.FileTree
