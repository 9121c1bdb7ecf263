import ProcessDiagram.Output.Render
import ProcessDiagram.Files.TreeHost
import ProcessDiagram.Proofs.MadeDirectories

/-! What a render finds where it writes. The directory of the output is there unless the stem names it itself. -/
namespace ProcessDiagram

namespace FileTree
open ProcessDiagram.Path

def prepare (t : FileTree) (stem : String) : Except FileError FileTree :=
  match parent? stem with
  | some dir => t.makeDirs (lineage dir)
  | none => .ok t

def EndsInLink (t : FileTree) (path : String) : Prop :=
  ∃ dir name target, t.holder path = .ok (dir, name) ∧ t.entry? (dir ++ [name]) = some (.link target)

section prepare
variable {t t₁ : FileTree} {stem path : String}

private theorem prepare_eq (h : ¬ NamesDirectory stem) : t.prepare stem = t.makeDirs (above (leading stem)) := by
  rw [prepare, parent?_eq, if_neg h]
  cases ha : above (leading stem) with
  | nil => rfl
  | cons dir rest =>
    rw [List.head?_cons, ← lineage_of_above (notMem_leading stem) ha]

private theorem holder_of_missing {piece last : String} (hwork : t.entry? t.workDir = some .directory)
    (hp : pieces path = .ok [piece, last]) (hrelative : isAbsolute path = false)
    (hname : ¬ (piece = "" ∨ piece = ".") ∧ piece ≠ ".." ∧ ¬ 255 < piece.utf8ByteSize)
    (hmissing : t.entry? (t.workDir ++ [piece]) = none) : t.holder path = .error .notFound := by
  have hwalk : t.walk true linkLimit (t.start path) [piece] = .error .notFound := by
    rw [start, hrelative, walk]
    simp [hwork, hname, hmissing]
  exact bind_eq_error_iff.mpr (.inr ⟨_, hp, bind_eq_error_iff.mpr (.inl hwalk)⟩)

private theorem targetIn_notFound {links : Nat} {dir : Place} {name : String}
    (h : t.targetIn links dir name = .error .notFound) : ∃ target, t.entry? (dir ++ [name]) = some (.link target) := by
  unfold targetIn at h
  split at h
  · cases h
  · split at h
    · cases h
    · split at h
      · cases h
      · cases h
      · cases h
      · exact ⟨_, by assumption⟩
      · cases h

private theorem writeFile_of_missing (h : t.holder path = .error .notFound) (bytes : List UInt8) :
    t.writeFile path bytes = .error .notFound :=
  bind_eq_error_iff.mpr (.inl (bind_eq_error_iff.mpr (.inl h)))

private theorem writeFile_notFound {bytes : List UInt8} (h : t.writeFile path bytes = .error .notFound) :
    t.holder path = .error .notFound ∨ t.EndsInLink path := by
  rcases bind_eq_error_iff.mp h with htarget | ⟨place, -, h⟩
  · rcases bind_eq_error_iff.mp htarget with hholder | ⟨⟨dir, name⟩, hholder, hin⟩
    · exact .inl hholder
    · obtain ⟨target, hlink⟩ := targetIn_notFound hin
      exact .inr ⟨dir, name, target, hholder, hlink⟩
  · split at h <;> cases h

/-- A file is written neither over a directory nor over a link. -/
private theorem targetIn_ok {links : Nat} {dir p : Place} {name : String} (h : t.targetIn links dir name = .ok p) :
    t.entry? p ≠ some .directory ∧ ∀ path, t.entry? p ≠ some (.link path) := by
  fun_induction t.targetIn links dir name with
  | case6 dir name _ _ path links _ ih =>
    obtain ⟨ps, -, h⟩ := bind_eq_ok_iff.mp h
    obtain ⟨place, -, h⟩ := bind_eq_ok_iff.mp h
    split at h
    · exact ih ps place h
    · cases h
  | case7 links dir name _ _ hdir _ hnone hsome =>
    obtain rfl := Except.ok.inj h
    refine ⟨hdir, fun path hlink => ?_⟩
    cases links with
    | zero => exact hnone path hlink rfl
    | succ links => exact hsome path links hlink rfl
  | case1 | case2 | case3 | case4 | case5 => cases h

private theorem write_keeps {p : Place} (hdir : t.entry? p ≠ some .directory)
    (hlink : ∀ path, t.entry? p ≠ some (.link path)) (bytes : List UInt8) : t.Keeps (t.write p bytes) := by
  unfold write
  split
  · exact .refl t
  · exact keeps_put hdir hlink _
  · exact keeps_put hdir hlink _

private theorem writeFile_keeps {bytes : List UInt8} (h : t.writeFile path bytes = .ok t₁) : t.Keeps t₁ := by
  obtain ⟨place, htarget, h⟩ := bind_eq_ok_iff.mp h
  obtain ⟨⟨dir, name⟩, -, hin⟩ := bind_eq_ok_iff.mp htarget
  obtain ⟨hdir, hlink⟩ := targetIn_ok hin
  split at h
  · cases h
  · cases h
    exact write_keeps hdir hlink bytes

end prepare

end FileTree

namespace Host
open ProcessDiagram.Path FileTree

section run
variable {ε α β : Type} {programs : Programs} {t t' : FileTree}

private theorem attempt_run (op : StateM FileTree (Except FileError α)) (wrap : FileError → ε) :
    (attempt op wrap).run.run t = ((op.run t).1.mapError wrap, (op.run t).2) := rfl

private theorem bind_run (x : ExceptT ε (StateM FileTree) α) (f : α → ExceptT ε (StateM FileTree) β) :
    (x >>= f).run.run t =
      match x.run.run t with
      | (.ok a, t₁) => (f a).run.run t₁
      | (.error e, t₁) => (.error e, t₁) := by
  rw [ExceptT.run_bind, StateT.run_bind]
  rcases hx : x.run.run t with ⟨_ | _, t₁⟩
  · rfl
  · rfl

/-- A run that fails fails in one of its steps. -/
private theorem bind_error {x : ExceptT ε (StateM FileTree) α} {f : α → ExceptT ε (StateM FileTree) β} {e : ε}
    (h : (x >>= f).run.run t = (.error e, t')) :
    x.run.run t = (.error e, t') ∨ ∃ a t₁, x.run.run t = (.ok a, t₁) ∧ (f a).run.run t₁ = (.error e, t') := by
  rw [bind_run] at h
  rcases hx : x.run.run t with ⟨_ | a, t₁⟩
  · rw [hx] at h
    cases h
    exact .inl rfl
  · rw [hx] at h
    exact .inr ⟨a, t₁, rfl, h⟩

private theorem attempt_error {op : StateM FileTree (Except FileError α)} {wrap : FileError → ε} {e : ε}
    (h : (attempt op wrap).run.run t = (.error e, t')) : ∃ cause, op.run t = (.error cause, t') ∧ wrap cause = e := by
  rw [attempt_run] at h
  rcases ho : op.run t with ⟨cause | a, t₁⟩
  · rw [ho] at h
    cases h
    exact ⟨cause, rfl, rfl⟩
  · rw [ho] at h
    cases h

private theorem makeDirs_run (path : String) : ((onTree programs).makeDirs path).run t =
    match t.makeDirs (lineage path) with
    | .ok t' => (.ok (), t')
    | .error e => (.error e, t) := by
  cases hm : t.makeDirs (lineage path) with
  | ok t' => simp [onTree, hm]; rfl
  | error e => simp [onTree, hm]; rfl

private theorem writeFile_run (path text : String) : ((onTree programs).writeFile path text).run t =
    match t.writeFile path (Text.Utf8.encode text) with
    | .ok t' => (.ok (), t')
    | .error e => (.error e, t) := by
  cases hw : t.writeFile path (Text.Utf8.encode text) with
  | ok t' => simp [onTree, hw]; rfl
  | error e => simp [onTree, hw]; rfl

end run

section render
variable {programs : Programs} {env : Environment} {program text stem : String} {graph : Graph} {t t' : FileTree}

private theorem draw_dot : ((onTree programs).draw env program text stem .dot).run.run t =
    match t.writeFile (withExtension stem "dot") (Text.Utf8.encode text) with
    | .ok t' => (.ok (withExtension stem "dot"), t')
    | .error e => (.error (.io e), t) := by
  unfold draw
  simp only [bind_run, attempt_run, writeFile_run, OutputFormat.extension]
  cases t.writeFile (withExtension stem "dot") (Text.Utf8.encode text) with
  | ok t' => rfl
  | error e => rfl

/-- No program fails the way a file does whose directory is missing. -/
private theorem draw_program_ne_notFound {format : OutputFormat} (hf : format ≠ .dot) :
    ((onTree programs).draw env program text stem format).run.run t ≠ (.error (.io .notFound), t') := by
  intro h
  unfold draw at h
  cases format with
  | dot => exact hf rfl
  | _ =>
    rcases bind_error h with h | ⟨exit, _, -, h⟩
    · obtain ⟨_, -, hcause⟩ := attempt_error h
      cases hcause
    · dsimp only at h
      split at h
      · cases h
      · split at h
        · cases h
        · cases h

private theorem draw_notFound {format : OutputFormat}
    (h : ((onTree programs).draw env program text stem format).run.run t = (.error (.io .notFound), t')) :
    t' = t ∧ t.writeFile (withExtension stem "dot") (Text.Utf8.encode text) = .error .notFound := by
  by_cases hf : format = .dot
  · rw [hf, draw_dot] at h
    cases hw : t.writeFile (withExtension stem "dot") (Text.Utf8.encode text) with
    | ok t₁ =>
      rw [hw] at h
      cases h
    | error e =>
      rw [hw] at h
      cases h
      exact ⟨rfl, rfl⟩
  · exact absurd h (draw_program_ne_notFound hf)

/-- A run over formats that fails for a missing directory ends in a tree in which the text cannot be written. -/
private theorem mapM_draw_notFound {formats : List OutputFormat}
    (h : (formats.mapM ((onTree programs).draw env program text stem)).run.run t = (.error (.io .notFound), t')) :
    t'.writeFile (withExtension stem "dot") (Text.Utf8.encode text) = .error .notFound := by
  induction formats generalizing t with
  | nil => cases h
  | cons format rest ih =>
    rw [List.mapM_cons] at h
    rcases bind_error h with h | ⟨_, _, -, h⟩
    · obtain ⟨rfl, hwrite⟩ := draw_notFound h
      exact hwrite
    · rcases bind_error h with h | ⟨_, _, -, h⟩
      · exact ih h
      · cases h

private theorem draw_dot_keeps {result : Except RenderError String}
    (h : ((onTree programs).draw env program text stem .dot).run.run t = (result, t')) : t.Keeps t' := by
  rw [draw_dot] at h
  cases hw : t.writeFile (withExtension stem "dot") (Text.Utf8.encode text) with
  | ok t₁ =>
    rw [hw] at h
    cases h
    exact writeFile_keeps hw
  | error e =>
    rw [hw] at h
    cases h
    exact .refl t

private theorem mapM_draw_dot_keeps {formats : List OutputFormat} (hdot : ∀ format ∈ formats, format = .dot)
    {e : RenderError}
    (h : (formats.mapM ((onTree programs).draw env program text stem)).run.run t = (.error e, t')) : t.Keeps t' := by
  induction formats generalizing t with
  | nil => cases h
  | cons format rest ih =>
    obtain ⟨rfl, hrest⟩ := List.forall_mem_cons.mp hdot
    rw [List.mapM_cons] at h
    rcases bind_error h with h | ⟨path, t₁, hdraw, h⟩
    · exact draw_dot_keeps h
    · refine (draw_dot_keeps hdraw).trans ?_
      rcases bind_error h with h | ⟨_, _, -, h⟩
      · exact ih hrest h
      · cases h

private theorem render_run (formats : List OutputFormat) :
    ((onTree programs).render env program graph stem formats).run.run t =
      match t.prepare stem with
      | .ok t₁ => (formats.mapM ((onTree programs).draw env program graph.toDot stem)).run.run t₁
      | .error e => (.error (.io e), t) := by
  rw [render, prepare]
  cases parent? stem with
  | none => rfl
  | some dir =>
    simp only [bind_run, attempt_run, makeDirs_run]
    cases t.makeDirs (lineage dir) with
    | ok t₁ => rfl
    | error e => rfl

/-- Text that cannot be written in the prepared tree is where the render stops. -/
private theorem render_dot_error {t₁ : FileTree} {e : FileError} (hprepare : t.prepare stem = .ok t₁)
    (hwrite : t₁.writeFile (withExtension stem "dot") (Text.Utf8.encode graph.toDot) = .error e) :
    ((onTree programs).render env program graph stem [.dot]).run.run t = (.error (.io e), t₁) := by
  rw [render_run, hprepare]
  dsimp only
  rw [List.mapM_cons, bind_run, draw_dot, hwrite]

/-- A render that fails for a missing directory found a link in place of the output, if what was made is still there. -/
private theorem render_notFound (hstem : ¬ NamesDirectory stem) (hwork : t.entry? t.workDir = some .directory)
    {formats : List OutputFormat}
    (h : ((onTree programs).render env program graph stem formats).run.run t = (.error (.io .notFound), t')) :
    ∃ t₁, t.prepare stem = .ok t₁ ∧
      ((∀ format ∈ formats, format = .dot) ∨ t₁.Keeps t' → t'.EndsInLink (withExtension stem "dot")) := by
  rw [render_run, prepare_eq hstem] at h
  rw [prepare_eq hstem]
  have hslash := notMem_leading stem
  cases hmade : t.makeDirs (above (leading stem)) with
  | error e =>
    rw [hmade] at h
    cases h
    exact absurd hmade (makeDirs_ne_notFound hwork hslash)
  | ok t₁ =>
    rw [hmade] at h
    dsimp only at h
    refine ⟨t₁, rfl, fun hkeep => ?_⟩
    have hkeep : t₁.Keeps t' := hkeep.elim (fun hdot => mapM_draw_dot_keeps hdot h) id
    have hreach := (reaches_of_makeDirs hwork hslash hmade).keep hkeep
    rw [← leading_withExtension (show '/' ∉ "dot".toList by decide)] at hreach
    refine (writeFile_notFound (mapM_draw_notFound h)).resolve_left (holder_ne_notFound ?_ hreach)
    intro hempty
    simpa [withExtension] using congrArg String.length hempty

end render

/-- The directory that is made is that of the output exactly if the stem does not name a directory itself; otherwise it
is the one above. So a text whose directory is found missing is one behind a link, unless a program took it away. -/
theorem render_directory (stem : String) :
    (∀ format : OutputFormat,
      (parent? (withExtension stem format.extension) = parent? stem ↔ ¬ NamesDirectory stem) ∧
      (NamesDirectory stem → ∃ dir,
        parent? (withExtension stem format.extension) = some dir ∧ parent? dir = parent? stem)) ∧
    (∀ dir name, stem = join dir name →
      (NamesDirectory stem ↔ NamesDirectory name ∨ dir ≠ "" ∧ (name = "" ∨ name = "."))) ∧
    (¬ NamesDirectory stem → ∀ (programs : Programs) (t t' : FileTree) (env : Environment) (program : String)
      (graph : Graph) (formats : List OutputFormat), t.entry? t.workDir = some .directory →
      ((onTree programs).render env program graph stem formats).run.run t = (.error (.io .notFound), t') →
      ∃ t₁, t.prepare stem = .ok t₁ ∧
        ((∀ format ∈ formats, format = .dot) ∨ t₁.Keeps t' → t'.EndsInLink (withExtension stem "dot"))) := by
  refine ⟨fun format => ?_, ?_, ?_⟩
  · have hslash : '/' ∉ format.extension.toList := by cases format <;> decide
    have hne : format.extension ≠ "" := by cases format <;> decide
    exact ⟨parent?_withExtension_eq_iff hslash hne, exists_parent?_withExtension hslash hne⟩
  · rintro dir name rfl
    exact namesDirectory_join_iff dir name
  · intro hstem programs t t' env program graph formats hwork h
    exact render_notFound hstem hwork h

/-- The output is a link to a file in a directory that is missing. -/
def linkedOutput : FileTree := ⟨[(["out.dot"], .link "no/where")], []⟩

def noPrograms : Programs := fun _ _ _ _ => return .error .notFound

theorem linkedOutput_render_directory :
    ¬ NamesDirectory "out" ∧ linkedOutput.entry? linkedOutput.workDir = some .directory ∧
      ((onTree noPrograms).render [] "dot" (.empty "c") "out" [.dot]).run.run linkedOutput =
        (.error (.io .notFound), linkedOutput) ∧
      linkedOutput.EndsInLink "out.dot" := by
  have hstem : ¬ NamesDirectory "out" := by decide
  have hparent : parent? "out" = none := by decide +kernel
  have hprepare : linkedOutput.prepare "out" = .ok linkedOutput := by rw [prepare, hparent]
  have hholder : linkedOutput.holder "out.dot" = .ok ([], "out.dot") :=
    bind_eq_ok_iff.mpr ⟨["out.dot"], rfl, bind_eq_ok_iff.mpr ⟨[], walk_nil true, rfl⟩⟩
  have hlink : linkedOutput.entry? ([] ++ ["out.dot"]) = some (.link "no/where") := by decide +kernel
  have hwalk : linkedOutput.walk true linkLimit [] ["no"] = .error .notFound := by
    rw [walk]
    decide +kernel
  have htarget : linkedOutput.targetIn linkLimit [] "out.dot" = .error .notFound := by
    unfold linkLimit targetIn
    rw [if_neg (by decide), if_neg (by decide), hlink]
    exact bind_eq_error_iff.mpr (.inr ⟨["no", "where"], rfl, bind_eq_error_iff.mpr (.inl hwalk)⟩)
  have hrun : ((onTree noPrograms).render [] "dot" (.empty "c") "out" [.dot]).run.run linkedOutput =
      (.error (.io .notFound), linkedOutput) :=
    render_dot_error hprepare
      (bind_eq_error_iff.mpr (.inl (bind_eq_error_iff.mpr (.inr ⟨_, hholder, htarget⟩))))
  obtain ⟨_, -, hlinked⟩ := (render_directory "out").2.2 hstem _ _ _ _ _ _ _ rfl hrun
  exact ⟨hstem, rfl, hrun, hlinked (.inl (by simp))⟩

/-- The working directory is empty, whatever programs there are. -/
private theorem entry?_withPrograms (names : List String) (name : String) :
    entry? (withPrograms names) (["tmp", "work"] ++ [name]) = none := by
  simp [withPrograms, entry?]

/-- An empty name puts the output into a directory that is not made. -/
theorem empty_name_misses_directory :
    (join "b/a" "" = "b/a/" ∧ parent? "b/a/" = some "b" ∧
      parent? (withExtension "b/a/" OutputFormat.dot.extension) = some "b/a") ∧
    (join "a" "" = "a/" ∧ parent? "a/" = none ∧ parent? (withExtension "a/" OutputFormat.dot.extension) = some "a" ∧
      ∀ (programs : Programs) (names : List String),
        entry? (withPrograms names) (withPrograms names).workDir = some .directory ∧
        (withPrograms names).holder (withExtension "a/" OutputFormat.dot.extension) = .error .notFound ∧
        ((onTree programs).render [] "dot" (.empty "c") "a/" [.dot]).run.run (withPrograms names) =
          (.error (.io .notFound), withPrograms names)) := by
  have hparent : parent? "a/" = none := by decide +kernel
  refine ⟨by decide +kernel, by decide +kernel, hparent, by decide +kernel, fun programs names => ?_⟩
  have hwork : entry? (withPrograms names) (withPrograms names).workDir = some .directory := rfl
  have hpieces : pieces (withExtension "a/" "dot") = .ok ["a", ".dot"] := rfl
  have hmissing : (withPrograms names).holder (withExtension "a/" "dot") = .error .notFound :=
    holder_of_missing hwork hpieces (by decide +kernel) (by decide) (entry?_withPrograms names "a")
  have hprepare : (withPrograms names).prepare "a/" = .ok (withPrograms names) := by rw [prepare, hparent]
  exact ⟨hwork, hmissing, render_dot_error hprepare (writeFile_of_missing hmissing _)⟩

end Host

end ProcessDiagram
