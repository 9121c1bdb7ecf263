import ProcessDiagram.CommandLine.Run
import ProcessDiagram.Proofs.FormatList

/-! Which of the options, the variables and the defaults the settings of a run come from. The options go first, but the
list of formats among the variables is read even where an option takes its place. -/
namespace ProcessDiagram

open CommandLine

namespace Settings

/-- The text of a setting: the option, if it is given; if not, the variable, unless that is blank or not set; and the
default if nothing else is there. -/
inductive Source (default : String) : Option String → Option String → String → Prop where
  | given (text : String) (held : Option String) : Source default (some text) held text
  | held {text : String} (h : ¬ Text.allBlank text) : Source default none (some text) text
  | blank {text : String} (h : Text.allBlank text) : Source default none (some text) default
  | unset : Source default none none default

def ListRead (given held : Option String) (result : Except RenderError (List OutputFormat)) : Prop :=
  ∃ list, Source "png,pdf,svg" given held list ∧ OutputFormat.parseList list = result

/-- Each setting comes from its own option, variable and default. No option names the drawing program. -/
structure Follows (env : Environment) (o : Options) (s : Settings) : Prop where
  processJson : Source "process.json" o.input (env.value? "BPMN_PROCESS_JSON") s.processJson
  outputDir : Source "." o.outputDir (env.value? "BPMN_OUTPUT_DIR") s.outputDir
  outputName : Source "diagrama_bpmn" o.name (env.value? "BPMN_OUTPUT_NAME") s.outputName
  formats : ListRead o.formats (env.value? "BPMN_FORMATS") (.ok s.formats)
  dotExecutable : Source "dot" none (env.value? "GRAPHVIZ_DOT") s.dotExecutable

variable {lookup : String → Option String} {env : Environment} {o : Options}

private theorem valueOf_of_some {key default text : String} (h : lookup key = some text) :
    valueOf lookup key default = if Text.allBlank text then default else text := by
  rw [valueOf, h]
  cases hb : Text.allBlank text <;> simp [Option.filter, hb]

private theorem valueOf_of_none {key default : String} (h : lookup key = none) :
    valueOf lookup key default = default := by
  rw [valueOf, h]
  rfl

private theorem source_iff {key default text : String} {given : Option String} :
    Source default given (lookup key) text ↔ text = given.getD (valueOf lookup key default) := by
  constructor
  · intro h
    generalize hheld : lookup key = held at h
    cases h with
    | given => rfl
    | held h => simp only [valueOf_of_some hheld, if_neg h, Option.getD_none]
    | blank h => simp only [valueOf_of_some hheld, if_pos h, Option.getD_none]
    | unset => exact (valueOf_of_none hheld).symm
  · rintro rfl
    cases given with
    | some text => exact .given text _
    | none =>
      cases hheld : lookup key with
      | none =>
        rw [valueOf_of_none hheld]
        exact .unset
      | some text =>
        rw [valueOf_of_some hheld]
        split
        · rename_i h
          exact .blank h
        · rename_i h
          exact .held h

private theorem listRead_iff {given : Option String} {result : Except RenderError (List OutputFormat)} :
    ListRead given (lookup "BPMN_FORMATS") result ↔
      OutputFormat.parseList (given.getD (valueOf lookup "BPMN_FORMATS" "png,pdf,svg")) = result := by
  simp only [ListRead, source_iff, exists_eq_left]

/-- The variable or the default, without an option. -/
private theorem listRead_held_iff {result : Except RenderError (List OutputFormat)} :
    ListRead none (lookup "BPMN_FORMATS") result ↔
      OutputFormat.parseList (valueOf lookup "BPMN_FORMATS" "png,pdf,svg") = result := by
  rw [listRead_iff, Option.getD_none]

private theorem listRead_unique {given : Option String} {r r' : Except RenderError (List OutputFormat)}
    (h : ListRead given (lookup "BPMN_FORMATS") r) (h' : ListRead given (lookup "BPMN_FORMATS") r') : r = r' :=
  (listRead_iff.mp h).symm.trans (listRead_iff.mp h')

private theorem exists_listRead (given : Option String) (lookup : String → Option String) :
    ∃ r, ListRead given (lookup "BPMN_FORMATS") r := ⟨_, listRead_iff.mpr rfl⟩

def chosen (env : Environment) (o : Options) (formats : List OutputFormat) : Settings where
  processJson := o.input.getD (valueOf env.value? "BPMN_PROCESS_JSON" "process.json")
  outputDir := o.outputDir.getD (valueOf env.value? "BPMN_OUTPUT_DIR" ".")
  outputName := o.name.getD (valueOf env.value? "BPMN_OUTPUT_NAME" "diagrama_bpmn")
  formats := formats
  dotExecutable := valueOf env.value? "GRAPHVIZ_DOT" "dot"

private theorem follows_iff {s : Settings} : Follows env o s ↔
    ∃ formats, ListRead o.formats (env.value? "BPMN_FORMATS") (.ok formats) ∧ s = chosen env o formats := by
  constructor
  · rintro ⟨hjson, hdir, hname, hformats, hdot⟩
    refine ⟨s.formats, hformats, ?_⟩
    rw [chosen, ← source_iff.mp hjson, ← source_iff.mp hdir, ← source_iff.mp hname]
    have hdot : s.dotExecutable = valueOf env.value? "GRAPHVIZ_DOT" "dot" := source_iff.mp hdot
    rw [← hdot]
  · rintro ⟨formats, hformats, rfl⟩
    exact ⟨source_iff.mpr rfl, source_iff.mpr rfl, source_iff.mpr rfl, hformats, source_iff.mpr rfl⟩

private theorem override_eq (s : Settings) (o : Options) :
    s.override o = ((o.formats.map OutputFormat.parseList).getD (.ok s.formats)).map fun formats =>
      { s with
        processJson := o.input.getD s.processJson
        outputDir := o.outputDir.getD s.outputDir
        outputName := o.name.getD s.outputName
        formats } := by
  rw [override]
  cases (o.formats.map OutputFormat.parseList).getD (.ok s.formats) <;> rfl

private theorem ofVariables_eq (env : Environment) : ofVariables env.value? =
    (OutputFormat.parseList (valueOf env.value? "BPMN_FORMATS" "png,pdf,svg")).map (chosen env {}) := by
  rw [ofVariables]
  cases OutputFormat.parseList (valueOf env.value? "BPMN_FORMATS" "png,pdf,svg") <;> rfl

/-- The list among the variables is read before anything else. -/
private theorem resolve_of_refused {cause : RenderError}
    (h : ListRead none (env.value? "BPMN_FORMATS") (.error cause)) : resolve env o = .error (.environment cause) := by
  have hread : ofVariables env.value? = .error cause := by
    rw [ofVariables_eq, listRead_held_iff.mp h]
    rfl
  simp only [resolve, hread, Except.mapError, bind, Except.bind]

/-- Once it makes sense, the list that counts decides. -/
private theorem resolve_of_read {held : List OutputFormat} (h : ListRead none (env.value? "BPMN_FORMATS") (.ok held))
    {result : Except RenderError (List OutputFormat)} (hr : ListRead o.formats (env.value? "BPMN_FORMATS") result) :
    resolve env o = (result.map (chosen env o)).mapError .formats := by
  have hheld : ofVariables env.value? = .ok (chosen env {} held) := by
    rw [ofVariables_eq, listRead_held_iff.mp h]
    rfl
  have hresult : (o.formats.map OutputFormat.parseList).getD (.ok held) = result := by
    cases hf : o.formats with
    | none =>
      rw [hf] at hr
      exact listRead_unique h hr
    | some list =>
      rw [hf, listRead_iff, Option.getD_some] at hr
      rw [Option.map_some, Option.getD_some, hr]
  have hoverride : (chosen env {} held).override o = result.map (chosen env o) := by
    rw [override_eq, ← hresult]
    rfl
  simp only [resolve, hheld, Except.mapError, bind, Except.bind, hoverride]

private theorem resolve_cases (env : Environment) (o : Options) :
    (∃ cause, ListRead none (env.value? "BPMN_FORMATS") (.error cause) ∧ resolve env o = .error (.environment cause)) ∨
    ∃ held result, ListRead none (env.value? "BPMN_FORMATS") (.ok held) ∧
      ListRead o.formats (env.value? "BPMN_FORMATS") result ∧
      resolve env o = (result.map (chosen env o)).mapError .formats := by
  obtain ⟨held, hheld⟩ := exists_listRead none env.value?
  obtain ⟨result, hresult⟩ := exists_listRead o.formats env.value?
  cases held with
  | error cause => exact .inl ⟨cause, hheld, resolve_of_refused hheld⟩
  | ok held => exact .inr ⟨held, result, hheld, hresult, resolve_of_read hheld hresult⟩

private theorem resolve_eq_ok_iff {s : Settings} : resolve env o = .ok s ↔
    (∃ held, ListRead none (env.value? "BPMN_FORMATS") (.ok held)) ∧ Follows env o s := by
  constructor
  · intro h
    obtain ⟨cause, _, he⟩ | ⟨held, result, hheld, hresult, he⟩ := resolve_cases env o
    · cases he.symm.trans h
    · cases result with
      | error cause => cases he.symm.trans h
      | ok formats =>
        refine ⟨⟨held, hheld⟩, follows_iff.mpr ⟨formats, hresult, ?_⟩⟩
        exact (Except.ok.inj (he.symm.trans h)).symm
  · rintro ⟨⟨held, hheld⟩, hs⟩
    obtain ⟨formats, hformats, rfl⟩ := follows_iff.mp hs
    rw [resolve_of_read hheld hformats]
    rfl

private theorem resolve_environment_iff {cause : RenderError} : resolve env o = .error (.environment cause) ↔
    ListRead none (env.value? "BPMN_FORMATS") (.error cause) := by
  refine ⟨fun h => ?_, resolve_of_refused⟩
  obtain ⟨other, hother, he⟩ | ⟨held, result, _, _, he⟩ := resolve_cases env o
  · cases he.symm.trans h
    exact hother
  · cases result <;> cases he.symm.trans h

private theorem resolve_formats_iff {cause : RenderError} : resolve env o = .error (.formats cause) ↔
    (∃ held, ListRead none (env.value? "BPMN_FORMATS") (.ok held)) ∧
      ∃ list, o.formats = some list ∧ OutputFormat.parseList list = .error cause := by
  constructor
  · intro h
    obtain ⟨other, _, he⟩ | ⟨held, result, hheld, hresult, he⟩ := resolve_cases env o
    · cases he.symm.trans h
    · cases result with
      | ok formats => cases he.symm.trans h
      | error other =>
        cases he.symm.trans h
        cases hf : o.formats with
        | none =>
          rw [hf] at hresult
          cases listRead_unique hheld hresult
        | some list =>
          rw [hf, listRead_iff] at hresult
          exact ⟨⟨held, hheld⟩, list, rfl, hresult⟩
  · rintro ⟨⟨held, hheld⟩, list, hf, hlist⟩
    have hgiven : ListRead o.formats (env.value? "BPMN_FORMATS") (.error cause) := ⟨list, hf ▸ .given list _, hlist⟩
    rw [resolve_of_read hheld hgiven]
    rfl

private theorem exists_resolve_iff : (∃ s, resolve env o = .ok s) ↔
    (∃ held, ListRead none (env.value? "BPMN_FORMATS") (.ok held)) ∧
      ∀ list, o.formats = some list → ∃ formats, OutputFormat.parseList list = .ok formats := by
  simp only [resolve_eq_ok_iff, exists_and_left, and_congr_right_iff]
  rintro ⟨held, hheld⟩
  constructor
  · rintro ⟨s, hs⟩ list hf
    have hread := hs.formats
    rw [hf, listRead_iff] at hread
    exact ⟨s.formats, hread⟩
  · intro h
    cases hf : o.formats with
    | none => exact ⟨_, follows_iff.mpr ⟨held, hf ▸ hheld, rfl⟩⟩
    | some list =>
      obtain ⟨formats, hlist⟩ := h list hf
      exact ⟨_, follows_iff.mpr ⟨formats, ⟨list, hf ▸ .given list _, hlist⟩, rfl⟩⟩

/-- Settings in any environment and with any options. They are made exactly if the list among the variables makes sense,
with or without an option in its place, and then each comes from its option, else from its variable, else from its
default. They can be made exactly if neither list is refused, and a list that is refused says why. -/
theorem resolve_follows (env : Environment) (o : Options) :
    (∀ s, resolve env o = .ok s ↔
      (∃ held, ListRead none (env.value? "BPMN_FORMATS") (.ok held)) ∧ Follows env o s) ∧
    ((∃ s, resolve env o = .ok s) ↔ (∃ held, ListRead none (env.value? "BPMN_FORMATS") (.ok held)) ∧
      ∀ list, o.formats = some list → ∃ formats, OutputFormat.parseList list = .ok formats) ∧
    (∀ cause, resolve env o = .error (.environment cause) ↔
      ListRead none (env.value? "BPMN_FORMATS") (.error cause)) ∧
    ∀ cause, resolve env o = .error (.formats cause) ↔
      (∃ held, ListRead none (env.value? "BPMN_FORMATS") (.ok held)) ∧
        ∃ list, o.formats = some list ∧ OutputFormat.parseList list = .error cause :=
  ⟨fun _ => resolve_eq_ok_iff, exists_resolve_iff, fun _ => resolve_environment_iff, fun _ => resolve_formats_iff⟩

def outEnvironment : Environment :=
  [("BPMN_OUTPUT_DIR", "out"), ("BPMN_OUTPUT_NAME", " \t"), ("BPMN_FORMATS", "SVG, png")]

theorem out_resolve_follows :
    resolve outEnvironment { input := some "order.json", formats := some "dot" } =
      .ok { processJson := "order.json", outputDir := "out", formats := [.dot] } ∧
    Follows outEnvironment { input := some "order.json", formats := some "dot" }
      { processJson := "order.json", outputDir := "out", formats := [.dot] } ∧
    resolve outEnvironment { formats := some "dot,bmp" } = .error (.formats (.unknownFormat "bmp")) := by
  obtain ⟨hok, -, -, -⟩ := resolve_follows outEnvironment { input := some "order.json", formats := some "dot" }
  obtain ⟨-, -, -, hformats⟩ := resolve_follows outEnvironment { formats := some "dot,bmp" }
  have hheld : ∃ held, ListRead none (outEnvironment.value? "BPMN_FORMATS") (.ok held) :=
    ⟨[.svg, .png], listRead_held_iff.mpr (by decide +kernel)⟩
  have hmade : resolve outEnvironment { input := some "order.json", formats := some "dot" } =
      .ok { processJson := "order.json", outputDir := "out", formats := [.dot] } := by decide +kernel
  exact ⟨hmade, ((hok _).mp hmade).2, (hformats _).mpr ⟨hheld, "dot,bmp", rfl, by decide +kernel⟩⟩

/-- The list that counts makes sense, and the one whose place it takes does not. -/
theorem overridden_list_refused :
    OutputFormat.parseList "dot" = .ok [.dot] ∧
    resolve [("BPMN_FORMATS", "zip")] { formats := some "dot" } = .error (.environment (.unknownFormat "zip")) ∧
    ¬ ∀ (env : Environment) (o : Options),
      (∃ formats, ListRead o.formats (env.value? "BPMN_FORMATS") (.ok formats)) →
        ∃ s, resolve env o = .ok s ∧ Follows env o s := by
  have hread : OutputFormat.parseList "dot" = .ok [.dot] := by decide +kernel
  have hrefused : resolve [("BPMN_FORMATS", "zip")] { formats := some "dot" } =
      .error (.environment (.unknownFormat "zip")) := by decide +kernel
  refine ⟨hread, hrefused, fun h => ?_⟩
  obtain ⟨s, hs, -⟩ := h [("BPMN_FORMATS", "zip")] { formats := some "dot" } ⟨[.dot], "dot", .given "dot" _, hread⟩
  cases hrefused.symm.trans hs

end Settings

end ProcessDiagram
