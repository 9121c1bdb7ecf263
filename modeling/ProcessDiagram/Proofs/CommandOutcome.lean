import ProcessDiagram.CommandLine.Run
import ProcessDiagram.Proofs.MainFlow
import ProcessDiagram.Proofs.Sequence

/-! How the commands end that print a diagram or check a description. Whether they succeed, and what they print, is told
by the text of the description alone. -/
namespace ProcessDiagram

open Json

def HasFlow (text : String) (items : List Json) : Prop :=
  ∃ fields, Json.read text = .ok (.object fields) ∧ lookup fields "flow" = some (.array items)

def Drawable (text : String) : Prop :=
  ∃ items, HasFlow text items ∧ ∃ v ∈ items, ∃ e, FlowElement.ofJson v = .ok e

def Flawless (text : String) : Prop :=
  ∃ items, HasFlow text items ∧ ∀ v ∈ items, ∃ e, FlowElement.ofJson v = .ok e

/-- There is no document, or it is no object, or its flow is no list. -/
inductive Malformed (text : String) : Prop where
  | notJson {e : String} (h : Json.read text = .error e)
  | notAnObject {v : Json} (h : Json.read text = .ok v) (hv : ∀ fields, v ≠ .object fields)
  | flowNotAList {fields : List (String × Json)} {v : Json} (h : Json.read text = .ok (.object fields))
      (hf : lookup fields "flow" = some v) (hv : ∀ items, v ≠ .array items)

namespace ProcessDescription
variable {text : String} {items : List Json}

private theorem text_cases (text : String) : Malformed text ∨
    (∃ fields, Json.read text = .ok (.object fields) ∧ lookup fields "flow" = none) ∨ ∃ items, HasFlow text items := by
  cases h : Json.read text with
  | error e => exact .inl (.notJson h)
  | ok v =>
    cases v with
    | object fields =>
      cases hf : lookup fields "flow" with
      | none => exact .inr (.inl ⟨fields, rfl, hf⟩)
      | some v =>
        cases v with
        | array items => exact .inr (.inr ⟨items, fields, h, hf⟩)
        | _ => exact .inl (.flowNotAList h hf (by simp))
    | _ => exact .inl (.notAnObject h (by simp))

private theorem ofText_read {v : Json} (h : Json.read text = .ok v) : ofText text = ofJson v := by
  rw [ofText, h]
  rfl

private theorem ofText_malformed (h : Malformed text) : ∃ e, ofText text = .error e := by
  cases h with
  | @notJson e h =>
    refine ⟨.invalidJson e, ?_⟩
    rw [ofText, h]
    rfl
  | @notAnObject v h hv =>
    rw [ofText_read h]
    cases v with
    | object fields => exact absurd rfl (hv fields)
    | _ => exact ⟨_, rfl⟩
  | @flowNotAList fields v h hf hv =>
    rw [ofText_read h, ofJson, hf]
    cases v with
    | array items => exact absurd rfl (hv items)
    | _ => exact ⟨_, rfl⟩

private theorem ofText_withoutFlow {fields : List (String × Json)} (h : Json.read text = .ok (.object fields))
    (hf : lookup fields "flow" = none) : ofText text = .ok withoutFlow := by
  rw [ofText_read h, ofJson, hf]

private theorem ofText_flow (h : HasFlow text items) : ofText text = .ok ⟨some (items.map FlowElement.ofJson)⟩ := by
  obtain ⟨fields, h, hf⟩ := h
  rw [ofText_read h, ofJson, hf]

/-- Reading a description fails for nothing in its flow. -/
private theorem ofText_error_iff : (∃ e, ofText text = .error e) ↔ Malformed text := by
  refine ⟨fun ⟨e, he⟩ => ?_, ofText_malformed⟩
  rcases text_cases text with h | ⟨fields, h, hf⟩ | ⟨items, h⟩
  · exact h
  · cases he.symm.trans (ofText_withoutFlow h hf)
  · cases he.symm.trans (ofText_flow h)

private theorem flow_of_ofText {p : ProcessDescription} (h : ofText text = .ok p) :
    p = withoutFlow ∨ ∃ items, HasFlow text items ∧ p = ⟨some (items.map FlowElement.ofJson)⟩ := by
  rcases text_cases text with hm | ⟨fields, hr, hf⟩ | ⟨items, hi⟩
  · obtain ⟨e, he⟩ := ofText_malformed hm
    cases he.symm.trans h
  · exact .inl (Except.ok.inj (h.symm.trans (ofText_withoutFlow hr hf)))
  · exact .inr ⟨items, hi, Except.ok.inj (h.symm.trans (ofText_flow hi))⟩

private theorem exists_ok_of_drawable (h : Drawable text) :
    ∃ p, ofText text = .ok p ∧ ∃ e, Except.ok e ∈ p.entries := by
  obtain ⟨items, hi, v, hv, e, he⟩ := h
  exact ⟨_, ofText_flow hi, e, List.mem_map.mpr ⟨v, hv, he⟩⟩

private theorem drawable_of_ok {p : ProcessDescription} (h : ofText text = .ok p) {e : FlowElement}
    (he : Except.ok e ∈ p.entries) : Drawable text := by
  obtain rfl | ⟨items, hi, rfl⟩ := flow_of_ofText h
  · cases he
  · obtain ⟨v, hv, hve⟩ := List.mem_map.mp he
    exact ⟨items, hi, v, hv, e, hve⟩

private theorem flawless_iff {p : ProcessDescription} (h : ofText text = .ok p) (hd : Drawable text) :
    Flawless text ↔ ∀ e, Except.error e ∉ p.entries := by
  have hitems {items : List Json} (hi : HasFlow text items) : p.entries = items.map FlowElement.ofJson := by
    rw [Except.ok.inj (h.symm.trans (ofText_flow hi))]
    rfl
  constructor
  · rintro ⟨items, hi, hall⟩ e he
    rw [hitems hi] at he
    obtain ⟨v, hv, hve⟩ := List.mem_map.mp he
    obtain ⟨e', he'⟩ := hall v hv
    cases he'.symm.trans hve
  · intro hnone
    obtain ⟨items, hi, _⟩ := hd
    refine ⟨items, hi, fun v hv => ?_⟩
    cases hve : FlowElement.ofJson v with
    | ok e => exact ⟨e, rfl⟩
    | error e => exact absurd (hitems hi ▸ List.mem_map.mpr ⟨v, hv, hve⟩) (hnone e)

end ProcessDescription

namespace Diagram

private theorem isEmpty_ofProcess (p : ProcessDescription) :
    (ofProcess p).report.isEmpty = false ↔ ∃ e, Except.ok e ∈ p.entries := by
  have hcompiled : (ofProcess p).report.compiled = (validElements p.entries).length := by
    rw [report_ofProcess, ← Drawing.length_filled p.entries start, slots_start]
  have hmem (e : FlowElement) : e ∈ validElements p.entries ↔ Except.ok e ∈ p.entries := by
    rw [validElements, List.mem_filterMap]
    constructor
    · rintro ⟨entry, hentry, he⟩
      cases entry with
      | ok f =>
        cases he
        exact hentry
      | error => cases he
    · exact fun h => ⟨.ok e, h, rfl⟩
  rw [Report.isEmpty, hcompiled, beq_eq_false_iff_ne, ← exists_congr hmem, ← List.length_pos_iff_exists_mem,
    Nat.pos_iff_ne_zero]

private theorem hasIssues_ofProcess (p : ProcessDescription) :
    (ofProcess p).report.hasIssues = false ↔ ∀ e, Except.error e ∉ p.entries := by
  simp only [Report.hasIssues, report_ofProcess, Bool.not_eq_false', List.isEmpty_iff, List.map_eq_nil_iff]
  rw [List.eq_nil_iff_forall_not_mem]
  constructor
  · intro h e he
    obtain ⟨i, hi⟩ := List.getElem?_of_mem he
    exact h (i, e) (Drawing.mem_failingEntries.mpr hi)
  · rintro h ⟨i, e⟩ hi
    exact h e (List.mem_of_getElem? (Drawing.mem_failingEntries.mp hi))

end Diagram

namespace CommandLine

def printed (d : Diagram) : Command → String
  | .dot => d.toDot
  | .json => d.toJson.pretty ++ "\n"
  | .check => d.report.text ++ "huella: " ++ d.graph.fingerprint ++ "\n"
  | .render => ""

/-- How a command ends on a diagram: only a check fails, for issues. -/
def conclude (command : Command) (d : Diagram) : Outcome :=
  if command = .check ∧ d.report.hasIssues then .failed (printed d command) (.issues d.report.issues.length)
  else .succeeded (printed d command)

private theorem output_conclude (command : Command) (d : Diagram) :
    (conclude command d).output = printed d command := by
  rw [conclude]
  split <;> rfl

private theorem code_conclude (command : Command) (d : Diagram) :
    (conclude command d).code = if command = .check ∧ d.report.hasIssues then 1 else 0 := by
  rw [conclude]
  split <;> rfl

def loaded (path : String) : Except FileError (List UInt8) → Except Failure Diagram
  | .error cause => .error (.unreadable path cause)
  | .ok bytes =>
    match Text.Utf8.decode? bytes with
    | none => .error (.unreadable path .notUtf8)
    | some text => Diagram.ofFile path text

def settle (command : Command) (path : String) (content : Except FileError (List UInt8)) : Outcome :=
  match loaded path content with
  | .error failure => .failed "" failure
  | .ok d => conclude command d

structure Settled (command : Command) (text : String) (o : Outcome) : Prop where
  succeeds : o.code = 0 ↔ Drawable text ∧ (command = .check → Flawless text)
  fails : o.code ≠ 0 → o.code = 1
  prints : Drawable text → ∃ d, Diagram.ofText text = .ok d ∧ o.output = printed d command
  silent : ¬ Drawable text → o.code = 1 ∧ o.output = ""

/-- A document that can be read and has an element to draw leads to a diagram; all others end in failure. -/
private theorem ofFile_cases (path text : String) : (∃ f, ¬ Drawable text ∧ Diagram.ofFile path text = .error f) ∨
    ∃ p, Drawable text ∧ ProcessDescription.ofText text = .ok p ∧
      Diagram.ofFile path text = .ok (Diagram.ofProcess p) := by
  cases h : ProcessDescription.ofText text with
  | error e =>
    have hfile : Diagram.ofFile path text = .error (.description path e) := by
      rw [Diagram.ofFile, Diagram.ofText, h]
      rfl
    refine .inl ⟨_, fun hd => ?_, hfile⟩
    obtain ⟨p, hp, _⟩ := ProcessDescription.exists_ok_of_drawable hd
    cases h.symm.trans hp
  | ok p =>
    have hfile : Diagram.ofFile path text = if (Diagram.ofProcess p).report.isEmpty then .error (.emptyFlow path)
        else .ok (Diagram.ofProcess p) := by
      rw [Diagram.ofFile, Diagram.ofText, h]
      rfl
    cases he : (Diagram.ofProcess p).report.isEmpty with
    | true =>
      refine .inl ⟨.emptyFlow path, fun hdraw => ?_, by rw [hfile, he, if_pos rfl]⟩
      obtain ⟨q, hq, hok⟩ := ProcessDescription.exists_ok_of_drawable hdraw
      cases h.symm.trans hq
      cases he.symm.trans ((Diagram.isEmpty_ofProcess p).mpr hok)
    | false =>
      obtain ⟨e, hok⟩ := (Diagram.isEmpty_ofProcess p).mp he
      exact .inr ⟨p, ProcessDescription.drawable_of_ok h hok, rfl, by rw [hfile, he, if_neg Bool.false_ne_true]⟩

private theorem settled (command : Command) (path : String) {bytes : List UInt8} {text : String}
    (h : Text.Utf8.decode? bytes = some text) : Settled command text (settle command path (.ok bytes)) := by
  obtain ⟨f, hd, hf⟩ | ⟨p, hd, hp, hf⟩ := ofFile_cases path text
  · have ho : settle command path (.ok bytes) = .failed "" f := by simp only [settle, loaded, h, hf]
    rw [ho]
    exact ⟨by simp [Outcome.failed, hd], fun _ => rfl, fun hdraw => absurd hdraw hd, fun _ => ⟨rfl, rfl⟩⟩
  · have ho : settle command path (.ok bytes) = conclude command (Diagram.ofProcess p) := by
      simp only [settle, loaded, h, hf]
    have hflawless : Flawless text ↔ (Diagram.ofProcess p).report.hasIssues = false :=
      (ProcessDescription.flawless_iff hp hd).trans (Diagram.hasIssues_ofProcess p).symm
    have hdiagram : Diagram.ofText text = .ok (Diagram.ofProcess p) := by
      rw [Diagram.ofText, hp]
      rfl
    rw [ho]
    refine ⟨?_, ?_, fun _ => ⟨_, hdiagram, output_conclude _ _⟩, fun hno => absurd hd hno⟩
    · rw [code_conclude, hflawless]
      simp [hd]
    · rw [code_conclude]
      split <;> simp

section host
variable {m : Type → Type} [Monad m] (host : Host m)

private theorem perform_eq (env : Environment) {command : Command} (hc : command ≠ .render) (s : Settings)
    (d : Diagram) : host.perform env command s d = pure (conclude command d) := by
  cases command with
  | render => exact absurd rfl hc
  | dot => rfl
  | json => rfl
  | check =>
    rw [Host.perform, conclude]
    cases d.report.hasIssues <;> rfl

variable [LawfulMonad m]

private theorem run_load (path : String) : (host.load path).run = loaded path <$> host.readFile path := by
  rw [Host.load, ExceptT.run_bind, Host.attempt, ExceptT.run_mk, bind_map_left, map_eq_pure_bind]
  refine bind_congr fun content => ?_
  cases content with
  | error cause => rfl
  | ok bytes =>
    simp only [loaded, Except.mapError]
    cases Text.Utf8.decode? bytes <;> rfl

/-- A run is its settings, then the description, then the outcome on it; it does nothing else. -/
private theorem execute_eq (env : Environment) {command : Command} (hc : command ≠ .render) (o : Options) :
    host.execute env command o = (do
      let env ← host.withFile env
      match Settings.resolve env o with
      | .error f => return .failed "" f
      | .ok s => settle command s.processJson <$> host.readFile s.processJson) := by
  refine bind_congr fun env => ?_
  cases Settings.resolve env o with
  | error f => rfl
  | ok s =>
    simp only [run_load, bind_map_left]
    rw [map_eq_pure_bind]
    refine bind_congr fun content => ?_
    simp only [settle]
    cases loaded s.processJson content with
    | error f => rfl
    | ok d => exact perform_eq host env hc s d

end host

/-- A command that draws no files, on any host. Once the settings make sense, its outcome depends on the description
that they lead to and on nothing else. It succeeds if the text is a document with an element that can be read and, for a
check, none that cannot; in either case, as soon as there is an element, all that belongs to the diagram is printed, and
otherwise nothing is. No element keeps the rest of a document from being read. -/
theorem run_settles {m : Type → Type} [Monad m] [LawfulMonad m] (host : Host m) (env : Environment)
    {words : List String} {command : Command} {o : Options} (h : Request.ofWords words = .run command o)
    (hc : command ≠ .render) :
    (host.run env words = do
      let env ← host.withFile env
      match Settings.resolve env o with
      | .error f => return .failed "" f
      | .ok s => settle command s.processJson <$> host.readFile s.processJson) ∧
    (∀ path bytes text, Text.Utf8.decode? bytes = some text →
      Settled command text (settle command path (.ok bytes))) ∧
    (∀ path content, (∀ bytes text, content = .ok bytes → Text.Utf8.decode? bytes ≠ some text) →
      (settle command path content).code = 1 ∧ (settle command path content).output = "") ∧
    ∀ text, (∃ e, Diagram.ofText text = .error e) ↔ Malformed text := by
  refine ⟨?_, fun path bytes text => settled command path, fun path content hno => ?_, fun text => ?_⟩
  · rw [Host.run, h]
    exact execute_eq host env hc o
  · cases content with
    | error cause => exact ⟨rfl, rfl⟩
    | ok bytes =>
      cases hb : Text.Utf8.decode? bytes with
      | none => simp only [settle, loaded, hb]; exact ⟨rfl, rfl⟩
      | some text => exact absurd hb (hno bytes text rfl)
  · rw [← ProcessDescription.ofText_error_iff, Diagram.ofText]
    cases ProcessDescription.ofText text <;> simp [Functor.map, Except.map]

/-- A task that can be drawn, and a loop without a name. -/
def orderText : String :=
  "\x7b\"flow\":[\x7b\"name\":\"Pay\",\"type\":\"Tarea\"\x7d,\x7b\"type\":\"loop\"\x7d]\x7d"

def orderBytes : List UInt8 := orderText.toList.map fun c => c.toNat.toUInt8

def oneFile (path : String) (bytes : List UInt8) : Host Id where
  readFile p := pure (if p = path then .ok bytes else .error .notFound)
  makeDirs _ := pure (.error .accessDenied)
  writeFile _ _ := pure (.error .accessDenied)
  runProgram _ _ _ _ := pure (.error .notFound)

theorem order_run_settles :
    (oneFile "process.json" orderBytes).run [] ["check"] = settle .check "process.json" (.ok orderBytes) ∧
    Settled .check orderText (settle .check "process.json" (.ok orderBytes)) ∧ Drawable orderText ∧
    ¬ Flawless orderText ∧ (settle .check "process.json" (.ok orderBytes)).code = 1 := by
  have hwords : Request.ofWords ["check"] = .run .check {} := by rfl
  have hbytes : Text.Utf8.decode? orderBytes = some orderText := by decide +kernel
  obtain ⟨hrun, hsettled, -, -⟩ := run_settles (oneFile "process.json" orderBytes) [] hwords (by decide)
  have hfile : (oneFile "process.json" orderBytes).withFile [] = pure [] := rfl
  have hresolve : Settings.resolve [] {} = .ok {} := by decide +kernel
  have hfields : Json.read orderText = .ok (.object [("flow", .array [
      .object [("name", .string "Pay"), ("type", .string "Tarea")], .object [("type", .string "loop")]])]) := by cbv
  have hs := hsettled "process.json" orderBytes orderText hbytes
  have hflawed : ¬ Flawless orderText := by
    rintro ⟨items, ⟨fields, hread, hflow⟩, hall⟩
    cases hfields.symm.trans hread
    cases hflow
    obtain ⟨e, he⟩ := hall (.object [("type", .string "loop")]) (by simp)
    cases he
  refine ⟨hrun.trans ?_, hs, ?_, hflawed, hs.fails fun h => hflawed ((hs.succeeds.mp h).2 rfl)⟩
  · rw [hfile, pure_bind, hresolve]
    rfl
  · exact ⟨_, ⟨_, hfields, rfl⟩, _, List.mem_cons_self, .task { name := "Pay" }, by rfl⟩

end CommandLine

end ProcessDiagram
