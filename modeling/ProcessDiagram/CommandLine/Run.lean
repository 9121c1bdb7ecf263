import ProcessDiagram.CommandLine.Help
import ProcessDiagram.CommandLine.Outcome
import ProcessDiagram.CommandLine.Variables
import ProcessDiagram.Diagram.Assembly
import ProcessDiagram.Output.Render

/-! The program: from the words of its command line to its outcome. -/
namespace ProcessDiagram

open CommandLine

def Settings.override (s : Settings) (o : Options) : Except RenderError Settings := do
  let formats ← (o.formats.map OutputFormat.parseList).getD (.ok s.formats)
  return { s with
    processJson := o.input.getD s.processJson
    outputDir := o.outputDir.getD s.outputDir
    outputName := o.name.getD s.outputName
    formats }

/-- The settings of a run. Variables have to make sense even where an option takes their place. -/
def Settings.resolve (env : Environment) (o : Options) : Except Failure Settings := do
  let s ← (Settings.ofVariables env.value?).mapError .environment
  (s.override o).mapError .formats

/-- A diagram of a description at a path; some of its flow has to be drawn. -/
def Diagram.ofFile (path text : String) : Except Failure Diagram := do
  let d ← (Diagram.ofText text).mapError (.description path)
  if d.report.isEmpty then .error (.emptyFlow path) else .ok d

def Diagram.checkText (d : Diagram) : String :=
  d.report.text ++ "huella: " ++ d.graph.fingerprint ++ "\n"

namespace Host

variable {m : Type → Type} [Monad m]

def load (host : Host m) (path : String) : ExceptT Failure m Diagram := do
  let bytes ← attempt (host.readFile path) (.unreadable path)
  match Text.Utf8.decode? bytes with
  | none => throw (.unreadable path .notUtf8)
  | some text => ExceptT.mk (pure (Diagram.ofFile path text))

def perform (host : Host m) (env : Environment) (command : Command) (s : Settings) (d : Diagram) : m Outcome :=
  match command with
  | .dot => pure (.succeeded d.toDot)
  | .json => pure (.succeeded (d.toJson.pretty ++ "\n"))
  | .check =>
    pure (if d.report.hasIssues then .failed d.checkText (.issues d.report.issues.length)
      else .succeeded d.checkText)
  | .render => do
    match ← (host.render env s.dotExecutable d.graph s.outputStem s.formats).run with
    | .ok paths => return .succeeded (String.join (paths.map (· ++ "\n")))
    | .error e => return .failed "" (.notDrawn e)

def withFile (host : Host m) (env : Environment) : m Environment := do
  match ← host.readFile ".env" with
  | .ok bytes => return Variables.fillAll env (Variables.assignments bytes)
  | .error _ => return env

def execute (host : Host m) (env : Environment) (command : Command) (o : Options) : m Outcome := do
  let env ← host.withFile env
  match Settings.resolve env o with
  | .error f => return .failed "" f
  | .ok s =>
    match ← (host.load s.processJson).run with
    | .error f => return .failed "" f
    | .ok d => host.perform env command s d

def run (host : Host m) (env : Environment) (words : List String) : m Outcome :=
  match Request.ofWords words with
  | .version => pure (.succeeded versionText)
  | .help topic => pure (.succeeded (Help.text topic))
  | .misuse => pure { code := 2, errors := Help.misuseText }
  | .run command o => host.execute env command o

end Host

end ProcessDiagram
