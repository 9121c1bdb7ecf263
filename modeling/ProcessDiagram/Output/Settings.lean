import ProcessDiagram.Files.Path
import ProcessDiagram.Output.Error

/-! Where a process is read from, where its diagram goes and in which formats. -/
namespace ProcessDiagram

/-- Each format named, once, in order of first mention. -/
def OutputFormat.collect : List String → List OutputFormat → Except RenderError (List OutputFormat)
  | [], found => .ok found
  | item :: rest, found =>
    match OutputFormat.ofText? item with
    | none => .error (.unknownFormat item)
    | some f => collect rest (if f ∈ found then found else found ++ [f])

/-- A list separated by commas; empty items are passed over, and some item must be left. -/
def OutputFormat.parseList (list : String) : Except RenderError (List OutputFormat) := do
  let items := ((Text.split ',' list).map Text.trim).filter (· ≠ "")
  match ← collect items [] with
  | [] => .error (.settings ("sin formatos de salida en '" ++ list ++ "'"))
  | formats => .ok formats

structure Settings where
  processJson : String := "process.json"
  outputDir : String := "."
  outputName : String := "diagrama_bpmn"
  formats : List OutputFormat := [.png, .pdf, .svg]
  dotExecutable : String := "dot"
deriving DecidableEq, Repr

namespace Settings

def variableNames : List String :=
  ["BPMN_PROCESS_JSON", "BPMN_OUTPUT_DIR", "BPMN_OUTPUT_NAME", "BPMN_FORMATS", "GRAPHVIZ_DOT"]

/-- A variable that is unset or blank leaves the default. -/
def valueOf (lookup : String → Option String) (key default : String) : String :=
  ((lookup key).filter fun v => !Text.allBlank v).getD default

def ofVariables (lookup : String → Option String) : Except RenderError Settings := do
  let formats ← OutputFormat.parseList (valueOf lookup "BPMN_FORMATS" "png,pdf,svg")
  return {
    processJson := valueOf lookup "BPMN_PROCESS_JSON" "process.json"
    outputDir := valueOf lookup "BPMN_OUTPUT_DIR" "."
    outputName := valueOf lookup "BPMN_OUTPUT_NAME" "diagrama_bpmn"
    formats
    dotExecutable := valueOf lookup "GRAPHVIZ_DOT" "dot" }

def outputStem (s : Settings) : String := Path.join s.outputDir s.outputName

def same (s t : Settings) : Bool :=
  Path.same s.processJson t.processJson && Path.same s.outputDir t.outputDir &&
    s.outputName == t.outputName && s.formats == t.formats && s.dotExecutable == t.dotExecutable

end Settings

end ProcessDiagram
