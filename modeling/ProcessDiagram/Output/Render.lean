import ProcessDiagram.Files.Host
import ProcessDiagram.Graph.Dot
import ProcessDiagram.Output.Settings
import ProcessDiagram.Text.Utf8

/-! Diagrams written to files. -/
namespace ProcessDiagram

namespace Host

variable {m : Type → Type} [Monad m]

/-- Draws one format: DOT text is written as it is, for all others a program is run on it.
That the program did not take the text counts for more than how it ended. -/
def draw (host : Host m) (env : Environment) (program dot stem : String) (format : OutputFormat) :
    ExceptT RenderError m String := do
  let path := Path.withExtension stem format.extension
  match format with
  | .dot => attempt (host.writeFile path dot) .io
  | _ =>
    let words := ["-T" ++ format.extension, "-o", path]
    let exit ← attempt (host.runProgram env program words dot) (.spawn program)
    if exit.room < dot.utf8ByteSize then throw (.io .brokenPipe)
    if exit.status ≠ some 0 then
      throw (.drawing format exit.status (Text.trim (Text.Utf8.decodeLossy exit.errors)))
  return path

/-- Makes the directory of the output, then draws the formats in order up to the first failure; the
paths written are the result. -/
def render (host : Host m) (env : Environment) (program : String) (graph : Graph)
    (stem : String) (formats : List OutputFormat) : ExceptT RenderError m (List String) := do
  match Path.parent? stem with
  | some dir => attempt (host.makeDirs dir) .io
  | none => pure ()
  formats.mapM (host.draw env program graph.toDot stem)

end Host

end ProcessDiagram
