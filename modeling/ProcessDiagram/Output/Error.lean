import ProcessDiagram.Files.Error
import ProcessDiagram.Output.Format

/-! What goes wrong between settings and a diagram's files. -/
namespace ProcessDiagram

inductive RenderError where
  | io (cause : FileError)
  /-- The drawing program could not be started. -/
  | spawn (program : String) (cause : FileError)
  /-- The drawing program failed; a program that was killed has no status. -/
  | drawing (format : OutputFormat) (status : Option Int) (errors : String)
  | unknownFormat (text : String)
  | settings (text : String)
deriving DecidableEq, Repr

namespace RenderError

def message : RenderError → String
  | .io cause => "Error de E/S: " ++ cause.message
  | .spawn program cause => "No se pudo ejecutar '" ++ program ++ "': " ++ cause.message
  | .drawing format status errors =>
    "Graphviz falló generando " ++ format.extension ++ " (código " ++
      (match status with
        | none => "None"
        | some n => "Some(" ++ toString n ++ ")") ++ "): " ++ errors
  | .unknownFormat text => "Formato de salida desconocido: " ++ text
  | .settings text => "Configuración inválida: " ++ text

/-- What lies behind the error, if anything does. -/
def cause? : RenderError → Option FileError
  | .io cause => some cause
  | .spawn _ cause => some cause
  | _ => none

end RenderError

end ProcessDiagram
