import ProcessDiagram.Output.Error
import ProcessDiagram.Process.Error

/-! How a run of the program ends. -/
namespace ProcessDiagram.CommandLine

inductive Failure where
  /-- The settings of the environment make no sense. -/
  | environment (cause : RenderError)
  /-- Neither does the list of formats among the options. -/
  | formats (cause : RenderError)
  | unreadable (path : String) (cause : FileError)
  | description (path : String) (cause : DescriptionError)
  /-- Nothing of the flow can be drawn. -/
  | emptyFlow (path : String)
  | notDrawn (cause : RenderError)
  /-- Part of the flow could not be drawn. -/
  | issues (count : Nat)
deriving DecidableEq, Repr

namespace Failure

def message : Failure → String
  | .environment _ => "configuración del entorno inválida"
  | .formats cause => cause.message
  | .unreadable path _ => "no se pudo leer " ++ path
  | .description path _ => "descripción inválida en " ++ path
  | .emptyFlow path => "el flujo principal de " ++ path ++ " está vacío"
  | .notDrawn _ => "no se pudo dibujar el diagrama"
  | .issues count => toString count ++ " elemento(s) con incidencias"

/-- An error, then what lies behind it. -/
def chain (e : RenderError) : List String := e.message :: (e.cause?.map (·.message)).toList

def causes : Failure → List String
  | .environment cause => chain cause
  | .formats cause => (chain cause).tail
  | .unreadable _ cause => [cause.message]
  | .description _ cause => [cause.compileMessage, cause.message]
  | .emptyFlow _ => []
  | .notDrawn cause => chain cause
  | .issues _ => []

def indented (first further text : String) : String :=
  first ++ ("\n" ++ further).intercalate (Text.split '\n' text)

/-- Causes are numbered if there are several. -/
def causeLines : List String → List String
  | [] => []
  | [cause] => [indented "    " "    " cause]
  | causes => causes.zipIdx.map fun (cause, n) =>
    let number := toString n
    let margin := String.ofList (List.replicate (5 - number.length) ' ')
    indented (margin ++ number ++ ": ") "       " cause

def text (f : Failure) : String :=
  let causes := causeLines f.causes
  let lines := if causes.isEmpty then [] else "" :: "Caused by:" :: causes
  String.join (("Error: " ++ f.message) :: lines |>.map (· ++ "\n"))

end Failure

structure Outcome where
  code : Nat
  output : String := ""
  errors : String := ""
deriving DecidableEq, Repr

namespace Outcome

def succeeded (output : String) : Outcome := { code := 0, output }

def failed (output : String) (failure : Failure) : Outcome := { code := 1, output, errors := failure.text }

end Outcome

end ProcessDiagram.CommandLine
