import ProcessDiagram.Process.Element

/-! What can be wrong with a process description. -/
namespace ProcessDiagram

/-- The first three concern the whole document, the others one element of the flow. -/
inductive DescriptionError where
  | invalidJson (reason : String)
  | notAnObject
  | flowNotAList
  | elementNotAnObject
  | missingType
  | unrecognizedKind (text : String)
  | missingField (kind : ElementKind) (field : String)
  | invalidElement (kind : ElementKind) (reason : String)
deriving DecidableEq, Repr

namespace DescriptionError

def message : DescriptionError → String
  | .invalidJson reason => "JSON inválido: " ++ reason
  | .notAnObject => "La descripción del proceso debe ser un objeto JSON"
  | .flowNotAList => "La clave `flow` debe contener una lista"
  | .elementNotAnObject => "El elemento del flujo no es un objeto JSON"
  | .missingType => "Elemento sin campo `type`"
  | .unrecognizedKind text => "Tipo de elemento no reconocido: " ++ text
  | .missingField kind field => "Falta el campo obligatorio `" ++ field ++ "` en " ++ kind.name
  | .invalidElement kind reason => "Elemento " ++ kind.name ++ " inválido: " ++ reason

/-- An element without type leaves no gap in the flow: its neighbours are linked. -/
def isUntyped : DescriptionError → Bool
  | .missingType => true
  | _ => false

def compileMessage (e : DescriptionError) : String := "Error de descripción: " ++ e.message

end DescriptionError

end ProcessDiagram
