import ProcessDiagram.Process.Element

/-! Process elements written as JSON values: fields in order of declaration, absent texts left out. -/
namespace ProcessDiagram

def optionalField (key : String) (value : Option String) : List (String × Json) :=
  value.toList.map fun s => (key, .string s)

def Event.fields (e : Event) : List (String × Json) :=
  ("name", .string e.name) :: optionalField "condicion" e.condition

def Task.fields (t : Task) : List (String × Json) :=
  ("name", .string t.name) :: optionalField "description" t.description

/-- A reference is written as what it holds, without a tag. -/
def TaskRef.toJson : TaskRef → Json
  | .name s => .string s
  | .detailed t => .object t.fields
  | .other v => v

private def bodyFields (condition : Option String) (tasks : List TaskRef) : List (String × Json) :=
  optionalField "condición" condition ++ [("tareas", .array (tasks.map TaskRef.toJson))]

def Branch.fields (b : Branch) : List (String × Json) :=
  optionalField "name" b.name ++ bodyFields b.condition b.tasks

def Gateway.fields (g : Gateway) : List (String × Json) :=
  [("name", .string g.name),
   ("type_pasarela", .string g.typeText),
   ("ramas", .array (g.branches.map fun b => .object b.fields))]

def Loop.fields (l : Loop) : List (String × Json) :=
  ("name", .string l.name) :: bodyFields l.condition l.tasks

def FlowElement.fields : FlowElement → List (String × Json)
  | .event e => e.fields
  | .task t => t.fields
  | .gateway g => g.fields
  | .loop l => l.fields

/-- The kind stands first, under `type`. -/
def FlowElement.toJson (e : FlowElement) : Json :=
  .object (("type", .string e.kind.name) :: e.fields)

end ProcessDiagram
