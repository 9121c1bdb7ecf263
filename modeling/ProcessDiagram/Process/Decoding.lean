import ProcessDiagram.Process.Error
import ProcessDiagram.Text.Display

/-! Process elements read from JSON values: records from objects or lists, and elements by their tag. -/
namespace ProcessDiagram

inductive DecodeError where
  | wrongType (found : Json) (expected : String)
  | missingField (field : String)
  | duplicateField (field : String)
  | unknownVariant (text : String) (known : List String)
  | notASingleKey
  | tooFewItems (record : String) (size : Nat)
  /-- More items than the record has fields; `taken` is told only for the list of a tagged element. -/
  | tooManyItems (length : Nat) (taken : Option Nat)
  | nameNotScalar (found : Json)
deriving Repr

namespace DecodeError

def describe : Json → String
  | .null => "null"
  | .bool b => "boolean `" ++ (if b then "true" else "false") ++ "`"
  | .number (.integer n) => "integer `" ++ toString n ++ "`"
  | .number n => "floating point `" ++ n.text ++ "`"
  | .string s => "string " ++ Text.display s
  | .array _ => "sequence"
  | .object _ => "map"

private def ticked (s : String) : String := "`" ++ s ++ "`"

def message : DecodeError → String
  | .wrongType found expected => "invalid type: " ++ describe found ++ ", expected " ++ expected
  | .missingField field => "missing field " ++ ticked field
  | .duplicateField field => "duplicate field " ++ ticked field
  | .unknownVariant text known =>
    "unknown variant " ++ ticked text ++ ", expected " ++
      match known with
      | [a, b] => ticked a ++ " or " ++ ticked b
      | _ => "one of " ++ ", ".intercalate (known.map ticked)
  | .notASingleKey => "invalid value: map, expected map with a single key"
  | .tooFewItems record size =>
    "invalid length 0, expected " ++ record ++ " with " ++ toString size ++ " elements"
  | .tooManyItems length taken =>
    "invalid length " ++ toString length ++ ", expected " ++
      match taken with
      | none => "fewer elements in array"
      | some n => toString n ++ " elements in sequence"
  | .nameNotScalar found => "nombre no escalar: " ++ found.compact

end DecodeError

/-- Whether a record is read from a value as it stands or under the tag of an element. -/
inductive Route where
  | direct
  | tagged
deriving DecidableEq

namespace Decode

abbrev Result (α : Type) := Except DecodeError α

def text : Json → Result String
  | .string s => .ok s
  | v => .error (.wrongType v "a string")

/-- Null is absent text. -/
def optionalText : Json → Result (Option String)
  | .null => .ok none
  | .string s => .ok (some s)
  | v => .error (.wrongType v "a string")

def listOf (item : Json → Result α) : Json → Result (List α)
  | .array items => items.mapM item
  | v => .error (.wrongType v "a sequence")

/-- Any scalar but null is a name; numbers and truth values give their JSON text. -/
def scalarName : Json → Result String
  | .string s => .ok s
  | .number n => .ok (Json.number n).compact
  | .bool b => .ok (Json.bool b).compact
  | v => .error (.nameNotScalar v)

/-- A field is filled once; the second value is refused before it is looked at. -/
def fill (field : String) (slot : Option α) (value : Result α) : Result (Option α) :=
  match slot with
  | some _ => .error (.duplicateField field)
  | none => value.map some

/-- How a record is read: its fields one at a time into a draft, then the draft as a whole, which
lacks nothing but the name, if anything. -/
structure RecordFormat (δ ρ : Type) where
  title : String
  fields : List String
  blank : δ
  accept : δ → String → Json → Result δ
  finish : δ → Option ρ

namespace RecordFormat

def acceptAll (f : RecordFormat δ ρ) (pairs : List (String × Json)) : Result δ :=
  pairs.foldlM (fun draft (key, v) => f.accept draft key v) f.blank

def ofFields (f : RecordFormat δ ρ) (pairs : List (String × Json)) : Result ρ := do
  let draft ← f.acceptAll pairs
  match f.finish draft with
  | some r => .ok r
  | none => .error (.missingField "name")

/-- The items stand for the fields in their order; fields without item are left out. -/
def ofItems (f : RecordFormat δ ρ) (route : Route) (items : List Json) : Result ρ := do
  let draft ← f.acceptAll (f.fields.zip items)
  match f.finish draft with
  | none => .error (.tooFewItems f.title f.fields.length)
  | some r =>
    if items.length ≤ f.fields.length then .ok r
    else .error (.tooManyItems items.length
      (match route with | .direct => none | .tagged => some f.fields.length))

def decode (f : RecordFormat δ ρ) (route : Route) : Json → Result ρ
  | .object pairs => f.ofFields pairs
  | .array items => f.ofItems route items
  | v => .error (.wrongType v f.title)

end RecordFormat

/-- Fields read so far of an event or a task: a name and an optional text. -/
structure TextDraft where
  name : Option String := none
  text : Option (Option String) := none

def event : RecordFormat TextDraft Event where
  title := "struct Event"
  fields := ["name", "condicion"]
  blank := {}
  accept draft key v :=
    match key with
    | "name" => do return { draft with name := ← fill "name" draft.name (scalarName v) }
    | "condicion" | "condición" | "condition" => do
      return { draft with text := ← fill "condicion" draft.text (optionalText v) }
    | _ => .ok draft
  finish draft := draft.name.map fun name => { name, condition := draft.text.getD none }

def task : RecordFormat TextDraft Task where
  title := "struct Task"
  fields := ["name", "description"]
  blank := {}
  accept draft key v :=
    match key with
    | "name" => do return { draft with name := ← fill "name" draft.name (scalarName v) }
    | "description" => do return { draft with text := ← fill "description" draft.text (optionalText v) }
    | _ => .ok draft
  finish draft := draft.name.map fun name => { name, description := draft.text.getD none }

/-- Every value refers to a task. -/
def taskRef : Json → TaskRef
  | .string s => .name s
  | v =>
    match task.decode .direct v with
    | .ok t => .detailed t
    | .error _ => .other v

def taskRefs : Json → Result (List TaskRef) := listOf fun v => .ok (taskRef v)

structure BodyDraft (α : Type) where
  name : Option α := none
  condition : Option (Option String) := none
  tasks : Option (List TaskRef) := none

def acceptBody (name : Json → Result α) (draft : BodyDraft α) (key : String) (v : Json) :
    Result (BodyDraft α) :=
  match key with
  | "name" => do return { draft with name := ← fill "name" draft.name (name v) }
  | "condición" | "condicion" | "condition" => do
    return { draft with condition := ← fill "condición" draft.condition (optionalText v) }
  | "tareas" | "tasks" => do
    return { draft with tasks := ← fill "tareas" draft.tasks (taskRefs v) }
  | _ => .ok draft

def branch : RecordFormat (BodyDraft (Option String)) Branch where
  title := "struct Branch"
  fields := ["name", "condición", "tareas"]
  blank := {}
  accept := acceptBody optionalText
  finish draft := some {
    name := draft.name.getD none
    condition := draft.condition.getD none
    tasks := draft.tasks.getD [] }

def loop : RecordFormat (BodyDraft String) Loop where
  title := "struct Loop"
  fields := ["name", "condición", "tareas"]
  blank := {}
  accept := acceptBody scalarName
  finish draft := draft.name.map fun name => {
    name
    condition := draft.condition.getD none
    tasks := draft.tasks.getD [] }

structure GatewayDraft where
  name : Option String := none
  typeText : Option String := none
  branches : Option (List Branch) := none

def gateway (route : Route) : RecordFormat GatewayDraft Gateway where
  title := "struct Gateway"
  fields := ["name", "type_pasarela", "ramas"]
  blank := {}
  accept draft key v :=
    match key with
    | "name" => do return { draft with name := ← fill "name" draft.name (scalarName v) }
    | "type_pasarela" | "gateway_type" => do
      return { draft with typeText := ← fill "type_pasarela" draft.typeText (text v) }
    | "ramas" | "branches" => do
      return { draft with branches := ← fill "ramas" draft.branches (listOf (branch.decode route) v) }
    | _ => .ok draft
  finish draft := draft.name.map fun name => {
    name
    typeText := draft.typeText.getD "XOR"
    branches := draft.branches.getD [] }

def element (route : Route) (kind : ElementKind) (v : Json) : Result FlowElement :=
  match kind with
  | .event => .event <$> event.decode route v
  | .task => .task <$> task.decode route v
  | .gateway => .gateway <$> (gateway route).decode route v
  | .loop => .loop <$> loop.decode route v

def elementTags : List String :=
  ["event", "evento", "tarea", "task", "gateway", "pasarela", "bucle", "loop"]

def tag : Json → Result ElementKind
  | .string s =>
    match ElementKind.ofWord? s with
    | some kind => .ok kind
    | none => .error (.unknownVariant s elementTags)
  | v => .error (.wrongType v "variant identifier")

/-- An element by its exact tag, which is taken out: under `type` in an object, or first in a list. -/
def tagged : Json → Result FlowElement
  | .object pairs => do
    match Json.lookup pairs "type" with
    | none => .error (.missingField "type")
    | some t => element .tagged (← tag t) (.object (pairs.filter (·.1 ≠ "type")))
  | .array [] => .error (.missingField "type")
  | .array (t :: items) => do element .tagged (← tag t) (.array items)
  | v => .error (.wrongType v "internally tagged enum FlowElement")

/-- A word of an enumeration: as text, or as the only key of an object, over null. -/
def variant (words : List (String × α)) : Json → Result α
  | .string s => word s
  | .object [(key, v)] => do
    let a ← word key
    match v with
    | .null => .ok a
    | _ => .error (.wrongType v "unit")
  | .object _ => .error .notASingleKey
  | v => .error (.wrongType v "string or map")
where
  word (s : String) : Result α :=
    match words.lookup s with
    | some a => .ok a
    | none => .error (.unknownVariant s (words.map (·.1)))

def elementKind : Json → Result ElementKind :=
  variant ([.event, .task, .gateway, .loop].map fun (k : ElementKind) => (k.name, k))

def gatewayKind : Json → Result GatewayKind :=
  variant ([.xor, .and].map fun (k : GatewayKind) => (k.name, k))

end Decode

/-- The kind that a value under `type` names, in any letter case. -/
def ElementKind.ofJson (v : Json) : Except DescriptionError ElementKind :=
  if v.isVacant then .error .missingType
  else match v with
    | .string s =>
      match ofText? s with
      | some kind => .ok kind
      | none => .error (.unrecognizedKind s)
    | _ => .error (.unrecognizedKind v.compact)

/-- Reads one element of a flow and tells a missing or unknown type, a missing field and a field of
the wrong type apart. -/
def FlowElement.ofJson (v : Json) : Except DescriptionError FlowElement := do
  let .object pairs := v | .error .elementNotAnObject
  let some t := Json.lookup pairs "type" | .error .missingType
  let kind ← ElementKind.ofJson t
  match kind.requiredFields.find? (fun field => (Json.lookup pairs field).isNone) with
  | some field => .error (.missingField kind field)
  | none => (Decode.element .direct kind v).mapError fun e => .invalidElement kind e.message

end ProcessDiagram
