import ProcessDiagram.Json.Reader
import ProcessDiagram.Process.Decoding

/-! A process description: its flow, entry by entry. -/
namespace ProcessDiagram

/-- An entry of a flow: the element read, or what is wrong with it. -/
abbrev Entry := Except DescriptionError FlowElement

/-- No flow at all differs from an empty one. -/
structure ProcessDescription where
  flow : Option (List Entry)

namespace ProcessDescription

def ofElements (elements : List FlowElement) : ProcessDescription := ⟨some (elements.map .ok)⟩

def withoutFlow : ProcessDescription := ⟨none⟩

/-- Fails only if the document is no object or its flow is no list; what is wrong with an element is
kept in its place. -/
def ofJson : Json → Except DescriptionError ProcessDescription
  | .object fields =>
    match Json.lookup fields "flow" with
    | none => .ok withoutFlow
    | some (.array items) => .ok ⟨some (items.map FlowElement.ofJson)⟩
    | some _ => .error .flowNotAList
  | _ => .error .notAnObject

def ofText (text : String) : Except DescriptionError ProcessDescription := do
  ofJson (← (Json.read text).mapError .invalidJson)

def hasFlow (p : ProcessDescription) : Bool := p.flow.isSome

def entries (p : ProcessDescription) : List Entry := p.flow.getD []

end ProcessDescription

def validEntries (entries : List Entry) : List (Nat × FlowElement) :=
  entries.zipIdx.filterMap fun
    | (.ok e, i) => some (i, e)
    | (.error _, _) => none

def failingEntries (entries : List Entry) : List (Nat × DescriptionError) :=
  entries.zipIdx.filterMap fun
    | (.ok _, _) => none
    | (.error e, i) => some (i, e)

end ProcessDiagram
