import ProcessDiagram.Decimal.Shortest

/-! JSON values. -/
namespace ProcessDiagram

namespace Json

/-- Integers are kept apart from floating-point numbers, also from those with an integral value. -/
inductive Number where
  | integer (value : Int)
  | double (value : Decimal.Double)
  | single (value : Decimal.Single)
deriving DecidableEq, Repr

def Number.isZero : Number → Bool
  | .integer n => n == 0
  | .double x => x.magnitude.isZero
  | .single x => x.magnitude.isZero

end Json

/-- A value; the fields of an object stand in a definite order. -/
inductive Json where
  | null
  | bool (value : Bool)
  | number (value : Json.Number)
  | string (value : String)
  | array (items : List Json)
  | object (fields : List (String × Json))
deriving Inhabited, Repr

namespace Json

def ofNat (n : Nat) : Json := .number (.integer n)

def ofOption (encode : α → Json) : Option α → Json
  | none => .null
  | some a => encode a

def lookup (fields : List (String × Json)) (key : String) : Option Json :=
  (fields.find? (·.1 = key)).map (·.2)

/-- Values that count as nothing: null, false, a zero, and empty text, list or object. -/
def isVacant : Json → Bool
  | .null => true
  | .bool b => !b
  | .number n => n.isZero
  | .string s => s.isEmpty
  | .array items => items.isEmpty
  | .object fields => fields.isEmpty

end Json

end ProcessDiagram
