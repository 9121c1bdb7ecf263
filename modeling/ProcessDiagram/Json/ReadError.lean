/-! Why and where the reading of JSON text stops. -/
namespace ProcessDiagram.Json

inductive Complaint where
  | endInValue
  | endInList
  | endInObject
  | endInString
  | expectedValue
  | expectedWord
  | expectedColon
  | expectedListEnd
  | expectedObjectEnd
  | keyNotText
  | trailingComma
  | trailingCharacters
  | invalidNumber
  | numberOutOfRange
  | invalidEscape
  | loneSurrogate
  | endInSurrogates
  | controlCharacter
  | tooDeep
deriving DecidableEq, Repr

def Complaint.message : Complaint → String
  | .endInValue => "EOF while parsing a value"
  | .endInList => "EOF while parsing a list"
  | .endInObject => "EOF while parsing an object"
  | .endInString => "EOF while parsing a string"
  | .expectedValue => "expected value"
  | .expectedWord => "expected ident"
  | .expectedColon => "expected `:`"
  | .expectedListEnd => "expected `,` or `]`"
  | .expectedObjectEnd => "expected `,` or `\x7d`"
  | .keyNotText => "key must be a string"
  | .trailingComma => "trailing comma"
  | .trailingCharacters => "trailing characters"
  | .invalidNumber => "invalid number"
  | .numberOutOfRange => "number out of range"
  | .invalidEscape => "invalid escape"
  | .loneSurrogate => "lone leading surrogate in hex escape"
  | .endInSurrogates => "unexpected end of hex escape"
  | .controlCharacter => "control character (\\u0000-\\u001F) found while parsing a string"
  | .tooDeep => "recursion limit exceeded"

def byteCount (s : List Char) : Nat := s.foldl (fun n c => n + c.utf8Size) 0

/-- Reading stopped with `left` bytes of the text not accounted for. -/
structure Stop where
  complaint : Complaint
  left : Nat
deriving Repr

namespace Stop

def before (rest : List Char) (complaint : Complaint) : Stop := ⟨complaint, byteCount rest⟩

def on (rest : List Char) (complaint : Complaint) : Stop := ⟨complaint, byteCount rest - 1⟩

end Stop

structure Location where
  line : Nat
  column : Nat
deriving DecidableEq, Repr

def Location.after (here : Location) : List Char → Nat → Location
  | [], _ => here
  | c :: rest, n =>
    if n = 0 then here
    else if c = '\n' then Location.after ⟨here.line + 1, 0⟩ rest (n - 1)
    else Location.after ⟨here.line, here.column + min c.utf8Size n⟩ rest (n - c.utf8Size)

def Stop.message (text : List Char) (stop : Stop) : String :=
  let place := Location.after ⟨1, 0⟩ text (byteCount text - stop.left)
  stop.complaint.message ++ " at line " ++ toString place.line ++ " column " ++ toString place.column

end ProcessDiagram.Json
