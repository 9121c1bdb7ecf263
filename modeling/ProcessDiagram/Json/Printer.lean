import ProcessDiagram.Json.Value

/-! JSON text: numbers, escaped strings, and the compact and the indented layout of a value. -/
namespace ProcessDiagram.Json

/-- Positional notation while the leading digit has an exponent from `least` to `most`, and always
with a digit after the point; otherwise an exponent with its sign. JSON has no other numbers. -/
def floatText (least most : Int) : Decimal.Magnitude → String
  | .notANumber => "null"
  | .infinite _ => "null"
  | .finite negative x =>
    let d := x.shortest .toEven
    let sign := if negative then ['-'] else []
    if least ≤ d.leading ∧ d.leading ≤ most then
      let (whole, fraction) := d.parts
      String.ofList (sign ++ whole ++ '.' :: (if fraction.isEmpty then ['0'] else fraction))
    else
      let mantissa := match d.text with
        | first :: c :: rest => first :: '.' :: c :: rest
        | digits => digits
      let mark := if d.leading < 0 then ['e', '-'] else ['e', '+']
      String.ofList (sign ++ mantissa ++ mark ++ (toString d.leading.natAbs).toList)

def Number.text : Number → String
  | .integer n => toString n
  | .double x => floatText (-5) 15 x.magnitude
  | .single x => floatText (-6) 12 x.magnitude

def hexDigit (n : Nat) : Char :=
  if n < 10 then Char.ofNat (48 + n) else Char.ofNat (87 + n)

/-- Quotes, backslashes and control characters are escaped, and nothing else. -/
def escapeChar (c : Char) : List Char :=
  if c = '"' then ['\\', '"']
  else if c = '\\' then ['\\', '\\']
  else if c = '\x08' then ['\\', 'b']
  else if c = '\t' then ['\\', 't']
  else if c = '\n' then ['\\', 'n']
  else if c = '\x0c' then ['\\', 'f']
  else if c = '\r' then ['\\', 'r']
  else if c.toNat < 32 then ['\\', 'u', '0', '0', hexDigit (c.toNat / 16), hexDigit (c.toNat % 16)]
  else [c]

def quoted (s : String) : String :=
  String.ofList ('"' :: s.toList.flatMap escapeChar ++ ['"'])

mutual

def compact : Json → String
  | .null => "null"
  | .bool b => if b then "true" else "false"
  | .number n => n.text
  | .string s => quoted s
  | .array items => "[" ++ ",".intercalate (compactItems items) ++ "]"
  | .object fields => "\x7b" ++ ",".intercalate (compactFields fields) ++ "\x7d"

def compactItems : List Json → List String
  | [] => []
  | v :: rest => v.compact :: compactItems rest

def compactFields : List (String × Json) → List String
  | [] => []
  | (key, v) :: rest => (quoted key ++ ":" ++ v.compact) :: compactFields rest

end

def lineBreak (level : Nat) : String :=
  String.ofList ('\n' :: List.replicate (2 * level) ' ')

/-- One entry a line between the brackets; nothing between them when there is no entry. -/
def block (opening closing : String) (level : Nat) (entries : List String) : String :=
  if entries.isEmpty then opening ++ closing
  else opening ++ lineBreak (level + 1) ++ ("," ++ lineBreak (level + 1)).intercalate entries ++
    lineBreak level ++ closing

mutual

def indented (level : Nat) : Json → String
  | .null => "null"
  | .bool b => if b then "true" else "false"
  | .number n => n.text
  | .string s => quoted s
  | .array items => block "[" "]" level (indentedItems (level + 1) items)
  | .object fields => block "\x7b" "\x7d" level (indentedFields (level + 1) fields)

def indentedItems (level : Nat) : List Json → List String
  | [] => []
  | v :: rest => v.indented level :: indentedItems level rest

def indentedFields (level : Nat) : List (String × Json) → List String
  | [] => []
  | (key, v) :: rest => (quoted key ++ ": " ++ v.indented level) :: indentedFields level rest

end

def pretty (v : Json) : String := v.indented 0

end ProcessDiagram.Json
