/-! Words as messages show them. A character of a word stands for one byte, and only those of ASCII are shown as
they are. -/
namespace ProcessDiagram.Shell.Quoting

def isShown (c : Char) : Bool := ' ' ≤ c && c ≤ '~'

def escape (c : Char) : List Char :=
  match c with
  | '\n' => ['n']
  | '\t' => ['t']
  | '\r' => ['r']
  | '\x07' => ['a']
  | '\x08' => ['b']
  | '\x0c' => ['f']
  | '\x0b' => ['v']
  | _ => [64, 8, 1].map fun place => Nat.digitChar (c.toNat / place % 8)

def word (text : String) : String :=
  let shown (c : Char) : List Char :=
    if c = '\'' ∨ c = '\\' then ['\\', c] else if isShown c then [c] else '\\' :: escape c
  "'" ++ String.ofList (text.toList.flatMap shown) ++ "'"

def isHarmless (c : Char) : Bool := c.isAlphanum || "%+,-./:]_@".toList.contains c

def isPlain : List Char → Bool
  | [] => false
  | ['\x7b'] => false
  | ['\x7d'] => false
  | c :: cs =>
    (isHarmless c || c = '\x7b' || c = '\x7d') &&
      cs.all fun c => isHarmless c || "#~\x7b\x7d".toList.contains c

/-- What stands between the quotes of a name. Characters that are not shown as they are have quotes of their own,
which may be open. -/
def inQuotes (isOpen : Bool) : List Char → List Char
  | [] => []
  | c :: cs =>
    if isShown c then
      (if isOpen ∧ c ≠ '\'' then ['\'', '\''] else []) ++ (if c = '\'' then ['\'', '\\', '\'', '\''] else [c]) ++
        inQuotes false cs
    else (if isOpen then [] else ['\'', '$', '\'']) ++ '\\' :: escape c ++ inQuotes true cs

def path (text : String) : String :=
  let cs := text.toList
  if cs.contains '\'' ∧ cs.all fun c => isHarmless c || c = '\'' || c = ' ' then "\"" ++ text ++ "\""
  else "'" ++ String.ofList (inQuotes false cs) ++ "'"

def name (text : String) : String := if isPlain text.toList then text else path text

end ProcessDiagram.Shell.Quoting
