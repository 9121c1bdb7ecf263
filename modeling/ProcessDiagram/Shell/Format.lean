import ProcessDiagram.Decimal.Rounded
import ProcessDiagram.Shell.Arithmetic
import ProcessDiagram.Shell.Quoting

/-! Text with escapes, and text with places to be filled. -/
namespace ProcessDiagram.Shell.Format

def octalDigit? (c : Char) : Option Nat := if '0' ≤ c ∧ c ≤ '7' then some (c.toNat - 48) else none

def letterEscape? : Char → Option Char
  | 'n' => some '\n'
  | 't' => some '\t'
  | 'r' => some '\r'
  | 'a' => some '\x07'
  | 'b' => some '\x08'
  | 'f' => some '\x0c'
  | 'v' => some '\x0b'
  | '\\' => some '\\'
  | _ => none

/-- The byte that octal digits stand for, at most so many of them, after a value read so far. -/
def octal (value : Nat) : Nat → List Char → Char × List Char
  | n + 1, c :: rest =>
    match octalDigit? c with
    | some d => octal (value * 8 + d) n rest
    | none => (Char.ofNat (value % 256), c :: rest)
  | _, cs => (Char.ofNat (value % 256), cs)

/-- What an escape stands for, and what follows it. A backslash before any other character stands for itself. -/
def escape (cs : List Char) : Char × List Char :=
  match cs with
  | [] => ('\\', [])
  | 'e' :: rest => ('\x1b', rest)
  | c :: rest =>
    match letterEscape? c with
    | some e => (e, rest)
    | none => if (octalDigit? c).isSome then octal 0 3 cs else ('\\', cs)

/-- The escapes of a text carried out, up to one that ends it. Octal digits may follow a zero. The number
bounds the characters. -/
def unescape : Nat → List Char → List Char × Bool
  | n + 1, '\\' :: cs =>
    match cs with
    | 'c' :: _ => ([], true)
    | _ =>
      let (c, rest) := escape (match cs with
        | '0' :: d :: rest => if (octalDigit? d).isSome then d :: rest else cs
        | _ => cs)
      let (text, ended) := unescape n rest
      (c :: text, ended)
  | n + 1, c :: cs =>
    let (text, ended) := unescape n cs
    (c :: text, ended)
  | _, _ => ([], false)

def unescaped (text : String) : List Char × Bool := unescape (text.length + 1) text.toList

def echo (words : List String) : String :=
  let (isOpen, words) := match words with
    | "-n" :: rest => (true, rest)
    | _ => (false, words)
  let (text, ended) := unescaped (" ".intercalate words)
  String.ofList (if isOpen ∨ ended then text else text ++ ['\n'])

structure Place where
  flags : List Char
  width : Nat
  precision : Option Nat
  kind : Char
  /-- A number with a point may have as many bits as the machine can hold. -/
  isLong : Bool := false

/-- Text brought to a width. -/
def Place.pad (p : Place) (text : List Char) : List Char :=
  let missing := p.width - text.length
  if '-' ∈ p.flags then text ++ List.replicate missing ' ' else List.replicate missing ' ' ++ text

def Place.padNumber (p : Place) (sign digits : List Char) : List Char :=
  let digits := List.replicate ((p.precision.getD 1) - digits.length) '0' ++ digits
  if '0' ∈ p.flags ∧ '-' ∉ p.flags ∧ p.precision.isNone then
    sign ++ List.replicate (p.width - sign.length - digits.length) '0' ++ digits
  else p.pad (sign ++ digits)

def Place.number (p : Place) (n : Int) : List Char :=
  let m := (n % Nat.pow 2 64).toNat
  let alternate (sign : String) : List Char := if '#' ∈ p.flags ∧ m ≠ 0 then sign.toList else []
  let digits (base : Nat) : List Char := if m = 0 then ['0'] else Nat.toDigits base m
  match p.kind with
  | 'o' => p.padNumber (alternate "0") (digits 8)
  | 'x' => p.padNumber (alternate "0x") (digits 16)
  | 'X' => p.padNumber (alternate "0X") ((digits 16).map Char.toUpper)
  | 'u' => p.padNumber [] (digits 10)
  | _ =>
    let sign := if n < 0 then ['-'] else if '+' ∈ p.flags then ['+'] else if ' ' ∈ p.flags then [' '] else []
    p.padNumber sign (toString n.natAbs).toList

def Place.real (p : Place) (isNegative : Bool) (value : Decimal.Reading) : List Char :=
  let sign := if isNegative then ['-'] else if '+' ∈ p.flags then ['+'] else if ' ' ∈ p.flags then [' '] else []
  let cased (cs : List Char) : List Char := if p.kind.isUpper then cs.map Char.toUpper else cs
  match value with
  | .infinite => p.pad (sign ++ cased "inf".toList)
  | .notANumber => p.pad (sign ++ cased "nan".toList)
  | .number x =>
    let keeps : Bool := '#' ∈ p.flags
    let precision := p.precision.getD 6
    let digits := match p.kind.toLower with
      | 'e' => x.scientific keeps precision
      | 'f' => x.fixed keeps precision
      | 'a' => x.inBaseSixteen keeps (if p.isLong then 4 else 1) p.precision
      | _ => x.general keeps precision
    let (sign, digits) := if p.kind.toLower = 'a' then (sign ++ cased "0x".toList, digits) else (sign, digits)
    if '0' ∈ p.flags ∧ '-' ∉ p.flags then
      sign ++ List.replicate (p.width - sign.length - digits.length) '0' ++ cased digits
    else p.pad (sign ++ cased digits)

/-- How formats are read and numbers complained of: by a shell, or by a program. -/
inductive Manner where
  | shell
  | program
deriving DecidableEq

/-- What is printed so far, the arguments that are left, and what is wrong with those that were taken. -/
structure Printing where
  manner : Manner
  arguments : List String
  text : List Char := []
  /-- Each with how much was printed before it. -/
  complaints : List (Nat × String) := []
  ended : Bool := false
  /-- The format itself is wrong. -/
  refused : Bool := false

/-- Steps of printing. -/
abbrev Print := StateM Printing

namespace Print

def put (cs : List Char) : Print Unit := modify fun p => { p with text := p.text ++ cs }

def take? : Print (Option String) := do
  let p ← get
  set { p with arguments := p.arguments.tail }
  return p.arguments.head?

def complain (text : String) : Print Unit := modify fun p => { p with complaints := p.complaints ++ [(p.text.length, text)] }

def refuse (text : String) : Print Unit := do
  complain text
  modify fun p => { p with ended := true, refused := true }

def checkRest (word : String) (isWhole : Bool) (rest : List Char) : Print Unit := do
  match (← get).manner with
  | .shell =>
    if !rest.isEmpty then
      complain (word ++ (if isWhole then ": expected numeric value" else ": not completely converted"))
  | .program =>
    if !rest.isEmpty then
      complain (Quoting.word word ++
        (if isWhole then ": expected a numeric value" else ": value not completely converted"))

def quotedCode? (word : String) : Print (Option Nat) := do
  match word.toList with
  | q :: c :: rest =>
    if q ≠ '"' ∧ q ≠ '\'' then return none
    if (← get).manner = .program ∧ !rest.isEmpty then
      complain ("warning: " ++ Quoting.name (String.ofList rest) ++
        ": character(s) following character constant have been ignored")
    return some c.toNat
  | _ => return none

def wholeNumber (least most : Int) (word : String) : Print Int := do
  match ← quotedCode? word with
  | some n => return n
  | none =>
    let (value, rest) := Arithmetic.intPrefix word.toList
    checkRest word (rest = word.toList) rest
    let nearest := if least = 0 ∧ value < 0 ∧ -most ≤ value then value else max least (min value most)
    if nearest ≠ value ∧ rest.isEmpty then
      complain ((if (← get).manner = .program then Quoting.word word else word) ++ ": Numerical result out of range")
    return nearest

def takeNumber (isSigned : Bool) : Print Int := do
  let some word ← take? | return 0
  if word = "" ∧ (← get).manner = .shell then return 0
  if isSigned then wholeNumber (-Nat.pow 2 63) (Nat.pow 2 63 - 1) word else wholeNumber 0 (Nat.pow 2 64 - 1) word

def takeReal : Print (Bool × Decimal.Reading) := do
  let zero : Decimal.Reading := .number ⟨0, 1⟩
  let some word ← take? | return (false, zero)
  if word = "" ∧ (← get).manner = .shell then return (false, zero)
  match ← quotedCode? word with
  | some n => return (false, .number ⟨n, 1⟩)
  | none =>
    let cs := word.toList.dropWhile Arithmetic.isBlank
    let (isNegative, cs) := match cs with
      | '-' :: rest => (true, rest)
      | '+' :: rest => (false, rest)
      | _ => (false, cs)
    let found : Option (Decimal.Reading × List Char) := match cs with
      | '0' :: x :: d :: rest =>
        if (x = 'x' ∨ x = 'X') ∧ (Arithmetic.digit? d).any (· < 16) then
          let (n, rest) := Arithmetic.natFrom 16 0 (d :: rest)
          some (.number ⟨n, 1⟩, rest)
        else Decimal.readNumber? cs
      | _ => Decimal.readNumber? cs
    match found with
    | none =>
      checkRest word true word.toList
      return (false, zero)
    | some (value, rest) =>
      checkRest word false rest
      let (bits, least) : Nat × Int := if (← get).manner = Manner.shell then (53, -1074) else (64, -16445)
      return (isNegative, match value with
        | .number x => .number (x.inBinary bits least)
        | other => other)

/-- A width or precision: a number in the format, or a star for an argument. -/
def size (cs : List Char) : Print (Option Int × List Char) := do
  match cs with
  | '*' :: rest => return (some (← takeNumber true), rest)
  | _ =>
    let digits := cs.takeWhile Char.isDigit
    return (String.toNat? (String.ofList digits) |>.map Int.ofNat, cs.drop digits.length)

def fill (cs : List Char) : Print (List Char) := do
  let isProgram := (← get).manner = .program
  let flags := cs.takeWhile (· ∈ if isProgram then ['#', '-', '+', ' ', '0', '\'', 'I'] else ['#', '-', '+', ' ', '0'])
  let (width, rest) ← size (cs.drop flags.length)
  let flags := if width.any (· < 0) then '-' :: flags else flags
  let (precision, rest) ← match rest with
    | '.' :: rest => do
      let (precision, rest) ← size rest
      let n := precision.getD 0
      pure (if n < 0 then none else some n.toNat, rest)
    | _ => pure (none, rest)
  let rest := if isProgram then rest.dropWhile (· ∈ ['h', 'l', 'L', 'q', 'j', 'z', 't']) else rest
  match rest with
  | [] =>
    refuse (if isProgram then "%" ++ String.ofList cs ++ ": invalid conversion specification"
      else "missing format character")
    return []
  | kind :: rest =>
    let place : Place := ⟨flags, (width.getD 0).natAbs, precision, kind, isProgram⟩
    let cut (cs : List Char) : List Char := (precision.map fun n => cs.take n).getD cs
    if kind = 's' then put (place.pad (cut ((← take?).getD "").toList))
    else if kind = 'c' then
      let word := (← take?).getD ""
      put (place.pad (if word = "" ∧ !isProgram then ['\x00'] else word.toList.take 1))
    else if kind = 'b' then
      let (text, ended) := unescaped ((← take?).getD "")
      put (place.pad (cut text))
      modify fun p => { p with ended }
    else if kind = 'q' ∧ isProgram then put (Quoting.name ((← take?).getD "")).toList
    else if kind ∈ ['d', 'i'] then put (place.number (← takeNumber true))
    else if kind ∈ ['o', 'u', 'x', 'X'] then put (place.number (← takeNumber false))
    else if kind ∈ ['a', 'A', 'e', 'E', 'f', 'F', 'g', 'G'] then
      let (isNegative, value) ← takeReal
      put (place.real isNegative value)
    else
      let spec := "%" ++ String.ofList (cs.take (cs.length - rest.length))
      refuse (spec ++ (if isProgram then ": invalid conversion specification" else ": invalid directive"))
    return rest

def escapeOf (manner : Manner) (cs : List Char) : List Char × List Char × Bool :=
  match manner, cs with
  | .program, 'c' :: rest => ([], rest, true)
  | .program, 'e' :: rest => (['\x1b'], rest, false)
  | .program, '"' :: rest => (['"'], rest, false)
  | .program, 'x' :: rest =>
    let digits := (rest.take 2).takeWhile fun c => (Arithmetic.digit? c).any (· < 16)
    if digits.isEmpty then (['\\', 'x'], rest, false)
    else ([Char.ofNat (Arithmetic.natFrom 16 0 digits).1], rest.drop digits.length, false)
  | .program, 'u' :: rest => (ofCode 4 rest, rest.drop 4, false)
  | .program, 'U' :: rest => (ofCode 8 rest, rest.drop 8, false)
  | _, _ =>
    let (c, rest) := escape cs
    ([c], rest, false)
where
  /-- A character by the digits of its number; one that is not of ASCII is shown by its number. -/
  ofCode (count : Nat) (cs : List Char) : List Char :=
    let digits := cs.take count
    let n := (Arithmetic.natFrom 16 0 digits).1
    let shown := (Nat.toDigits 16 n).map Char.toUpper
    if n < 128 then [Char.ofNat n]
    else if n < 65536 then ['\\', 'u'] ++ List.replicate (4 - shown.length) '0' ++ shown
    else ['\\', 'U'] ++ List.replicate (8 - shown.length) '0' ++ shown

/-- Prints a format once; the number bounds its characters. -/
def pass : Nat → List Char → Print Unit
  | n + 1, '\\' :: cs => do
    let (text, rest, ended) := escapeOf (← get).manner cs
    put text
    if ended then modify fun p => { p with ended }
    else pass n rest
  | n + 1, '%' :: '%' :: cs => do
    put ['%']
    pass n cs
  | n + 1, '%' :: cs => do
    let rest ← fill cs
    if !(← get).ended then pass n rest
  | n + 1, c :: cs => do
    put [c]
    pass n cs
  | _, _ => return ()

def passes (format : List Char) : Nat → Print Unit
  | 0 => return ()
  | n + 1 => do
    let before := (← get).arguments.length
    pass (format.length + 1) format
    let p ← get
    if !p.ended ∧ 0 < p.arguments.length ∧ p.arguments.length < before then passes format n

end Print

def printf (manner : Manner) (format : String) (arguments : List String) : Printing :=
  ((Print.passes format.toList (arguments.length + 1)).run { manner, arguments }).2

end ProcessDiagram.Shell.Format
