import ProcessDiagram.Files.FileTree
import ProcessDiagram.Shell.Arithmetic
import ProcessDiagram.Shell.Octets

/-! Conditions on words and files, as the command `test` takes them. -/
namespace ProcessDiagram.Shell.Condition

inductive Kind where
  | unary
  | binary
  | other
deriving DecidableEq

def unarySigns : List String :=
  ["-r", "-w", "-x", "-e", "-f", "-d", "-c", "-b", "-p", "-u", "-g", "-k", "-s", "-t", "-z", "-n", "-h", "-O", "-G",
    "-L", "-S"]

def binarySigns : List String :=
  ["=", "!=", "<", ">", "-eq", "-ne", "-ge", "-gt", "-le", "-lt", "-nt", "-ot", "-ef"]

def otherSigns : List String := ["!", "-a", "-o", "(", ")"]

def kind? (word : String) : Option Kind :=
  if word ∈ unarySigns then some .unary
  else if word ∈ binarySigns then some .binary
  else if word ∈ otherSigns then some .other
  else none

/-- What a condition may ask of the system. -/
structure Source where
  tree : FileTree
  /-- The entry that a path of a stream leads to. -/
  stream? : String → Option FileTree.Entry

/-- The entry that a path leads to. -/
def Source.entry? (s : Source) (path : String) : Option FileTree.Entry :=
  match s.stream? path with
  | some e => some e
  | none => (s.tree.resolve (toText path)).toOption.bind s.tree.entry?

def fileIs (s : Source) (sign path : String) : Bool :=
  match sign with
  | "-h" => isLink
  | "-L" => isLink
  | _ =>
    match s.entry? path with
    | none => false
    | some e =>
      match sign, e with
      | "-e", _ => true
      | "-r", _ => true
      | "-w", _ => true
      | "-O", _ => true
      | "-G", _ => true
      | "-f", .file _ _ => true
      | "-f", .program _ => true
      | "-d", .directory => true
      | "-c", .device _ => true
      | "-p", .link _ => true
      | "-s", .file bytes _ => !bytes.isEmpty
      | "-s", .program _ => true
      | "-s", .directory => true
      | "-x", .file _ executable => executable
      | "-x", .program _ => true
      | "-x", .directory => true
      | "-k", .directory => (s.tree.resolve (toText path)).toOption = some ["tmp"]
      | _, _ => false
where
  isLink : Bool :=
    match (s.tree.resolveLink (toText path)).toOption.bind s.tree.entry? with
    | some (.link _) => true
    | _ => path ∈ ["/dev/stdin", "/dev/stdout", "/dev/stderr"]

def number (word : String) : Except String Int :=
  let cs := word.toList.dropWhile Arithmetic.isBlank
  let (negative, digits) := match cs with
    | '-' :: rest => (true, rest)
    | '+' :: rest => (false, rest)
    | _ => (false, cs)
  let (n, rest) := Arithmetic.natFrom 10 0 digits
  let value := if negative then -Int.ofNat n else Int.ofNat n
  if digits.head?.any Char.isDigit ∧ rest.all Arithmetic.isBlank ∧ Arithmetic.isInRange value then .ok value
  else .error ("Illegal number: " ++ word)

def age? (s : Source) (path : String) : Option Nat := do
  let place ← (s.tree.resolve (toText path)).toOption
  return s.tree.entries.findIdx (·.1 = place)

def unary (s : Source) (sign word : String) : Except String Bool :=
  match sign with
  | "-n" => .ok (word ≠ "")
  | "-z" => .ok (word = "")
  | "-t" => (number word).map fun _ => false
  | _ => .ok (fileIs s sign word)

def binary (s : Source) (left sign right : String) : Except String Bool := do
  match sign with
  | "=" => return left = right
  | "!=" => return left ≠ right
  | "<" => return left.toList < right.toList
  | ">" => return right.toList < left.toList
  | "-nt" => return (age? s left).any fun a => (age? s right).any (· < a)
  | "-ot" => return (age? s left).any fun a => (age? s right).any (a < ·)
  | "-ef" =>
    let place (path : String) := (s.tree.resolve (toText path)).toOption
    return (place left).isSome ∧ place left = place right
  | _ =>
    let a ← number left
    let b ← number right
    match sign with
    | "-eq" => return a = b
    | "-ne" => return a ≠ b
    | "-gt" => return a > b
    | "-ge" => return a ≥ b
    | "-lt" => return a < b
    | _ => return a ≤ b

/-- A word with what it is taken for: a sign that could have an operand but has none is a word. -/
inductive Token where
  | nothing
  | word
  | sign (text : String) (kind : Kind)
deriving DecidableEq

def token (words : List String) : Token :=
  match words with
  | [] => .nothing
  | word :: rest =>
    match kind? word with
    | none => .word
    | some kind =>
      let isWord : Bool :=
        match kind, rest with
        | .unary, [] => true
        | .unary, [_] => false
        | .unary, next :: _ => kind? next = some .binary
        | .other, [] => word = "("
        | _, _ => false
      if isWord then .word else .sign word kind

/-- A condition read: whether it holds, and the words from its last one on. -/
abbrev Reading := Except String (Bool × List String)

section

variable (s : Source)

mutual

def either : Nat → Token → List String → Reading
  | 0, _, words => .ok (false, words)
  | n + 1, t, words => do
    let (first, words) ← both n t words
    if token (words.drop 1) = .sign "-o" .other then
      let words := words.drop 2
      let (second, words) ← either n (token words) words
      return (first || second, words)
    return (first, words)

def both : Nat → Token → List String → Reading
  | 0, _, words => .ok (false, words)
  | n + 1, t, words => do
    let (first, words) ← negated n t words
    if token (words.drop 1) = .sign "-a" .other then
      let words := words.drop 2
      let (second, words) ← both n (token words) words
      return (first && second, words)
    return (first, words)

def negated : Nat → Token → List String → Reading
  | 0, _, words => .ok (false, words)
  | n + 1, t, words => do
    if t = .sign "!" .other then
      let next := token (words.drop 1)
      let (holds, words) ← negated n next (if next = .nothing then words else words.drop 1)
      return (!holds, words)
    else single n t words

def single : Nat → Token → List String → Reading
  | 0, _, words => .ok (false, words)
  | n + 1, t, words => do
    match t, words with
    | .nothing, _ => return (false, words)
    | .sign "(" .other, _ =>
      let inside := words.drop 1
      if token inside = .sign ")" .other then return (false, inside)
      let (holds, rest) ← either n (token inside) inside
      let rest := rest.drop 1
      if token rest ≠ .sign ")" .other then .error "closing paren expected"
      return (holds, rest)
    | .sign sign .unary, _ =>
      match words.drop 1 with
      | word :: rest => return (← unary s sign word, word :: rest)
      | [] => .error (sign ++ ": argument expected")
    | _, left :: sign :: rest =>
      match token (sign :: rest) with
      | .sign _ .binary =>
        match rest with
        | right :: rest => return (← binary s left sign right, right :: rest)
        | [] => .error (sign ++ ": argument expected")
      | _ => return (left ≠ "", words)
    | _, _ => return (words.headD "" ≠ "", words)

end

/-- Whether a condition holds; without words none does. -/
def holds (words : List String) : Except String Bool := do
  match words with
  | [] => return false
  | ["!", b, c, d] => return !(← three [b, c, d])
  | [_, _, _] => three words
  | ["(", b, c, ")"] => general [b, c]
  | _ => general words
where
  general (words : List String) : Except String Bool := do
    finish (← either s (4 * words.length + 8) (token words) words)
  finish (r : Bool × List String) : Except String Bool :=
    match r.2 with
    | word :: _ :: _ => .error (if word = "" then "unexpected operator" else word ++ ": unexpected operator")
    | _ => .ok r.1
  three (words : List String) : Except String Bool := do
    match words with
    | [a, b, c] =>
      if kind? b = some .binary then finish (← either s 20 .word words)
      else if a = "(" ∧ c = ")" then general [b]
      else if a = "!" then return !(← general [b, c])
      else general words
    | _ => general words

end

end ProcessDiagram.Shell.Condition
