/-! Arithmetic of a shell: whole numbers of 64 bits. An expression is worked out while it is read. -/
namespace ProcessDiagram.Shell.Arithmetic

/-! ### Numbers -/

def digit? (c : Char) : Option Nat :=
  if c.isDigit then some (c.toNat - 48)
  else if 'a' ≤ c ∧ c ≤ 'z' then some (c.toNat - 87)
  else if 'A' ≤ c ∧ c ≤ 'Z' then some (c.toNat - 55)
  else none

def natFrom (base : Nat) (value : Nat) : List Char → Nat × List Char
  | c :: rest =>
    match (digit? c).filter (· < base) with
    | some d => natFrom base (value * base + d) rest
    | none => (value, c :: rest)
  | [] => (value, [])

/-- The number at the start of a text: hexadecimal after `0x`, octal after `0`, decimal otherwise. -/
def natPrefix (cs : List Char) : Nat × List Char :=
  match cs with
  | '0' :: x :: d :: rest =>
    if (x = 'x' ∨ x = 'X') ∧ ((digit? d).any (· < 16)) then natFrom 16 0 (d :: rest) else natFrom 8 0 cs
  | '0' :: _ => natFrom 8 0 cs
  | _ => natFrom 10 0 cs

def isBlank (c : Char) : Bool := c = ' ' || ('\t' ≤ c && c ≤ '\r')

/-- The number at the start of a text with its sign, after blanks, and what follows it; a text without number
follows whole. -/
def intPrefix (cs : List Char) : Int × List Char :=
  let signed := cs.dropWhile isBlank
  let (negative, digits) := match signed with
    | '-' :: rest => (true, rest)
    | '+' :: rest => (false, rest)
    | _ => (false, signed)
  if digits.head?.any Char.isDigit then
    let (n, rest) := natPrefix digits
    (if negative then -Int.ofNat n else Int.ofNat n, rest)
  else (0, cs)

def largest : Int := Nat.pow 2 63 - 1

def isInRange (n : Int) : Bool := -largest - 1 ≤ n && n ≤ largest

/-- A number with blanks around it; one without digits is zero. -/
def int? (cs : List Char) : Option Int :=
  let (n, rest) := intPrefix cs
  if rest.all isBlank ∧ isInRange n then some n else none

def wrap (n : Int) : Int := n.bmod (Nat.pow 2 64)

def ofBool (b : Bool) : Int := if b then 1 else 0

/-! ### Tokens -/

inductive Token where
  | number (n : Int)
  | name (text : String)
  | sign (text : String)
deriving DecidableEq

def signs : List String :=
  ["<<=", ">>=", "&&", "||", "==", "!=", "<=", ">=", "<<", ">>", "+=", "-=", "*=", "/=", "%=", "&=", "^=", "|=",
    "+", "-", "*", "/", "%", "<", ">", "=", "!", "~", "&", "|", "^", "?", ":", "(", ")"]

/-- The tokens of a text, at most so many. A character that starts no token is a sign, and the last one. -/
def tokens : Nat → List Char → List Token
  | _, [] => []
  | 0, _ => []
  | n + 1, c :: rest =>
    let isWord (c : Char) : Bool := c.isAlphanum || c = '_'
    if c = ' ' ∨ c = '\t' ∨ c = '\n' then tokens n rest
    else if c.isDigit then
      let (value, rest) := natPrefix (c :: rest)
      .number (min value largest) :: tokens n rest
    else if isWord c then
      let word := (c :: rest).takeWhile isWord
      .name (String.ofList word) :: tokens n ((c :: rest).drop word.length)
    else
      match signs.find? (·.toList.isPrefixOf (c :: rest)) with
      | some sign => .sign sign :: tokens n ((c :: rest).drop sign.length)
      | none => [.sign (String.singleton c)]

/-! ### Values -/

inductive Fault where
  | expecting (what : String)
  | divisionByZero
  | illegalNumber (text : String)
  | readOnly (name : String)

structure Reading where
  rest : List Token
  changes : List (String × Int) := []

/-- What an expression may use: variables, some of which are read only. -/
structure Store where
  value? : String → Option String
  isReadOnly : String → Bool

abbrev Calculation := StateT Reading (Except Fault)

def levels : List (List String) :=
  [["|"], ["^"], ["&"], ["==", "!="], ["<", ">", "<=", ">="], ["<<", ">>"], ["+", "-"], ["*", "/", "%"]]

def assignments : List String := ["=", "+=", "-=", "*=", "/=", "%=", "<<=", ">>=", "&=", "^=", "|="]

def combine (sign : String) (a b : Int) : Except Fault Int :=
  let bits (f : Nat → Nat → Nat) : Int := wrap (f (a % Nat.pow 2 64).toNat (b % Nat.pow 2 64).toNat)
  match sign with
  | "+" => .ok (wrap (a + b))
  | "-" => .ok (wrap (a - b))
  | "*" => .ok (wrap (a * b))
  | "/" => if b = 0 then .error .divisionByZero else .ok (wrap (a.tdiv b))
  | "%" => if b = 0 then .error .divisionByZero else .ok (a.tmod b)
  | "<<" => .ok (wrap (a * Nat.pow 2 (b % 64).toNat))
  | ">>" => .ok (a.fdiv (Nat.pow 2 (b % 64).toNat))
  | "&" => .ok (bits Nat.land)
  | "|" => .ok (bits Nat.lor)
  | "^" => .ok (bits Nat.xor)
  | "==" => .ok (ofBool (a = b))
  | "!=" => .ok (ofBool (a ≠ b))
  | "<" => .ok (ofBool (a < b))
  | ">" => .ok (ofBool (a > b))
  | "<=" => .ok (ofBool (a ≤ b))
  | ">=" => .ok (ofBool (a ≥ b))
  | _ => .ok b

def fail (f : Fault) : Calculation α := throw f

def peek : Calculation (Option Token) := do return (← get).rest.head?

def drop : Calculation Unit := modify fun r => { r with rest := r.rest.tail }

def takeSign (sign : String) : Calculation Bool := do
  if (← peek) = some (.sign sign) then
    drop
    return true
  return false

section

variable (store : Store)

/-- The value of a variable; one that is not set counts as zero. -/
def lookUp (name : String) : Calculation Int := do
  match (← get).changes.lookup name with
  | some n => return n
  | none =>
    let text := (store.value? name).getD ""
    match int? text.toList with
    | some n => return n
    | none => fail (.illegalNumber text)

def assign (name : String) (value : Int) : Calculation Int := do
  if store.isReadOnly name then fail (.readOnly name)
  modify fun r => { r with changes := (name, value) :: r.changes }
  return value

mutual

/-- An assignment or a choice. What is not live is read without its effects. The number bounds the depth. -/
def assignment : Nat → Bool → Calculation Int
  | 0, _ => fail (.expecting "primary")
  | n + 1, live => do
    match (← get).rest with
    | .name name :: .sign sign :: _ =>
      if sign ∈ assignments then
        drop
        drop
        let value ← assignment n live
        if !live then return value
        if sign = "=" then assign store name value
        else
          let old ← lookUp store name
          assign store name (← combine (String.ofList sign.toList.dropLast) old value)
      else choice n live
    | _ => choice n live

def choice : Nat → Bool → Calculation Int
  | 0, _ => fail (.expecting "primary")
  | n + 1, live => do
    let test ← either n live
    if !(← takeSign "?") then return test
    let yes ← assignment n (live && test ≠ 0)
    if !(← takeSign ":") then fail (.expecting "':'")
    let no ← choice n (live && test = 0)
    return if test ≠ 0 then yes else no

def either : Nat → Bool → Calculation Int
  | 0, _ => fail (.expecting "primary")
  | n + 1, live => do
    let first ← both n live
    if !(← takeSign "||") then return first
    let second ← either n (live && first = 0)
    return ofBool (first ≠ 0 || second ≠ 0)

def both : Nat → Bool → Calculation Int
  | 0, _ => fail (.expecting "primary")
  | n + 1, live => do
    let first ← operand n live levels
    if !(← takeSign "&&") then return first
    let second ← both n (live && first ≠ 0)
    return ofBool (first ≠ 0 && second ≠ 0)

def operand : Nat → Bool → List (List String) → Calculation Int
  | 0, _, _ => fail (.expecting "primary")
  | n + 1, live, [] => primary n live
  | n + 1, live, level :: rest => do operands n live level rest (← operand n live rest)

def operands : Nat → Bool → List String → List (List String) → Int → Calculation Int
  | 0, _, _, _, _ => fail (.expecting "primary")
  | n + 1, live, level, rest, left => do
    match ← peek with
    | some (.sign sign) =>
      if sign ∈ level then
        drop
        let right ← operand n live rest
        operands n live level rest (← if live then combine sign left right else pure right)
      else return left
    | _ => return left

def primary : Nat → Bool → Calculation Int
  | 0, _ => fail (.expecting "primary")
  | n + 1, live => do
    match ← peek with
    | some (.number k) =>
      drop
      return k
    | some (.name name) =>
      drop
      if live then lookUp store name else return 0
    | some (.sign "(") =>
      drop
      let value ← assignment n live
      if !(← takeSign ")") then fail (.expecting "')'")
      return value
    | some (.sign "+") =>
      drop
      primary n live
    | some (.sign "-") =>
      drop
      return wrap (-(← primary n live))
    | some (.sign "!") =>
      drop
      return ofBool ((← primary n live) = 0)
    | some (.sign "~") =>
      drop
      return -(← primary n live) - 1
    | _ => fail (.expecting "primary")

end

def value (text : String) : Except Fault (Int × List (String × Int)) := do
  let ts := tokens (text.length + 1) text.toList
  let (n, r) ← (assignment store (16 * (ts.length + 2)) true).run { rest := ts }
  match r.rest with
  | [] => return (n, r.changes)
  | _ => throw (.expecting "EOF")

end

def Fault.complaint (text : String) : Fault → String
  | .expecting what => "arithmetic expression: expecting " ++ what ++ ": \"" ++ text ++ "\""
  | .divisionByZero => "arithmetic expression: division by zero: \"" ++ text ++ "\""
  | .illegalNumber text => "Illegal number: " ++ text
  | .readOnly name => name ++ ": is read only"

end ProcessDiagram.Shell.Arithmetic
