import ProcessDiagram.Json.ReadError
import ProcessDiagram.Json.Value

/-! JSON text read into values. Every reading leaves less text than it was given, and brackets nest at
most 127 deep. -/
namespace ProcessDiagram.Json

/-- A value read, and what follows it, which is shorter than the text it was read from. -/
structure Reading (whole : List Char) (α : Type) where
  value : α
  rest : List Char
  shorter : rest.length < whole.length

namespace Reading

def map (f : α → β) (r : Reading whole α) : Reading whole β := ⟨f r.value, r.rest, r.shorter⟩

end Reading

abbrev Outcome (whole : List Char) (α : Type) := Except Stop (Reading whole α)

def isSpace (c : Char) : Bool := c = ' ' || c = '\n' || c = '\t' || c = '\r'

def skipSpace (s : List Char) : List Char := s.dropWhile isSpace

theorem length_skipSpace (s : List Char) : (skipSpace s).length ≤ s.length :=
  (List.dropWhile_sublist isSpace).length_le

/-! Words -/

def scanWord (letters s : List Char) (value : Json) (whole : List Char) (h : s.length < whole.length) : Outcome whole Json :=
  match letters, s with
  | [], rest => .ok ⟨value, rest, h⟩
  | _ :: _, [] => .error (.before [] .endInValue)
  | l :: letters, c :: rest =>
    if c = l then scanWord letters rest value whole (Nat.lt_of_succ_lt h)
    else .error (.on (c :: rest) .expectedWord)

/-! Numbers -/

def isDigit (c : Char) : Bool := '0' ≤ c && c ≤ '9'

def digits (s : List Char) : List Char := s.takeWhile isDigit

/-- Appends digits to a number while it stays below the limit; from the first digit that does not
fit, all are returned. -/
def absorb (limit value : Nat) : List Char → Nat × List Char
  | [] => (value, [])
  | d :: ds =>
    let next := value * 10 + (d.toNat - 48)
    if next < limit then absorb limit next ds else (value, d :: ds)

def powerOfTen (n : Nat) : Float := Float.ofScientific 1 false n

def scaleDown (x : Float) (n : Nat) : Float :=
  if n ≤ 308 then x / powerOfTen n
  else if x == 0 then x
  else scaleDown (x / powerOfTen 308) (n - 308)
termination_by n
decreasing_by omega

/-- A floating-point number from its significant digits; none if it is out of range. The last place
may be off by one, since the digits are rounded before they are scaled. -/
def assemble (negative : Bool) (significand : Nat) (exponent : Int) : Option Number :=
  let x := Float.ofScientific significand false 0
  let scaled :=
    if exponent < 0 then some (scaleDown x exponent.natAbs)
    else if exponent ≤ 308 then some (x * powerOfTen exponent.natAbs)
    else if significand = 0 then some x
    else none
  match scaled with
  | none => none
  | some y => if y.isInf then none else some (.double ⟨(if negative then -y else y).toBits⟩)

/-- A number without fraction or exponent stays an integer within 64 bits; minus zero is none. -/
def plainNumber (negative : Bool) (significand : Nat) : Option Number :=
  if negative = false then some (.integer significand)
  else if 0 < significand ∧ significand ≤ Nat.pow 2 63 then some (.integer (-(significand : Int)))
  else assemble negative significand 0

/-- The part of a number after its digits and fraction: an exponent, if any. `fixed` is the number
without it, when that is an integer. -/
def scanExponent (negative : Bool) (significand : Nat) (exponent : Int) (fixed : Bool) (s : List Char) :
    Except Stop (Number × Nat) :=
  let checked (used : Nat) (n : Option Number) : Except Stop (Number × Nat) :=
    match n with
    | some n => .ok (n, used)
    | none => .error (.before (s.drop used) .numberOutOfRange)
  match s with
  | c :: afterMark =>
    if c = 'e' ∨ c = 'E' then
      let (down, signs) := match afterMark with
        | '+' :: _ => (false, 1)
        | '-' :: _ => (true, 1)
        | _ => (false, 0)
      let body := afterMark.drop signs
      let ds := digits body
      match body, ds with
      | [], _ => .error (.before [] .endInValue)
      | _ :: _, [] => .error (.on body .invalidNumber)
      | _ :: _, _ :: _ =>
        let used := 1 + signs + ds.length
        match absorb (Nat.pow 2 31) 0 ds with
        | (e, []) => checked used (assemble negative significand (if down then exponent - e else exponent + e))
        | (_, surplus) =>
          if significand ≠ 0 ∧ down = false then
            .error (.before (s.drop (used - surplus.length + 1)) .numberOutOfRange)
          else checked used (assemble negative 0 0)
    else if fixed then checked 0 (plainNumber negative significand)
    else checked 0 (assemble negative significand exponent)
  | [] =>
    if fixed then checked 0 (plainNumber negative significand)
    else checked 0 (assemble negative significand exponent)

/-- A number after its sign. Digits that do not fit in 64 bits count as zeros before the point and
are dropped after it. -/
def scanNumber (negative : Bool) (s : List Char) : Except Stop (Number × Nat) :=
  let ds := digits s
  match s, ds with
  | [], _ => .error (.before [] .endInValue)
  | _ :: _, [] => .error (.on s .invalidNumber)
  | _ :: afterFirst, first :: more =>
    if first = '0' ∧ more ≠ [] then .error (.on afterFirst .invalidNumber)
    else
      let (whole, dropped) := absorb (Nat.pow 2 64) 0 ds
      let afterDigits := s.drop ds.length
      let shift (n : Nat) (r : Number × Nat) : Number × Nat := (r.1, r.2 + n)
      match afterDigits with
      | '.' :: afterPoint =>
        let fraction := digits afterPoint
        if fraction = [] then
          .error (.on afterPoint (if afterPoint = [] then .endInValue else .invalidNumber))
        else
          let (significand, lost) := absorb (Nat.pow 2 64) whole fraction
          let exponent : Int := dropped.length - (fraction.length - lost.length : Nat)
          shift (ds.length + 1 + fraction.length) <$>
            scanExponent negative significand exponent false (afterPoint.drop fraction.length)
      | _ =>
        shift ds.length <$> scanExponent negative whole dropped.length (dropped = []) afterDigits

/-! Strings -/

def hexValue (c : Char) : Option Nat :=
  if '0' ≤ c ∧ c ≤ '9' then some (c.toNat - 48)
  else if 'a' ≤ c ∧ c ≤ 'f' then some (c.toNat - 87)
  else if 'A' ≤ c ∧ c ≤ 'F' then some (c.toNat - 55)
  else none

/-- Four hexadecimal digits; with fewer than four bytes left the text has ended. -/
def scanHex (s : List Char) (whole : List Char) (h : s.length < whole.length) : Outcome whole Nat :=
  if byteCount (s.take 4) < 4 then .error ⟨.endInString, 0⟩
  else
    match s with
    | a :: b :: c :: d :: rest =>
      match hexValue a, hexValue b, hexValue c, hexValue d with
      | some a, some b, some c, some d =>
        .ok ⟨((a * 16 + b) * 16 + c) * 16 + d, rest, by simp at h; omega⟩
      | _, _, _, _ => .error ⟨.invalidEscape, byteCount s - 4⟩
    | _ => .error ⟨.invalidEscape, byteCount s - 4⟩

def isHighSurrogate (n : Nat) : Bool := 0xD800 ≤ n && n < 0xDC00
def isLowSurrogate (n : Nat) : Bool := 0xDC00 ≤ n && n < 0xE000

/-- The character of a hexadecimal escape; beyond the first plane it takes two escapes. -/
def scanUnicodeEscape (s : List Char) (whole : List Char) (h : s.length < whole.length) : Outcome whole Char :=
  match scanHex s whole h with
  | .error stop => .error stop
  | .ok ⟨high, rest, hr⟩ =>
    if isLowSurrogate high then .error (.before rest .loneSurrogate)
    else if isHighSurrogate high then
      match rest with
      | [] => .error (.before [] .endInString)
      | ['\\'] => .error (.before [] .endInString)
      | '\\' :: 'u' :: second =>
        match scanHex second whole (by simp at hr; omega) with
        | .error stop => .error stop
        | .ok ⟨low, rest, hr⟩ =>
          if isLowSurrogate low then
            .ok ⟨Char.ofNat (0x10000 + (high - 0xD800) * 0x400 + (low - 0xDC00)), rest, hr⟩
          else .error (.before rest .loneSurrogate)
      | '\\' :: other => .error (.on other .endInSurrogates)
      | other => .error (.on other .endInSurrogates)
    else .ok ⟨Char.ofNat high, rest, hr⟩

def simpleEscape : Char → Option Char
  | '"' => some '"'
  | '\\' => some '\\'
  | '/' => some '/'
  | 'b' => some '\x08'
  | 'f' => some '\x0c'
  | 'n' => some '\n'
  | 'r' => some '\r'
  | 't' => some '\t'
  | _ => none

/-- The text up to the closing quote; `done` holds the characters read so far, the last one first. -/
def scanString (done s : List Char) (whole : List Char) (h : s.length < whole.length) : Outcome whole String :=
  match s with
  | [] => .error (.before [] .endInString)
  | c :: rest =>
    if c = '"' then .ok ⟨String.ofList done.reverse, rest, Nat.lt_of_succ_lt h⟩
    else if c = '\\' then
      match rest with
      | [] => .error (.before [] .endInString)
      | e :: after =>
        if e = 'u' then
          match scanUnicodeEscape after (e :: after) (Nat.lt_succ_self _) with
          | .error stop => .error stop
          | .ok ⟨c, later, hl⟩ =>
            have hl : later.length < after.length + 1 := hl
            scanString (c :: done) later whole (Nat.lt_trans hl (Nat.lt_of_succ_lt h))
        else
          match simpleEscape e with
          | some c => scanString (c :: done) after whole (Nat.lt_of_succ_lt (Nat.lt_of_succ_lt h))
          | none => .error (.on (e :: after) .invalidEscape)
    else if c.toNat < 32 then .error (.on (c :: rest) .controlCharacter)
    else scanString (c :: done) rest whole (Nat.lt_of_succ_lt h)
termination_by s.length
decreasing_by
  · exact Nat.lt_succ_of_lt hl
  · exact Nat.lt_succ_of_lt (Nat.lt_succ_self _)
  · exact Nat.lt_succ_self _

/-! Values -/

/-- Fields stay sorted by key, and a key that occurs again takes the later value. -/
def insertField (key : String) (value : Json) : List (String × Json) → List (String × Json)
  | [] => [(key, value)]
  | (k, v) :: rest =>
    if key < k then (key, value) :: (k, v) :: rest
    else if key = k then (key, value) :: rest
    else (k, v) :: insertField key value rest

def scanNumberValue (negative : Bool) (s : List Char) (whole : List Char) (h : s.length < whole.length) : Outcome whole Json :=
  match scanNumber negative s with
  | .error stop => .error stop
  | .ok (n, used) => .ok ⟨.number n, s.drop used, by simp; omega⟩

mutual

/-- A value after white space; `depth` more brackets may open. -/
def scanValue (depth : Nat) (s : List Char) (whole : List Char) (h : s.length ≤ whole.length) : Outcome whole Json :=
  match hs : skipSpace s with
  | [] => .error (.on [] .endInValue)
  | c :: rest =>
    have hr : rest.length < s.length := by
      have := length_skipSpace s
      rw [hs] at this
      exact this
    have hb : rest.length < whole.length := Nat.lt_of_lt_of_le hr h
    if c = 'n' then scanWord ['u', 'l', 'l'] rest .null whole hb
    else if c = 't' then scanWord ['r', 'u', 'e'] rest (.bool true) whole hb
    else if c = 'f' then scanWord ['a', 'l', 's', 'e'] rest (.bool false) whole hb
    else if c = '"' then (scanString [] rest whole hb).map (·.map .string)
    else if c = '-' then scanNumberValue true rest whole hb
    else if isDigit c then
      match scanNumber false (c :: rest) with
      | .error stop => .error stop
      | .ok (n, used) => .ok ⟨.number n, rest.drop (used - 1), by simp; omega⟩
    else if c = '[' then
      if depth = 0 then .error (.on (c :: rest) .tooDeep)
      else (scanItems (depth - 1) true [] rest whole hb).map (·.map .array)
    else if c = '\x7b' then
      if depth = 0 then .error (.on (c :: rest) .tooDeep)
      else (scanFields (depth - 1) true [] rest whole hb).map (·.map .object)
    else .error (.on (c :: rest) .expectedValue)
termination_by (s.length, 0)

/-- The items up to the closing bracket; `done` holds those read so far, the last one first. -/
def scanItems (depth : Nat) (first : Bool) (done : List Json) (s : List Char) (whole : List Char)
    (h : s.length < whole.length) : Outcome whole (List Json) :=
  match hs : skipSpace s with
  | [] => .error (.on [] .endInList)
  | c :: rest =>
    have hr : rest.length < s.length := by
      have := length_skipSpace s
      rw [hs] at this
      exact this
    if c = ']' then .ok ⟨done.reverse, rest, Nat.lt_trans hr h⟩
    else if first then
      match scanValue depth s s (Nat.le_refl _) with
      | .error stop => .error stop
      | .ok ⟨v, rest', hr'⟩ => scanItems depth false (v :: done) rest' whole (Nat.lt_trans hr' h)
    else if c = ',' then
      match skipSpace rest with
      | ']' :: after => .error (.on (']' :: after) .trailingComma)
      | _ =>
        match scanValue depth rest rest (Nat.le_refl _) with
        | .error stop => .error stop
        | .ok ⟨v, rest', hr'⟩ =>
          scanItems depth false (v :: done) rest' whole (Nat.lt_trans hr' (Nat.lt_trans hr h))
    else .error (.on (c :: rest) .expectedListEnd)
termination_by (s.length, 1)

def scanFields (depth : Nat) (first : Bool) (done : List (String × Json)) (s : List Char) (whole : List Char)
    (h : s.length < whole.length) : Outcome whole (List (String × Json)) :=
  match hs : skipSpace s with
  | [] => .error (.on [] .endInObject)
  | c :: rest =>
    have hr : rest.length < s.length := by
      have := length_skipSpace s
      rw [hs] at this
      exact this
    if c = '\x7d' then .ok ⟨done, rest, Nat.lt_trans hr h⟩
    else if first = false ∧ c ≠ ',' then .error (.on (c :: rest) .expectedObjectEnd)
    else
      let start := if first then c :: rest else rest
      have hstart : start.length ≤ s.length := by
        have := length_skipSpace s
        rw [hs] at this
        simp only [start]
        split <;> omega
      match hk : skipSpace start with
      | [] => .error (.on [] .endInValue)
      | q :: key =>
        have hq : key.length < s.length := by
          have := length_skipSpace start
          rw [hk] at this
          simp only [List.length_cons] at this
          omega
        if q = '\x7d' then .error (.on (q :: key) .trailingComma)
        else if q ≠ '"' then .error (.on (q :: key) .keyNotText)
        else
          match scanString [] key s hq with
          | .error stop => .error stop
          | .ok ⟨k, afterKey, hafter⟩ =>
            match hc : skipSpace afterKey with
            | [] => .error (.on [] .endInObject)
            | colon :: body =>
              have hbody : body.length < s.length := by
                have := length_skipSpace afterKey
                rw [hc] at this
                simp only [List.length_cons] at this
                omega
              if colon ≠ ':' then .error (.on (colon :: body) .expectedColon)
              else
                match scanValue depth body body (Nat.le_refl _) with
                | .error stop => .error stop
                | .ok ⟨v, rest', hr'⟩ =>
                  scanFields depth false (insertField k v done) rest' whole
                    (Nat.lt_trans hr' (Nat.lt_trans hbody h))
termination_by (s.length, 1)

end

def readChars (s : List Char) : Except Stop Json :=
  match scanValue 127 s s (Nat.le_refl _) with
  | .error stop => .error stop
  | .ok ⟨v, rest, _⟩ =>
    match skipSpace rest with
    | [] => .ok v
    | after => .error (.on after .trailingCharacters)

def read (text : String) : Except String Json :=
  (readChars text.toList).mapError (·.message text.toList)

end ProcessDiagram.Json
