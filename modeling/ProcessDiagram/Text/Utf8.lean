/-! Bytes read as UTF-8. -/
namespace ProcessDiagram.Text.Utf8

/-- Reads `count` more bytes of a character, the next one between the bounds; none if one does not fit,
which is then left. -/
def continueChar (low high : Nat) : Nat → Nat → List UInt8 → Option Nat × List UInt8
  | 0, code, rest => (some code, rest)
  | _ + 1, _, [] => (none, [])
  | count + 1, code, b :: rest =>
    if low ≤ b.toNat ∧ b.toNat ≤ high then
      continueChar 0x80 0xBF count (code * 64 + b.toNat % 64) rest
    else (none, b :: rest)

/-- The character that starts with a byte; none for as many bytes as could have started one. -/
def charFrom (b : UInt8) (rest : List UInt8) : Option Nat × List UInt8 :=
  let n := b.toNat
  if n < 0x80 then (some n, rest)
  else if 0xC2 ≤ n ∧ n ≤ 0xDF then continueChar 0x80 0xBF 1 (n % 32) rest
  else if n = 0xE0 then continueChar 0xA0 0xBF 2 (n % 16) rest
  else if n = 0xED then continueChar 0x80 0x9F 2 (n % 16) rest
  else if 0xE1 ≤ n ∧ n ≤ 0xEF then continueChar 0x80 0xBF 2 (n % 16) rest
  else if n = 0xF0 then continueChar 0x90 0xBF 3 (n % 8) rest
  else if 0xF1 ≤ n ∧ n ≤ 0xF3 then continueChar 0x80 0xBF 3 (n % 8) rest
  else if n = 0xF4 then continueChar 0x80 0x8F 3 (n % 8) rest
  else (none, rest)

theorem length_continueChar (low high count code : Nat) (rest : List UInt8) :
    (continueChar low high count code rest).2.length ≤ rest.length := by
  fun_induction continueChar low high count code rest with
  | case1 => simp
  | case2 => simp
  | case3 => simp; omega
  | case4 => simp

theorem length_charFrom (b : UInt8) (rest : List UInt8) : (charFrom b rest).2.length ≤ rest.length := by
  simp only [charFrom]
  repeat' split
  all_goals simp [length_continueChar]

/-- The characters of a byte sequence; none stands for bytes that are no character. -/
def decode : List UInt8 → List (Option Char)
  | [] => []
  | b :: rest =>
    have := length_charFrom b rest
    (charFrom b rest).1.map Char.ofNat :: decode (charFrom b rest).2
termination_by bytes => bytes.length
decreasing_by simp; omega

/-- Text with a replacement character for whatever is malformed. -/
def decodeLossy (bytes : List UInt8) : String :=
  String.ofList ((decode bytes).map (·.getD '\ufffd'))

def decode? (bytes : List UInt8) : Option String :=
  ((decode bytes).mapM id).map String.ofList

def encode (s : String) : List UInt8 := s.toUTF8.toList

end ProcessDiagram.Text.Utf8
