/-! Fractions in decimal notation with a given number of digits, and the binary numbers next to them. -/
namespace ProcessDiagram.Decimal

structure Fraction where
  num : Nat
  den : Nat
deriving Repr

/-- A quotient brought to the nearest whole number; a half goes to the even one. -/
def roundedQuotient (n d : Nat) : Nat :=
  let q := n / d
  if 2 * (n % d) < d ∨ (2 * (n % d) = d ∧ q % 2 = 0) then q else q + 1

namespace Fraction

/-- digits · 10 ^ exponent -/
def ofScaled (digits : Nat) (exponent : Int) : Fraction :=
  ⟨digits * Nat.pow 10 exponent.toNat, Nat.pow 10 (-exponent).toNat⟩

/-- The nearest number with so many bits that is a multiple of 2 ^ least. -/
def inBinary (bits : Nat) (least : Int) (x : Fraction) : Fraction :=
  if x.num = 0 then ⟨0, 1⟩
  else
    let guess : Int := (x.num.log2 : Int) - x.den.log2 - bits + 1
    let scaled (e : Int) : Nat × Nat := (x.num * Nat.pow 2 (-e).toNat, x.den * Nat.pow 2 e.toNat)
    let (n, d) := scaled guess
    let e := max least (if n < d * Nat.pow 2 (bits - 1) then guess - 1 else guess)
    let (n, d) := scaled e
    let m := roundedQuotient n d
    ⟨m * Nat.pow 2 e.toNat, Nat.pow 2 (-e).toNat⟩

/-- The exponent of the power of ten at or below a number above zero. -/
def exponent (x : Fraction) : Int :=
  let guess : Int := ((toString x.num).length : Int) - (toString x.den).length
  if x.num * Nat.pow 10 (-guess).toNat < x.den * Nat.pow 10 guess.toNat then guess - 1 else guess

def leading (count : Nat) (x : Fraction) : Nat × Int :=
  if x.num = 0 then (0, 0)
  else
    let shift : Int := count - 1 - x.exponent
    let n := roundedQuotient (x.num * Nat.pow 10 shift.toNat) (x.den * Nat.pow 10 (-shift).toNat)
    if Nat.pow 10 count ≤ n then (n / 10, x.exponent + 1) else (n, x.exponent)

def digitsOf (least n : Nat) : List Char :=
  let digits := (toString n).toList
  List.replicate (least - digits.length) '0' ++ digits

def withPoint (keepsPoint : Bool) (places : Nat) (digits : List Char) : List Char :=
  let whole := digits.take (digits.length - places)
  if places = 0 ∧ !keepsPoint then whole else whole ++ '.' :: digits.drop (digits.length - places)

def fixed (keepsPoint : Bool) (places : Nat) (x : Fraction) : List Char :=
  withPoint keepsPoint places (digitsOf (places + 1) (roundedQuotient (x.num * Nat.pow 10 places) x.den))

def exponentText (e : Int) : List Char := 'e' :: (if e < 0 then '-' else '+') :: digitsOf 2 e.natAbs

def scientific (keepsPoint : Bool) (places : Nat) (x : Fraction) : List Char :=
  let (n, e) := x.leading (places + 1)
  withPoint keepsPoint places (digitsOf (places + 1) n) ++ exponentText e

/-- The digits of a binary number in base sixteen, of which the first has so many bits, and its power of two. Without a
number of digits behind the point there are as many as are needed. -/
def inBaseSixteen (keepsPoint : Bool) (firstBits : Nat) (places : Option Nat) (x : Fraction) : List Char :=
  let count := places.getD 16
  let guess : Int := (x.num.log2 : Int) - x.den.log2
  let power : Int := if x.num * Nat.pow 2 (-guess).toNat < x.den * Nat.pow 2 guess.toNat then guess - 1 else guess
  let e : Int := if x.num = 0 then 0 else power - (firstBits - 1)
  let n := roundedQuotient (x.num * Nat.pow 16 count * Nat.pow 2 (-e).toNat) (x.den * Nat.pow 2 e.toNat)
  let behind := (Nat.toDigits 16 (n % Nat.pow 16 count + Nat.pow 16 count)).tail
  let behind := if places.isSome then behind else (behind.reverse.dropWhile (· = '0')).reverse
  Nat.toDigits 16 (n / Nat.pow 16 count) ++ (if behind.isEmpty ∧ !keepsPoint then [] else '.' :: behind) ++
    'p' :: (if e < 0 then '-' else '+') :: (toString e.natAbs).toList

def stripped (cs : List Char) : List Char :=
  if cs.contains '.' then
    let rest := cs.reverse.dropWhile (· = '0')
    (if rest.head? = some '.' then rest.tail else rest).reverse
  else cs

def general (keepsZeros : Bool) (precision : Nat) (x : Fraction) : List Char :=
  let precision := max precision 1
  let (n, e) := x.leading precision
  if e < -4 ∨ (precision : Int) ≤ e then
    let digits := withPoint keepsZeros (precision - 1) (digitsOf precision n)
    (if keepsZeros then digits else stripped digits) ++ exponentText e
  else
    let text := x.fixed keepsZeros (precision - 1 - e).toNat
    if keepsZeros then text else stripped text

end Fraction

inductive Reading where
  | number (x : Fraction)
  | infinite
  | notANumber

/-- The number at the start of a text, in decimal digits with a point and an exponent, and what follows it. -/
def readNumber? (cs : List Char) : Option (Reading × List Char) :=
  let starts (word : String) : Bool := (String.ofList (cs.take word.length)).toLower = word
  if starts "infinity" then some (.infinite, cs.drop 8)
  else if starts "inf" then some (.infinite, cs.drop 3)
  else if starts "nan" then some (.notANumber, cs.drop 3)
  else
    let whole := cs.takeWhile Char.isDigit
    let rest := cs.drop whole.length
    let (places, rest') := match rest with
      | '.' :: more => (more.takeWhile Char.isDigit, more.dropWhile Char.isDigit)
      | _ => ([], rest)
    let digits := whole ++ places
    if digits.isEmpty then none
    else
      let (exponent, rest'') : Int × List Char := match rest' with
        | e :: more =>
          let (isNegative, more) := match more with
            | '-' :: more => (true, more)
            | '+' :: more => (false, more)
            | _ => (false, more)
          let power := more.takeWhile Char.isDigit
          if (e = 'e' ∨ e = 'E') ∧ !power.isEmpty then
            let n := min 5000 (((String.ofList power).toNat?).getD 0)
            (if isNegative then -Int.ofNat n else n, more.drop power.length)
          else (0, rest')
        | [] => (0, [])
      let n := ((String.ofList digits).toNat?).getD 0
      some (.number (Fraction.ofScaled n (exponent - places.length)), rest'')

end ProcessDiagram.Decimal
