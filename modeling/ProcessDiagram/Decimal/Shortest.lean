import ProcessDiagram.Decimal.Binary

/-! The fewest decimal digits that read back as a given binary number. -/
namespace ProcessDiagram.Decimal

/-- digits · 10 ^ exponent -/
structure Scaled where
  digits : Nat
  exponent : Int
deriving DecidableEq, Repr

/-- Which of two equally near candidates is taken. -/
inductive Tie where
  | toEven
  | upward

/-- Compares a · 10 ^ i with b · 2 ^ j exactly. -/
def compareScaled (a : Nat) (i : Int) (b : Nat) (j : Int) : Ordering :=
  compare (a * Nat.pow 10 i.toNat * Nat.pow 2 (-j).toNat) (b * Nat.pow 2 j.toNat * Nat.pow 10 (-i).toNat)

namespace Binary

/-- The decimal lies among the reals that round to the number: between the points halfway to its two
neighbours, which themselves belong to an even mantissa. -/
def readsBack (x : Binary) (d : Scaled) : Bool :=
  let below := if x.narrowBelow then 4 * x.mantissa - 1 else 4 * x.mantissa - 2
  let above := 4 * x.mantissa + 2
  let low := compareScaled d.digits d.exponent below (x.exponent - 2)
  let high := compareScaled d.digits d.exponent above (x.exponent - 2)
  let ends := x.mantissa % 2 == 0
  (low == .gt || (ends && low == .eq)) && (high == .lt || (ends && high == .eq))

/-- The multiple of 10 ^ grid next to the number that reads back, the nearer one of two; none on a
grid coarser than the leading digit. -/
def onGrid (tie : Tie) (x : Binary) (grid : Int) : Option Scaled :=
  let num := x.mantissa * Nat.pow 2 x.exponent.toNat * Nat.pow 10 (-grid).toNat
  let den := Nat.pow 2 (-x.exponent).toNat * Nat.pow 10 grid.toNat
  let down : Scaled := ⟨num / den, grid⟩
  let up : Scaled := ⟨num / den + 1, grid⟩
  if num / den = 0 then none
  else match x.readsBack down, x.readsBack up with
    | false, false => none
    | true, false => some down
    | false, true => some up
    | true, true =>
      match compare (2 * (num % den)) den, tie with
      | .lt, _ => some down
      | .gt, _ => some up
      | .eq, .upward => some up
      | .eq, .toEven => some (if num / den % 2 = 0 then down else up)

def exact (x : Binary) : Scaled :=
  if 0 ≤ x.exponent then ⟨x.mantissa * Nat.pow 2 x.exponent.toNat, 0⟩
  else ⟨x.mantissa * Nat.pow 5 (-x.exponent).toNat, x.exponent⟩

/-- A power of ten above the number: 30103 / 100000 is just over the decimal logarithm of two. -/
def topGrid (x : Binary) : Int :=
  (x.mantissa.log2 + x.exponent + 1) * 30103 / 100000 + 2

end Binary

def Scaled.strip (d : Scaled) : Scaled :=
  if h : d.digits ≠ 0 ∧ d.digits % 10 = 0 then Scaled.strip ⟨d.digits / 10, d.exponent + 1⟩ else d
termination_by d.digits
decreasing_by omega

/-- The first grid from above that holds a decimal reading back; 24 grids from the top one are enough
for the seventeen digits that always read back. -/
def Binary.shortest (tie : Tie) (x : Binary) : Scaled :=
  if x.mantissa = 0 then ⟨0, 0⟩
  else (((List.range 24).findSome? fun (i : Nat) => x.onGrid tie (x.topGrid - i)).getD x.exact).strip

namespace Scaled

def text (d : Scaled) : List Char := (toString d.digits).toList

def leading (d : Scaled) : Int := d.text.length - 1 + d.exponent

def parts (d : Scaled) : List Char × List Char :=
  if 0 ≤ d.exponent then (d.text ++ List.replicate d.exponent.toNat '0', [])
  else
    let places := (-d.exponent).toNat
    if places < d.text.length then (d.text.take (d.text.length - places), d.text.drop (d.text.length - places))
    else (['0'], List.replicate (places - d.text.length) '0' ++ d.text)

end Scaled

/-- Positional notation without exponent, and without point where there is no fraction. -/
def Single.text (x : Single) : String :=
  match x.magnitude with
  | .notANumber => "NaN"
  | .infinite negative => if negative then "-inf" else "inf"
  | .finite negative b =>
    let (whole, fraction) := (b.shortest .upward).parts
    String.ofList ((if negative then ['-'] else []) ++ whole ++ (if fraction.isEmpty then [] else '.' :: fraction))

end ProcessDiagram.Decimal
