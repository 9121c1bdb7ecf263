/-! Binary floating-point numbers by their exact values. -/
namespace ProcessDiagram.Decimal

/-- A finite non-negative number, mantissa · 2 ^ exponent. -/
structure Binary where
  mantissa : Nat
  exponent : Int
  /-- The next number below is half as far away as the next one above. -/
  narrowBelow : Bool

/-- What a bit pattern stands for. -/
inductive Magnitude where
  | notANumber
  | infinite (negative : Bool)
  | finite (negative : Bool) (value : Binary)

/-- Reads a sign bit, `exponentBits` bits of exponent and `fractionBits` bits of fraction. -/
def Magnitude.ofBits (exponentBits fractionBits bits : Nat) : Magnitude :=
  let fraction := bits % Nat.pow 2 fractionBits
  let field := bits / Nat.pow 2 fractionBits % Nat.pow 2 exponentBits
  let negative := bits / Nat.pow 2 (fractionBits + exponentBits) % 2 == 1
  let least : Int := 2 - (Nat.pow 2 (exponentBits - 1) : Nat) - fractionBits
  if field = Nat.pow 2 exponentBits - 1 then
    if fraction = 0 then .infinite negative else .notANumber
  else if field = 0 then .finite negative ⟨fraction, least, false⟩
  else .finite negative ⟨Nat.pow 2 fractionBits + fraction, least + (field - 1), fraction == 0 && field != 1⟩

/-- A number in single precision, held by its bits so that equality tells NaNs and zeros apart. -/
structure Single where
  bits : UInt32
deriving DecidableEq, Inhabited, Repr

structure Double where
  bits : UInt64
deriving DecidableEq, Inhabited, Repr

def Single.magnitude (x : Single) : Magnitude := .ofBits 8 23 x.bits.toNat
def Double.magnitude (x : Double) : Magnitude := .ofBits 11 52 x.bits.toNat

def Magnitude.isZero : Magnitude → Bool
  | .finite _ x => x.mantissa == 0
  | _ => false

end ProcessDiagram.Decimal
