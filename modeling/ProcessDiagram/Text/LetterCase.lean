/-! Letter case, as far as comparison with an ASCII word needs it. -/
namespace ProcessDiagram.Text

/-- The lowercase form wherever it is ASCII. Outside A–Z that is so for the Kelvin sign alone; any
other character outside ASCII has a lowercase form with a character outside ASCII and is kept. -/
def lowerChar (c : Char) : Char :=
  if 'A' ≤ c ∧ c ≤ 'Z' then Char.ofNat (c.toNat + 32)
  else if c = '\u212a' then 'k'
  else c

/-- Equal to an ASCII word exactly when the full lowercase form of the text is. -/
def lower (s : String) : String :=
  String.ofList (s.toList.map lowerChar)

/-- The uppercase form wherever it is ASCII: the small letters, dotless i, long s, sharp s and the
ligatures; any other character is kept. -/
def upperChar (c : Char) : List Char :=
  if 'a' ≤ c ∧ c ≤ 'z' then [Char.ofNat (c.toNat - 32)]
  else match c.toNat with
    | 0x131 => ['I']
    | 0x17F => ['S']
    | 0xDF => ['S', 'S']
    | 0xFB00 => ['F', 'F']
    | 0xFB01 => ['F', 'I']
    | 0xFB02 => ['F', 'L']
    | 0xFB03 => ['F', 'F', 'I']
    | 0xFB04 => ['F', 'F', 'L']
    | 0xFB05 => ['S', 'T']
    | 0xFB06 => ['S', 'T']
    | _ => [c]

/-- Equal to an ASCII word exactly when the full uppercase form of the text is. -/
def upper (s : String) : String :=
  String.ofList (s.toList.flatMap upperChar)

end ProcessDiagram.Text
