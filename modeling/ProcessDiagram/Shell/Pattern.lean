/-! Patterns over characters: stars, question marks and brackets. In the text of a pattern a backslash protects
the character after it. -/
namespace ProcessDiagram.Shell

/-- What one place of a pattern fits. -/
inductive Glyph where
  | exactly (c : Char)
  | anything
  /-- Any number of characters. -/
  | run
  /-- A character that lies within one of some ranges, or within none of them. -/
  | oneOf (inside : Bool) (ranges : List (Char × Char))
deriving DecidableEq, Repr

/-- Whether a character lies within one of some ranges. -/
def inRanges (c : Char) (ranges : List (Char × Char)) : Bool := ranges.any fun (low, high) => low ≤ c ∧ c ≤ high

def Glyph.fits : Glyph → Char → Bool
  | .exactly d, c => c = d
  | .anything, _ => true
  | .run, _ => true
  | .oneOf inside ranges, c => inRanges c ranges == inside

namespace Pattern

def classRanges? : String → Option (List (Char × Char))
  | "alpha" => some [('a', 'z'), ('A', 'Z')]
  | "digit" => some [('0', '9')]
  | "alnum" => some [('a', 'z'), ('A', 'Z'), ('0', '9')]
  | "upper" => some [('A', 'Z')]
  | "lower" => some [('a', 'z')]
  | "space" => some [('\t', '\r'), (' ', ' ')]
  | "blank" => some [('\t', '\t'), (' ', ' ')]
  | "punct" => some [('!', '/'), (':', '@'), ('[', '`'), ('\x7b', '~')]
  | "xdigit" => some [('0', '9'), ('a', 'f'), ('A', 'F')]
  | "print" => some [(' ', '~')]
  | "graph" => some [('!', '~')]
  | "cntrl" => some [('\x00', '\x1f'), ('\x7f', '\x7f')]
  | _ => none

def range (low high : Char) : List (Char × Char) :=
  let isLate (c : Char) : Bool := 128 ≤ c.toNat
  match isLate low, isLate high with
  | true, false => [(low, '\xff'), ('\x00', high)]
  | false, true => []
  | _, _ => [(low, high)]

def class? (cs : List Char) : Option (List (Char × Char) × List Char) :=
  match cs with
  | ':' :: rest =>
    let name := rest.takeWhile Char.isAlpha
    match rest.drop name.length with
    | ':' :: ']' :: rest => (classRanges? (String.ofList name)).map (·, rest)
    | _ => none
  | _ => none

def bound? : List Char → Option (Char × List Char)
  | '\\' :: c :: rest => some (c, rest)
  | ['\\'] => none
  | c :: rest => some (c, rest)
  | [] => none

/-- Reads ranges up to the bracket that closes them; one that stands first is a character. The number bounds
the ranges. -/
def ranges? (first : Bool) : Nat → List Char → Option (List (Char × Char) × List Char)
  | 0, _ => none
  | _, [] => none
  | n + 1, c :: rest =>
    let more (found : List (Char × Char)) (rest : List Char) :=
      (ranges? false n rest).map fun (ranges, rest) => (found ++ ranges, rest)
    if c = ']' ∧ !first then some ([], rest)
    else
      match if c = '[' then class? rest else none with
      | some (found, rest) => more found rest
      | none => do
        let (low, rest) ← bound? (c :: rest)
        match rest with
        | '-' :: d :: more' =>
          if d = ']' then more [(low, low)] rest
          else do
            let (high, rest) ← bound? (d :: more')
            more (range low high) rest
        | _ => more [(low, low)] rest

/-- What follows an opening bracket, if the bracket is closed. An exclamation mark turns its meaning round. -/
def bracket? (cs : List Char) : Option (Glyph × List Char) :=
  let (inside, cs) := match cs with
    | '!' :: rest => (false, rest)
    | _ => (true, cs)
  (ranges? true (cs.length + 1) cs).map fun (ranges, rest) => (.oneOf inside ranges, rest)

/-- The glyphs of a pattern; the number bounds them. -/
def glyphs : Nat → List Char → List Glyph
  | 0, _ => []
  | _, [] => []
  | n + 1, '\\' :: c :: rest => .exactly c :: glyphs n rest
  | n + 1, '*' :: rest => .run :: glyphs n rest
  | n + 1, '?' :: rest => .anything :: glyphs n rest
  | n + 1, '[' :: rest =>
    match bracket? rest with
    | some (g, rest) => g :: glyphs n rest
    | none => .exactly '[' :: glyphs n rest
  | n + 1, c :: rest => .exactly c :: glyphs n rest

def ofText (cs : List Char) : List Glyph := glyphs cs.length cs

def rests : List Glyph → List (List Glyph)
  | .run :: ps => (.run :: ps) :: rests ps
  | ps => [ps]

def after (c : Char) : List Glyph → List (List Glyph)
  | [] => []
  | .run :: ps => rests (.run :: ps)
  | g :: ps => if g.fits c then rests ps else []

def step (found : List (List Glyph)) (c : Char) : List (List Glyph) :=
  (found.flatMap (after c)).eraseDupsBy fun a b => a.length == b.length

def fits (p : List Glyph) (cs : List Char) : Bool := (cs.foldl step (rests p)).any List.isEmpty

def lengths (found : List (List Glyph)) (n : Nat) : List Char → List Nat
  | [] => if found.any List.isEmpty then [n] else []
  | c :: cs =>
    let rest := if found.isEmpty then [] else lengths (step found c) (n + 1) cs
    if found.any List.isEmpty then n :: rest else rest

def startLength? (longest : Bool) (p : List Glyph) (cs : List Char) : Option Nat :=
  let found := lengths (rests p) 0 cs
  if longest then found.getLast? else found.head?

def endLength? (longest : Bool) (p : List Glyph) (cs : List Char) : Option Nat :=
  startLength? longest p.reverse cs.reverse

end Pattern

end ProcessDiagram.Shell
