import ProcessDiagram.Shell.Pattern

/-! Regular expressions, in the basic and the extended way of writing them. -/
namespace ProcessDiagram.Shell

inductive Regex where
  | empty
  | one (g : Glyph)
  /-- The start and the end of a line. -/
  | lineStart
  | lineEnd
  /-- The start and the end of all. -/
  | start
  | finish
  | wordStart
  | wordEnd
  /-- A place at which words start or end, or any other. -/
  | wordEdge (isEdge : Bool)
  | sequence (first second : Regex)
  | either (first second : Regex)
  | repeated (least : Nat) (most : Option Nat) (r : Regex)
  | group (number : Nat) (r : Regex)
  /-- What a group has matched, once more. -/
  | back (number : Nat)

namespace Regex

/-! ### Matching -/

/-- How an expression is matched. -/
structure Manner where
  anyCase : Bool := false
  /-- Lines start and end at line feeds as well. -/
  byLines : Bool := false

/-- A place in a text: what is behind it, how far it is from the start, the character before it, and what the groups
have matched. -/
structure Place where
  rest : List Char
  position : Nat
  before : Option Char
  groups : List (Nat × List Char) := []

def Place.ofText (cs : List Char) : Place := { rest := cs, position := 0, before := none }

def Place.next? (p : Place) : Option (Char × Place) :=
  match p.rest with
  | c :: rest => some (c, { p with rest, position := p.position + 1, before := some c })
  | [] => none

def Place.advance (p : Place) : Nat → Place
  | 0 => p
  | n + 1 =>
    match p.next? with
    | some (_, q) => q.advance n
    | none => p

def Place.upTo (p q : Place) : List Char := p.rest.take (q.position - p.position)

def isWordChar (c : Char) : Bool := c.isAlphanum || c = '_'

/-- Whether a glyph fits a character, perhaps whatever its case. -/
def fitsOne (anyCase : Bool) (g : Glyph) (c : Char) : Bool :=
  if !anyCase then g.fits c
  else
    match g with
    | .oneOf inside ranges =>
      (inRanges c ranges || inRanges c.toUpper ranges || inRanges c.toLower ranges) == inside
    | _ => g.fits c || g.fits c.toUpper || g.fits c.toLower

def distinct (ps : List Place) : List Place :=
  ps.eraseDupsBy fun p q => p.position == q.position && p.groups == q.groups

/-- Repeats a step, at least and at most so often; a step has to get on. The number bounds the steps. -/
def times (step : Place → List Place) : Nat → Nat → Option Nat → Place → List Place
  | 0, _, _, p => [p]
  | n + 1, least, most, p =>
    let further :=
      if most = some 0 then []
      else distinct (((step p).filter fun q => p.position < q.position ∨ 0 < least).flatMap
        (times step n (least - 1) (most.map (· - 1))))
    if least = 0 then further ++ [p] else further

/-- The places behind characters that a glyph fits, at most so many, the last first. -/
def run (anyCase : Bool) (g : Glyph) (passed : List Place) : Nat → Place → List Place
  | 0, p => p :: passed
  | n + 1, p =>
    match p.next? with
    | some (c, q) => if fitsOne anyCase g c then run anyCase g (p :: passed) n q else p :: passed
    | none => p :: passed

/-- The places where a match that starts at a place can end; those that are preferred stand first. -/
def ends (m : Manner) : Regex → Place → List Place
  | .empty, p => [p]
  | .one g, p =>
    match p.next? with
    | some (c, q) => if fitsOne m.anyCase g c then [q] else []
    | none => []
  | .lineStart, p => if p.before.isNone ∨ (m.byLines ∧ p.before = some '\n') then [p] else []
  | .lineEnd, p => if p.rest.isEmpty ∨ (m.byLines ∧ p.rest.head? = some '\n') then [p] else []
  | .start, p => if p.before.isNone then [p] else []
  | .finish, p => if p.rest.isEmpty then [p] else []
  | .wordStart, p => if !p.before.any isWordChar ∧ p.rest.head?.any isWordChar then [p] else []
  | .wordEnd, p => if p.before.any isWordChar ∧ !p.rest.head?.any isWordChar then [p] else []
  | .wordEdge isEdge, p => if (p.before.any isWordChar != p.rest.head?.any isWordChar) = isEdge then [p] else []
  | .sequence a b, p => distinct ((ends m a p).flatMap (ends m b))
  | .either a b, p => ends m a p ++ ends m b p
  | .repeated least most (.one g), p =>
    let found := run m.anyCase g [] (most.getD p.rest.length) p
    found.take (found.length - least)
  | .repeated least most r, p => times (ends m r) (p.rest.length + least + 1) least most p
  | .group n r, p =>
    (ends m r p).map fun q => { q with groups := (n, p.upTo q) :: q.groups.filter (·.1 ≠ n) }
  | .back n, p =>
    match p.groups.lookup n with
    | some text => if text.isPrefixOf p.rest then [p.advance text.length] else []
    | none => []

def longest (m : Manner) (r : Regex) (p : Place) : Option Place :=
  (ends m r p).foldl (fun best q =>
    match best with
    | some b => if b.position < q.position then some q else best
    | none => some q) none

/-- The first match from a place on: where it starts and where it ends. The number bounds the starts. -/
def search (m : Manner) (r : Regex) : Nat → Place → Option (Place × Place)
  | 0, _ => none
  | n + 1, p =>
    match longest m r p with
    | some q => some (p, q)
    | none => (p.next?).bind fun (_, q) => search m r n q

def find? (m : Manner) (r : Regex) (text : List Char) : Option (Place × Place) :=
  search m r (text.length + 1) (.ofText text)

def isFound (m : Manner) (r : Regex) (text : List Char) : Bool := (find? m r text).isSome

/-- Text that matches only itself. -/
def literal (text : List Char) : Regex := text.foldr (fun c r => .sequence (.one (.exactly c)) r) .empty

/-! ### Reading -/

structure Dialect where
  /-- Signs have a meaning without a backslash, not with it. -/
  isExtended : Bool
  /-- Backslashes mean something within brackets. -/
  hasBracketEscapes : Bool := false
  /-- Backslashes may stand before letters for characters that are hard to write. -/
  hasLetters : Bool := false
  /-- A sign that repeats has to stand behind something. -/
  isStrict : Bool := false
  hasBounds : Bool := true

/-- Why an expression is refused. -/
inductive Error where
  | openBracket
  | openGroup
  | closedGroup
  | openBounds
  | wrongBounds
  | nothingRepeated
  | backReference
  | trailingBackslash
  | className
  /-- A class stands in one pair of brackets. -/
  | classBrackets
  | rangeEnd
  | collation
  | invalid
  | tooBig
deriving DecidableEq

def Error.message : Error → String
  | .openBracket => "Unmatched [, [^, [:, [., or [="
  | .openGroup => "Unmatched ( or \\("
  | .closedGroup => "Unmatched ) or \\)"
  | .openBounds => "Unmatched \\\x7b"
  | .wrongBounds => "Invalid content of \\\x7b\\\x7d"
  | .nothingRepeated => "Invalid preceding regular expression"
  | .backReference => "Invalid back reference"
  | .trailingBackslash => "Trailing backslash"
  | .className => "Invalid character class name"
  | .classBrackets => "character class syntax is [[:space:]], not [:space:]"
  | .rangeEnd => "Invalid range end"
  | .collation => "Invalid collation character"
  | .invalid => "Invalid regular expression"
  | .tooBig => "Regular expression too big"

/-- What is left of an expression that is read, and how many groups it has had so far, with those that are closed. -/
structure Source where
  rest : List Char
  groups : Nat := 0
  closed : List Nat := []
  depth : Nat := 0

abbrev Read := StateT Source (Except Error)

namespace Read

def peek : Read (List Char) := do return (← get).rest

def skip (n : Nat) : Read Unit := modify fun s => { s with rest := s.rest.drop n }

/-- The end of a bracket item such as a class: two characters. -/
def itemEnd? (c : Char) (cs : List Char) : Option (List Char × List Char) :=
  let rec go (seen : List Char) : List Char → Option (List Char × List Char)
    | d :: ']' :: rest => if d = c then some (seen.reverse, rest) else go (d :: seen) (']' :: rest)
    | d :: rest => go (d :: seen) rest
    | [] => none
  go [] cs

def digitsIn (base most : Nat) (cs : List Char) : Nat × Nat :=
  let value (c : Char) : Option Nat :=
    (if c.isDigit then some (c.toNat - 48)
      else if 'a' ≤ c.toLower ∧ c.toLower ≤ 'f' then some (c.toLower.toNat - 87) else none).filter (· < base)
  let digits := (cs.take most).takeWhile fun c => (value c).isSome
  (digits.foldl (fun n c => n * base + (value c).getD 0) 0, digits.length)

def letter? (cs : List Char) : Option (Char × Nat) :=
  match cs with
  | 'n' :: _ => some ('\n', 1)
  | 't' :: _ => some ('\t', 1)
  | 'f' :: _ => some ('\x0c', 1)
  | 'v' :: _ => some ('\x0b', 1)
  | 'a' :: _ => some ('\x07', 1)
  | 'r' :: _ => some ('\x0d', 1)
  | 'c' :: c :: _ => some (Char.ofNat (c.toUpper.toNat ^^^ 64), 2)
  | 'd' :: rest => coded 10 3 rest
  | 'o' :: rest => coded 8 3 rest
  | 'x' :: rest => coded 16 2 rest
  | _ => none
where
  coded (base most : Nat) (rest : List Char) : Option (Char × Nat) :=
    let (n, length) := digitsIn base most rest
    if length = 0 then none else some (Char.ofNat (n % 256), length + 1)

def bracketChar (d : Dialect) (cs : List Char) : Except Error (Char × List Char) :=
  match cs with
  | [] => .error .openBracket
  | '[' :: '.' :: rest =>
    match itemEnd? '.' rest with
    | some ([c], rest) => .ok (c, rest)
    | some _ => .error .collation
    | none => .error .openBracket
  | '\\' :: rest =>
    if d.hasBracketEscapes then
      match letter? rest, rest with
      | some (c, n), _ => .ok (c, rest.drop n)
      | none, c :: more => if c = ']' ∨ c = '\\' ∨ c = '/' ∨ c = '"' then .ok (c, more) else .ok ('\\', rest)
      | none, [] => .error .openBracket
    else if d.hasLetters then
      match letter? rest with
      | some (c, n) => .ok (c, rest.drop n)
      | none => .ok ('\\', rest)
    else .ok ('\\', rest)
  | c :: rest => .ok (c, rest)

/-- The ranges within brackets up to their end; the number bounds them. -/
def bracketRanges (d : Dialect) (first : Bool) : Nat → List Char → Except Error (List (Char × Char) × List Char)
  | 0, _ => .error .openBracket
  | _, [] => .error .openBracket
  | n + 1, c :: rest => do
    let more (found : List (Char × Char)) (rest : List Char) : Except Error (List (Char × Char) × List Char) := do
      let (ranges, rest) ← bracketRanges d false n rest
      return (found ++ ranges, rest)
    if c = ']' ∧ !first then return ([], rest)
    match c, rest with
    | '[', ':' :: inside =>
      match itemEnd? ':' inside with
      | some (name, rest) =>
        match Pattern.classRanges? (String.ofList name) with
        | some found => more found rest
        | none => .error .className
      | none => .error .openBracket
    | '[', '=' :: inside =>
      match itemEnd? '=' inside with
      | some ([e], rest) => more [(e, e)] rest
      | some _ => .error .collation
      | none => .error .openBracket
    | _, _ =>
      let (low, rest) ← bracketChar d (c :: rest)
      match rest with
      | '-' :: high :: after =>
        if high = ']' then more [(low, low)] rest
        else
          let (high, rest) ← bracketChar d (high :: after)
          if high < low then .error .rangeEnd
          more [(low, high)] rest
      | _ => more [(low, low)] rest

def bracket (d : Dialect) : Read Regex := do
  let cs ← peek
  let (inside, cs) := match cs with
    | '^' :: rest => (false, rest)
    | _ => (true, cs)
  if cs.isEmpty then throw .invalid
  let (ranges, rest) ← bracketRanges d true (cs.length + 1) cs
  let text := cs.take (cs.length - rest.length - 1)
  if text.head? = some ':' ∧ ':' ∈ text.tail ∧ text.any (· ≠ ':') ∧ '[' ∉ text then throw .classBrackets
  modify fun s => { s with rest }
  return .one (.oneOf inside ranges)

/-- Bounds up to their end, after the sign that opens them; none if they are none. -/
def bounds? (d : Dialect) (cs : List Char) : Except Error (Option ((Nat × Option Nat) × List Char)) := do
  let least := cs.takeWhile Char.isDigit
  let number (ds : List Char) : Nat := ((String.ofList ds).toNat?).getD 0
  let rest := cs.drop least.length
  let (most, hasComma, rest) := match rest with
    | ',' :: rest => (rest.takeWhile Char.isDigit, true, rest.dropWhile Char.isDigit)
    | _ => (least, false, rest)
  let close := if d.isExtended then ['\x7d'] else ['\\', '\x7d']
  let wrong (e : Error) : Except Error (Option ((Nat × Option Nat) × List Char)) :=
    if d.isExtended ∧ !d.isStrict then .ok none else .error e
  if least.isEmpty ∧ !hasComma then wrong (if rest.isEmpty then .openBounds else .wrongBounds)
  else if close.isPrefixOf rest then
    let most? := if hasComma ∧ most.isEmpty then none else some (number most)
    if most?.any (· < number least) then .error .wrongBounds
    else if 32767 < max (number least) (most?.getD 0) then .error .tooBig
    else .ok (some ((number least, most?), rest.drop close.length))
  else wrong (if rest.isEmpty then .openBounds else .wrongBounds)

def endsPart (d : Dialect) (depth : Nat) (cs : List Char) : Bool :=
  match d.isExtended, cs with
  | _, [] => true
  | true, '|' :: _ => true
  | true, ')' :: _ => 0 < depth
  | false, '\\' :: '|' :: _ => true
  | false, '\\' :: ')' :: _ => true
  | _, _ => false

def withRepetitions (d : Dialect) : Nat → Regex → Read Regex
  | 0, r => return r
  | n + 1, r => do
    let repeated (length least : Nat) (most : Option Nat) : Read Regex := do
      skip length
      withRepetitions d n (.repeated least most r)
    match d.isExtended, ← peek with
    | _, '*' :: _ => repeated 1 0 none
    | true, '+' :: _ => repeated 1 1 none
    | true, '?' :: _ => repeated 1 0 (some 1)
    | false, '\\' :: '+' :: _ => repeated 2 1 none
    | false, '\\' :: '?' :: _ => repeated 2 0 (some 1)
    | isExtended, cs =>
      let opening := if isExtended then ['\x7b'] else ['\\', '\x7b']
      if d.hasBounds ∧ opening.isPrefixOf cs then
        match ← (bounds? d (cs.drop opening.length) : Except Error _) with
        | some ((least, most), rest) =>
          modify fun s => { s with rest }
          withRepetitions d n (.repeated least most r)
        | none => return r
      else return r

/-- What a backslash and the characters behind it stand for, unless they are part of the structure. -/
def escaped (d : Dialect) (cs : List Char) : Read Regex := do
  let glyph (inside : Bool) (ranges : List (Char × Char)) : Read Regex := do
    skip 1
    return .one (.oneOf inside ranges)
  let wordRanges := [('a', 'z'), ('A', 'Z'), ('0', '9'), ('_', '_')]
  let spaceRanges := (Pattern.classRanges? "space").getD []
  match cs with
  | [] => throw .trailingBackslash
  | c :: _ =>
    match (if d.hasBracketEscapes then none else [('w', (true, wordRanges)), ('W', (false, wordRanges)),
        ('s', (true, spaceRanges)), ('S', (false, spaceRanges))].lookup c) with
    | some (inside, ranges) => glyph inside ranges
    | none =>
      let edge? : Option Regex := if d.hasBracketEscapes then none else
        [('b', Regex.wordEdge true), ('B', .wordEdge false), ('<', .wordStart), ('>', .wordEnd), (Char.ofNat 96, .start),
          ('\'', .finish)].lookup c
      match edge? with
      | some r =>
        skip 1
        return r
      | none =>
        if c.isDigit ∧ c ≠ '0' ∧ !d.hasBracketEscapes then
          skip 1
          let n := c.toNat - 48
          if n ∉ (← get).closed then throw .backReference
          return .back n
        match if d.hasLetters ∨ d.hasBracketEscapes then letter? cs else none with
        | some (e, n) =>
          skip n
          return .one (.exactly e)
        | none =>
          skip 1
          return .one (.exactly c)

def simple (d : Dialect) (next : Read Regex) (length : Nat) (r : Regex) : Read Regex := do
  skip length
  let r ← withRepetitions d (← peek).length r
  return .sequence r (← next)

def inGroup (d : Dialect) (alternatives next : Read Regex) : Read Regex := do
  let number := (← get).groups + 1
  modify fun s => { s with groups := number, depth := s.depth + 1 }
  let inside ← alternatives
  match d.isExtended, ← peek with
  | true, ')' :: _ => skip 1
  | false, '\\' :: ')' :: _ => skip 2
  | _, _ => throw .openGroup
  modify fun s => { s with closed := number :: s.closed, depth := s.depth - 1 }
  simple d next 0 (.group number inside)

mutual

def alternatives (d : Dialect) : Nat → Read Regex
  | 0 => throw .tooBig
  | n + 1 => do
    let first ← part d n true
    match d.isExtended, ← peek with
    | true, '|' :: _ =>
      skip 1
      return .either first (← alternatives d n)
    | false, '\\' :: '|' :: _ =>
      skip 2
      return .either first (← alternatives d n)
    | _, _ => return first

/-- Reads what stands in a row; at its start a sign that repeats has nothing to repeat. -/
def part (d : Dialect) : Nat → Bool → Read Regex
  | 0, _ => throw .tooBig
  | n + 1, isFirst => do
    let cs ← peek
    if endsPart d (← get).depth cs then return .empty
    let isSign (c : Char) : Bool := c = '*' || (d.isExtended && (c = '+' || c = '?' || (c = '\x7b' && d.hasBounds)))
    match cs with
    | [] => return .empty
    | '^' :: rest =>
      if isFirst ∨ d.isExtended then
        skip 1
        let starred := !d.isExtended && rest.head? = some '*'
        if starred then
          skip 1
          let r ← withRepetitions d n (.one (.exactly '*'))
          return .sequence .lineStart (.sequence r (← part d n false))
        return .sequence .lineStart (← part d n d.isExtended)
      else simple d (part d n false) 1 (.one (.exactly '^'))
    | '$' :: rest =>
      if d.isExtended ∨ endsPart d (← get).depth rest then
        skip 1
        return .sequence .lineEnd (← part d n false)
      else simple d (part d n false) 1 (.one (.exactly '$'))
    | '.' :: _ => simple d (part d n false) 1 (.one .anything)
    | '[' :: _ =>
      skip 1
      let r ← bracket d
      simple d (part d n false) 0 r
    | '\\' :: rest =>
      match d.isExtended, rest with
      | false, '(' :: _ =>
        skip 2
        inGroup d (alternatives d n) (part d n false)
      | false, '\x7b' :: more =>
        if isFirst then
          if d.isStrict then throw .nothingRepeated
          skip 2
          simple d (part d n false) 0 (.one (.exactly '\x7b'))
        else
          let _ := more
          throw .nothingRepeated
      | _, _ =>
        skip 1
        let r ← escaped d rest
        simple d (part d n false) 0 r
    | '(' :: _ =>
      if d.isExtended then
        skip 1
        inGroup d (alternatives d n) (part d n false)
      else simple d (part d n false) 1 (.one (.exactly '('))
    | ')' :: _ =>
      if d.isExtended ∧ d.isStrict then throw .closedGroup
      simple d (part d n false) 1 (.one (.exactly ')'))
    | c :: rest =>
      if isFirst ∧ isSign c then
        if !d.isExtended then simple d (part d n false) 1 (.one (.exactly c))
        else if d.isStrict then throw .nothingRepeated
        else if c = '\x7b' then
          match ← (bounds? d rest : Except Error _) with
          | some (_, rest) =>
            modify fun s => { s with rest }
            part d n true
          | none => simple d (part d n false) 1 (.one (.exactly c))
        else
          skip 1
          part d n true
      else simple d (part d n false) 1 (.one (.exactly c))

end

end Read

def ofText (d : Dialect) (text : List Char) : Except Error (Regex × Nat) := do
  let (r, s) ← (Read.alternatives d (2 * text.length + 3)).run { rest := text }
  if !s.rest.isEmpty then .error .closedGroup
  return (r, s.groups)

end Regex

end ProcessDiagram.Shell
