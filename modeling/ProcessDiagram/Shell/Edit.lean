import ProcessDiagram.Shell.Regex

/-! Scripts that edit lines: each instruction says which lines it is about, and what is done with them. -/
namespace ProcessDiagram.Shell.Edit

/-- What a line is compared with; none is the expression that was used last. -/
abbrev Expression := Option (Regex × Regex.Manner)

inductive Address where
  | line (n : Nat)
  /-- A line, and then every so many lines. -/
  | step (first every : Nat)
  | last
  | matching (e : Expression)

/-- Where a range of lines ends. -/
inductive RangeEnd where
  | line (n : Nat)
  | after (n : Nat)
  | multiple (n : Nat)
  | last
  | matching (e : Expression)

inductive Casing where
  | upper
  | lower
  | plain
  | nextUpper
  | nextLower
deriving DecidableEq

inductive ReplacementPart where
  | text (cs : List Char)
  /-- What a group has matched, or all for zero. -/
  | group (n : Nat)
  | casing (c : Casing)

structure Substitution where
  expression : Expression
  replacement : List ReplacementPart
  everywhere : Bool := false
  which : Nat := 1
  prints : Bool := false
  target : Option String := none

inductive Deed where
  | openBlock
  | closeBlock
  | label (name : String)
  | branch (onReplaced : Option Bool) (name : String)
  | before (text : List Char)
  | after (text : List Char)
  | instead (text : List Char)
  | substitute (s : Substitution)
  | translate (pairs : List (Char × Char))
  | quit (prints : Bool) (status : Nat)
  | list (width : Option Nat)
  | readFile (name : String)
  | readLine (name : String)
  | writeFile (name : String)
  | writeLine (name : String)
  /-- One of the deeds that are a letter and nothing else. -/
  | simple (letter : Char)

structure Instruction where
  first : Option Address := none
  last : Option RangeEnd := none
  turned : Bool := false
  deed : Deed

/-- What is wrong with a script: where, if that is known, and what. -/
structure Fault where
  place : Option Nat
  text : String

/-- What is left of a script that is read, and how much has been read. -/
structure Source where
  rest : List Char
  count : Nat := 0
  dialect : Regex.Dialect
  /-- How many blocks are open. -/
  depth : Nat := 0
  /-- The script begins with the sign that lines are not shown. -/
  isSilent : Bool := false

/-- Steps of reading a script. -/
abbrev Read := StateT Source (Except Fault)

namespace Read

def refuse (text : String) : Read α := do throw ⟨some (← get).count, text⟩

def peek? : Read (Option Char) := do return (← get).rest.head?

def next? : Read (Option Char) := do
  let s ← get
  match s.rest with
  | c :: rest =>
    set { s with rest, count := s.count + 1 }
    return some c
  | [] => return none

def skipWhile (p : Char → Bool) : Read (List Char) := do
  let s ← get
  let found := s.rest.takeWhile p
  set { s with rest := s.rest.drop found.length, count := s.count + found.length }
  return found

def isBlank (c : Char) : Bool := c = ' ' || c = '\t'

def isSpace (c : Char) : Bool := c = ' ' || ('\t' ≤ c && c ≤ '\r')

def nextSolid? : Read (Option Char) := do
  let _ ← skipWhile isBlank
  next?

def number : Read Nat := do
  return ((String.ofList (← skipWhile Char.isDigit)).toNat?).getD 0

def upToClosing (sign : Char) : Nat → Read (Option (List Char))
  | 0 => return none
  | n + 1 => do
    match (← get).rest with
    | c :: d :: _ =>
      if c = '\n' then return none
      let _ ← next?
      if c = sign ∧ d = ']' then
        let _ ← next?
        return some [c, d]
      return (← upToClosing sign n).map (c :: ·)
    | _ => return none

def inBrackets : Nat → Read (Option (List Char))
  | 0 => return none
  | n + 1 => do
    match ← peek? with
    | none => return none
    | some '\n' => return none
    | some c =>
      let _ ← next?
      if c = ']' then return some [c]
      match (← get).rest.head? with
      | some d =>
        if c = '[' ∧ d ∈ [':', '.', '='] then
          let _ ← next?
          let some name ← upToClosing d n | return none
          return (← inBrackets n).map (c :: d :: name ++ ·)
        if c = '\\' ∧ d = 'n' then
          let _ ← next?
          return (← inBrackets n).map ('\n' :: ·)
        return (← inBrackets n).map (c :: ·)
      | none => return none

/-- Reads up to a delimiter; none if the line or the script ends before. A delimiter after a backslash is a
character, and so is one within the brackets of an expression. The number bounds the characters. -/
def upTo (delimiter : Char) (isExpression : Bool) : Nat → Read (Option (List Char))
  | 0 => return none
  | n + 1 => do
    match ← peek? with
    | none => return none
    | some '\n' => return none
    | some c =>
      let _ ← next?
      if c = delimiter then return some []
      if c = '[' ∧ isExpression then
        let before ← if (← peek?) = some '^' then next? else pure none
        let first ← if (← peek?) = some ']' then next? else pure none
        let some set ← inBrackets n | return none
        return (← upTo delimiter isExpression n).map (c :: before.toList ++ first.toList ++ set ++ ·)
      if c = '\\' then
        match ← next? with
        | none => return none
        | some d =>
          let text := if d = '\n' ∨ (d = delimiter ∧ (isExpression ∨ d ≠ '&')) then [d]
            else if d = 'n' ∧ isExpression then ['\n'] else ['\\', d]
          return (← upTo delimiter isExpression n).map (text ++ ·)
      return (← upTo delimiter isExpression n).map (c :: ·)

def textUpTo (delimiter : Char) (isExpression : Bool) : Read (Option (List Char)) := do
  upTo delimiter isExpression ((← get).rest.length + 1)

def expression (text : List Char) (anyCase byLines : Bool) : Read (Expression × Option Nat) := do
  if text.isEmpty then
    if anyCase ∨ byLines then refuse "cannot specify modifiers on empty regexp"
    return (none, none)
  match Regex.ofText (← get).dialect text with
  | .ok (r, groups) => return (some (r, { anyCase, byLines }), some groups)
  | .error e => refuse e.message

def addressExpression (delimiter : Char) : Read Expression := do
  match ← textUpTo delimiter true with
  | none => refuse "unterminated address regex"
  | some text =>
    let rec flags : Nat → Read (List Char)
      | 0 => return []
      | n + 1 => do
        let blanks := (← get).rest.takeWhile isBlank
        match (← get).rest[blanks.length]? with
        | some c =>
          if c = 'I' ∨ c = 'M' then
            let _ ← nextSolid?
            return c :: (← flags n)
          return []
        | none => return []
    let found ← flags ((← get).rest.length)
    return (← expression text ('I' ∈ found) ('M' ∈ found)).1

def address? (c : Option Char) : Read (Option Address) := do
  match c with
  | some '$' => return some .last
  | some '/' => return some (.matching (← addressExpression '/'))
  | some '\\' =>
    match ← next? with
    | some d => return some (.matching (← addressExpression d))
    | none => refuse "unterminated address regex"
  | some d =>
    if !d.isDigit then return none
    modify fun s => { s with rest := d :: s.rest, count := s.count - 1 }
    let n ← number
    let _ ← skipWhile isBlank
    if (← peek?) = some '~' then
      let _ ← next?
      let _ ← skipWhile isBlank
      let every ← number
      return some (if every = 0 then .line n else .step n every)
    return some (.line n)
  | none => return none

def rangeEnd? (c : Option Char) : Read (Option RangeEnd) := do
  if c = some '+' ∨ c = some '~' then
    let _ ← skipWhile isBlank
    let n ← number
    return some (if c = some '+' then .after n else .multiple n)
  return (← address? c).map fun
    | .line n => .line n
    | .step n _ => .line n
    | .last => .last
    | .matching e => .matching e

def endOfCommand : Read Unit := do
  let _ ← skipWhile isBlank
  match ← peek? with
  | none => return ()
  | some c =>
    if c = '\x7d' ∨ c = '#' then return ()
    let _ ← next?
    if c ≠ '\n' ∧ c ≠ ';' then refuse "extra characters after command"

def labelName : Read String := do
  let _ ← skipWhile isBlank
  return String.ofList (← skipWhile fun c => !isSpace c && c ≠ ';' && c ≠ '\x7d')

def fileName : Read String := do
  let _ ← skipWhile isBlank
  let name ← skipWhile (· ≠ '\n')
  if name.isEmpty then refuse "missing filename in r/R/w/W commands"
  return String.ofList name

def putText : Nat → List Char → List Char × List Char
  | n + 1, '\\' :: cs =>
    match cs with
    | [] => ([], [])
    | '\n' :: rest =>
      let (text, rest) := putText n rest
      ('\n' :: text, rest)
    | c :: rest =>
      let (d, length) := (Regex.Read.letter? cs).getD (c, 1)
      let (text, rest) := putText n (if length = 1 then rest else cs.drop length)
      (d :: text, rest)
  | _, '\n' :: rest => ([], rest)
  | n + 1, c :: cs =>
    let (text, rest) := putText n cs
    (c :: text, rest)
  | _, _ => ([], [])

def insertion : Read (List Char) := do
  match ← nextSolid? with
  | none => refuse "expected \\ after \x60a\x27, \x60c\x27 or \x60i\x27"
  | some c =>
    if c = '\\' then
      let blanks := (← get).rest.takeWhile isBlank
      if (← get).rest[blanks.length]? = some '\n' then
        let _ ← skipWhile isBlank
        let _ ← next?
    else modify fun s => { s with rest := c :: s.rest, count := s.count - 1 }
    let s ← get
    if s.rest.isEmpty then return []
    let (text, rest) := putText (s.rest.length + 1) s.rest
    set { s with rest, count := s.count + (s.rest.length - rest.length) }
    return text ++ ['\n']

def replacementParts : Nat → List Char → List ReplacementPart
  | n + 1, '\\' :: c :: rest =>
    let casing? := [('U', Casing.upper), ('L', .lower), ('E', .plain), ('u', .nextUpper), ('l', .nextLower)].lookup c
    match casing? with
    | some casing => .casing casing :: replacementParts n rest
    | none =>
      if c.isDigit then .group (c.toNat - 48) :: replacementParts n rest
      else
        match Regex.Read.letter? (c :: rest) with
        | some (d, length) => .text [d] :: replacementParts n ((c :: rest).drop length)
        | none => .text [c] :: replacementParts n rest
  | n + 1, '&' :: rest => .group 0 :: replacementParts n rest
  | n + 1, c :: rest => .text [c] :: replacementParts n rest
  | _, _ => []

def flags : Nat → List Char → Substitution → Read (List Char × Substitution)
  | 0, seen, s => return (seen, s)
  | n + 1, seen, s => do
    match ← next? with
    | none => return (seen, s)
    | some c =>
      if c = '\n' ∨ c = ';' then return (seen, s)
      else if c = '\x7d' ∨ c = '#' then
        modify fun s => { s with rest := c :: s.rest, count := s.count - 1 }
        return (seen, s)
      else if isBlank c then flags n seen s
      else if c = 'i' ∨ c = 'I' then flags n ('I' :: seen) s
      else if c = 'm' ∨ c = 'M' then flags n ('M' :: seen) s
      else if c = 'p' then
        if s.prints then refuse "multiple \x60p\x27 options to \x60s\x27 command"
        flags n seen { s with prints := true }
      else if c = 'g' then
        if s.everywhere then refuse "multiple \x60g\x27 options to \x60s\x27 command"
        flags n seen { s with everywhere := true }
      else if c.isDigit then
        modify fun s => { s with rest := c :: s.rest, count := s.count - 1 }
        if '1' ∈ seen then
          let _ ← next?
          refuse "multiple number options to \x60s\x27 command"
        let which ← number
        if which = 0 then refuse "number option to \x60s\x27 command may not be zero"
        flags n ('1' :: seen) { s with which }
      else if c = 'w' then
        let name ← fileName
        return (seen, { s with target := some name })
      else refuse "unknown option to \x60s\x27"

def substitution : Read Deed := do
  let unterminated : Read Deed := refuse "unterminated \x60s\x27 command"
  match ← next? with
  | none => unterminated
  | some delimiter =>
    let some pattern ← textUpTo delimiter true | unterminated
    let some replacement ← textUpTo delimiter false | unterminated
    let parts := replacementParts (replacement.length + 1) replacement
    let (seen, s) ← flags ((← get).rest.length + 1) [] { expression := none, replacement := parts }
    let (expression, groups) ← expression pattern ('I' ∈ seen) ('M' ∈ seen)
    let highest := (parts.filterMap fun | .group n => some n | _ => none).foldl max 0
    if groups.any (· < highest) then
      refuse ("invalid reference \\" ++ toString highest ++ " on \x60s\x27 command's RHS")
    return .substitute { s with expression }

def translationChars (delimiter : Char) : Nat → List Char → Option (List Char)
  | n + 1, '\\' :: c :: rest =>
    if c = '\\' ∨ c = delimiter then (translationChars delimiter n rest).map (c :: ·)
    else
      match Regex.Read.letter? (c :: rest) with
      | some (d, length) => (translationChars delimiter n ((c :: rest).drop length)).map (d :: ·)
      | none => none
  | n + 1, c :: rest => (translationChars delimiter n rest).map (c :: ·)
  | _, _ => some []

def translation : Read Deed := do
  let unterminated : Read Deed := refuse "unterminated \x60y\x27 command"
  match ← next? with
  | none => unterminated
  | some delimiter =>
    let some source ← textUpTo delimiter false | unterminated
    let some target ← textUpTo delimiter false | unterminated
    match translationChars delimiter (source.length + 1) source, translationChars delimiter (target.length + 1) target with
    | some source, some target =>
      if source.length ≠ target.length then refuse "strings for \x60y\x27 command are different lengths"
      endOfCommand
      return .translate (source.zip target)
    | _, _ => refuse "\x60y\x27 command strings have different lengths"

def deed (c : Char) (hasAddress hasRange : Bool) : Read Deed := do
  let one : Read Unit := do if hasRange then refuse "command only uses one address"
  match c with
  | '\x7b' =>
    modify fun s => { s with depth := s.depth + 1 }
    return .openBlock
  | '\x7d' =>
    if (← get).depth = 0 then refuse "unexpected \x60\x7d\x27"
    if hasAddress then refuse "\x7d doesn't want any addresses"
    modify fun s => { s with depth := s.depth - 1 }
    endOfCommand
    return .closeBlock
  | ':' =>
    if hasAddress then refuse ": doesn't want any addresses"
    let name ← labelName
    if name = "" then refuse "\":\" lacks a label"
    return .label name
  | 'b' => return .branch none (← labelName)
  | 't' => return .branch (some true) (← labelName)
  | 'T' => return .branch (some false) (← labelName)
  | 'a' => return .after (← insertion)
  | 'i' => return .before (← insertion)
  | 'c' => return .instead (← insertion)
  | 's' => substitution
  | 'y' => translation
  | 'r' => return .readFile (← fileName)
  | 'R' => return .readLine (← fileName)
  | 'w' => return .writeFile (← fileName)
  | 'W' => return .writeLine (← fileName)
  | 'v' =>
    let _ ← labelName
    return .simple 'v'
  | _ =>
    if c = 'q' ∨ c = 'Q' then
      one
      let _ ← skipWhile isBlank
      let status ← number
      endOfCommand
      return .quit (c = 'q') status
    else if c = 'l' then
      let _ ← skipWhile isBlank
      let digits ← skipWhile Char.isDigit
      endOfCommand
      return .list (String.ofList digits).toNat?
    else if c ∈ ['=', 'd', 'D', 'F', 'g', 'G', 'h', 'H', 'n', 'N', 'p', 'P', 'x', 'z'] then
      endOfCommand
      return .simple c
    else refuse ("unknown command: \x60" ++ String.singleton c ++ "\x27")

/-- The next instruction, unless the script is at its end. -/
def instruction? : Read (Option Instruction) := do
  let _ ← skipWhile fun c => c = ';' || isSpace c
  match ← next? with
  | none => return none
  | some c =>
    if c = '+' ∨ c = '~' then
      let _ ← number
      refuse "invalid usage of +N or ~N as first address"
    let first ← address? (some c)
    let _ ← if first.isSome then skipWhile isBlank else pure []
    let next ← if first.isSome then next? else pure (some c)
    let (stop, next) ← if first.isSome ∧ next = some ',' then do
        let _ ← skipWhile isBlank
        match ← rangeEnd? (← next?) with
        | none => refuse "unexpected \x60,\x27"
        | some stop => pure (some stop, ← nextSolid?)
      else pure (none, next)
    match first, stop with
    | some (.line 0), some (.matching _) => pure ()
    | some (.line 0), _ => refuse "invalid usage of line address 0"
    | _, _ => pure ()
    let (turned, next) ← if next = some '!' then do
        let next ← nextSolid?
        if next = some '!' then refuse "multiple \x60!\x27s"
        pure (true, next)
      else pure (false, next)
    match next with
    | none => refuse "missing command"
    | some '\n' => refuse "missing command"
    | some ';' => refuse "missing command"
    | some '#' =>
      if first.isSome then refuse "comments don't accept any addresses"
      let atStart := (← get).count = 1
      let text ← skipWhile (· ≠ '\n')
      if atStart ∧ text = ['n'] then modify fun s => { s with isSilent := true }
      return some { deed := .simple '#' }
    | some c => return some { first, last := stop, turned, deed := ← deed c first.isSome stop.isSome }

/-- All instructions; the number bounds them. -/
def instructions : Nat → Read (List Instruction)
  | 0 => return []
  | n + 1 => do
    match ← instruction? with
    | none =>
      if (← get).depth ≠ 0 then throw ⟨some 0, "unmatched \x60\x7b\x27"⟩
      return []
    | some i => return i :: (← instructions n)

end Read

def ofText (isExtended : Bool) (text : List Char) : Except Fault (Array Instruction × Bool) := do
  let dialect : Regex.Dialect := { isExtended, hasLetters := true, isStrict := true }
  let (found, s) ← (Read.instructions (text.length + 1)).run { rest := text, dialect }
  let labels := found.filterMap fun i => match i.deed with
    | .label name => some name
    | _ => none
  for i in found do
    if let .branch _ name := i.deed then
      if name ≠ "" ∧ name ∉ labels then throw ⟨none, "can't find label for jump to \x60" ++ name ++ "\x27"⟩
  return (found.toArray, s.isSilent)

/-! ### Substitutions -/

/-- A replacement as far as it is put together: what letters become, those that follow and the next one. -/
structure Filling where
  text : List Char := []
  casing : Casing := .plain
  nextCasing : Option Casing := none

def Filling.add (f : Filling) (cs : List Char) : Filling :=
  let cased (cs : List Char) : List Char := match f.casing with
    | .upper => cs.map Char.toUpper
    | .lower => cs.map Char.toLower
    | _ => cs
  match cs, f.nextCasing with
  | [], _ => f
  | c :: rest, some .nextUpper => { f with text := f.text ++ c.toUpper :: cased rest, nextCasing := none }
  | c :: rest, some .nextLower => { f with text := f.text ++ c.toLower :: cased rest, nextCasing := none }
  | cs, _ => { f with text := f.text ++ cased cs }

def fill (whole : List Char) (groups : List (Nat × List Char)) (parts : List ReplacementPart) : List Char :=
  (parts.foldl (fun (f : Filling) part =>
    match part with
    | .text cs => f.add cs
    | .group 0 => f.add whole
    | .group n => f.add ((groups.lookup n).getD [])
    | .casing .nextUpper => { f with nextCasing := some .nextUpper }
    | .casing .nextLower => { f with nextCasing := some .nextLower }
    | .casing c => { f with casing := c, nextCasing := none }) {}).text

/-- Replaces matches from a place on: the one with a number, and those after it if so asked. No empty match directly
follows another match. The other number bounds the matches. -/
def replaceFrom (m : Regex.Manner) (r : Regex) (s : Substitution) :
    Nat → Nat → Option Nat → Regex.Place → Option (List Char)
  | 0, _, _, _ => none
  | n + 1, which, lastEnd, start => do
    let (p, q) ← Regex.search m r (start.rest.length + 1) { start with groups := [] }
    let skipped := start.upTo p
    let whole := p.upTo q
    if whole.isEmpty ∧ lastEnd = some p.position then
      let (c, next) ← p.next?
      return skipped ++ c :: (← replaceFrom m r s n which none next)
    let next := { q with groups := [] }
    if which ≤ 1 then
      let new := skipped ++ fill whole q.groups s.replacement
      if s.everywhere then
        return new ++ (replaceFrom m r s n which (some q.position) next).getD next.rest
      else return new ++ next.rest
    else return skipped ++ whole ++ (← replaceFrom m r s n (which - 1) (some q.position) next)

def replace (m : Regex.Manner) (r : Regex) (s : Substitution) (text : List Char) : Option (List Char) :=
  replaceFrom m r s (2 * text.length + 2) s.which none (.ofText text)

end ProcessDiagram.Shell.Edit
