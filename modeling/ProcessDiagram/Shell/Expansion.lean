import ProcessDiagram.Shell.Arithmetic
import ProcessDiagram.Shell.Pattern
import ProcessDiagram.Shell.State
import ProcessDiagram.Shell.Token

/-! What words stand for: parameters, outputs of commands and numbers put in, and the fields that come of it. -/
namespace ProcessDiagram.Shell

/-- A character of an expanded word. -/
inductive Cell where
  | char (c : Char)
  /-- Stands for itself in a pattern. -/
  | escaped (c : Char)
  /-- Quotes, which make a field even where nothing is in them. -/
  | mark
  /-- One argument ends and another begins. -/
  | cut
deriving DecidableEq

/-- Where a piece of a word is cut into fields. -/
inductive Region where
  | nowhere
  | atSeparators
  | betweenArguments
deriving DecidableEq

structure Piece where
  region : Region
  cells : List Cell

structure Manner where
  /-- For fields. -/
  toFields : Bool := false
  toPattern : Bool := false
  quoted : Bool := false
  /-- For a word in braces. -/
  inBraces : Bool := false
  /-- A tilde may stand at the front. -/
  tilde : Bool := false
  /-- A tilde may stand after a colon and after the first equals sign. -/
  assignment : Bool := false
  pastSign : Bool := false

namespace Cell

def char? : Cell → Option Char
  | .char c => some c
  | .escaped c => some c
  | .mark => none
  | .cut => some '\x00'

/-- The text of cells: what is between arguments ends it. -/
def text (cells : List Cell) : String := String.ofList (cells.filterMap char?)

/-- The text of a pattern. A backslash that stems from a value protects what follows it as well. -/
def patternText (cells : List Cell) : List Char := go true false cells
where
  go (isFree inQuotes : Bool) : List Cell → List Char
    | [] => []
    | .mark :: rest => go isFree (!inQuotes) rest
    | .char '\\' :: rest => '\\' :: go (!isFree) inQuotes rest
    | .char c :: rest => c :: go true inQuotes rest
    | .cut :: rest => '\x00' :: go true inQuotes rest
    | .escaped c :: rest =>
      (if isFree then ['\\'] else if inQuotes then ['\\', '\\'] else []) ++ c :: go true inQuotes rest

end Cell

namespace Expansion

def Manner.keeps (m : Manner) : Bool := m.toFields || m.toPattern

def valueCells (m : Manner) (text : List Char) : List Cell :=
  text.map fun c => if Manner.keeps m && m.quoted && (Grammar.isGuarded c || c = '\\') then .escaped c else .char c

/-! ### Fields -/

/-- Where the cutting of a word into fields stands; the last cell and the last field stand first. -/
structure Cutting where
  fields : List (List Cell) := []
  current : List Cell := []
  /-- After a blank separator, which may be followed by others that end the same field. -/
  afterBlank : Bool := false
  /-- How many fields may still begin, if that is limited. -/
  left : Option Nat := none
  /-- The last field up to where separators begin that are not part of it. -/
  trimmed : Option (List Cell) := none
  lastRegion : Region := .nowhere

def isBlankSeparator (c : Char) : Bool := c ∈ [' ', '\t', '\n']

/-- Goes on with a cell of a piece in which fields are cut. -/
def Cutting.step (separators : List Char) (plainOnly counts : Bool) (s : Cutting) (cell : Cell) : Cutting :=
  let isSeparator := cell = .cut || (!plainOnly && (cell.char?).any (· ∈ separators))
  let isBlank := isSeparator && (cell = .cut || (cell.char?).any isBlankSeparator)
  let added : Cutting := { s with current := cell :: s.current }
  if s.left = some 0 then
    if isBlank then { added with trimmed := s.trimmed.orElse fun _ => some s.current }
    else { added with trimmed := if isSeparator && s.afterBlank then s.trimmed else none, afterBlank := false }
  else if s.afterBlank then
    if isBlank then { s with current := [] }
    else if isSeparator then { s with current := [], afterBlank := false }
    else { added with afterBlank := false }
  else if isSeparator then
    let afterBlank := counts && isBlank
    if s.current.isEmpty && afterBlank then s
    else if s.left = some 1 then { added with left := some 0, trimmed := some s.current, afterBlank }
    else { s with fields := s.current.reverse :: s.fields, current := [], afterBlank, left := s.left.map (· - 1) }
  else added

def Cutting.add (separators : List Char) (s : Cutting) (p : Piece) : Cutting :=
  match p.region with
  | .nowhere => { s with current := p.cells.reverse ++ s.current }
  | region =>
    let plainOnly := region = .betweenArguments
    let counts := !plainOnly && s.lastRegion ≠ .betweenArguments
    let s := p.cells.foldl (Cutting.step separators plainOnly counts) { s with afterBlank := false }
    { s with lastRegion := region }

/-- The fields of a word, of which there may be a limited number. Separators that are blanks count together. -/
def fieldsOf (separators : List Char) (most : Option Nat) (pieces : List Piece) : List (List Cell) :=
  let s := pieces.foldl (Cutting.add separators) { left := most }
  let last := if s.lastRegion = .betweenArguments then s.current else s.trimmed.getD s.current
  if s.lastRegion ≠ .betweenArguments && last.isEmpty then s.fields.reverse
  else (last.reverse :: s.fields).reverse

/-! ### Parameters -/

def optionOrder : List Char := ['u', 'b', 'a', 'C', 'E', 'V', 'v', 'x', 's', 'n', 'm', 'i', 'I', 'f', 'e']

def joined (s : State) (m : Manner) (isStar : Bool) : List Cell :=
  let separator : List Cell :=
    if m.toFields ∧ m.quoted ∧ !isStar then [.cut]
    else
      match s.value? "IFS" with
      | none => valueCells m [' ']
      | some ifs =>
        if m.toFields ∧ !m.quoted then [.cut]
        else valueCells m (ifs.toList.take 1)
  separator.intercalate (s.arguments.map fun a => valueCells m a.toList)

/-- The value of a parameter; none if it is not set. -/
def value? (s : State) (m : Manner) (name : String) : Option (List Cell) :=
  let number (n : Nat) : Option (List Cell) := some (valueCells m (toString n).toList)
  match name with
  | "@" => some (joined s m false)
  | "*" => some (joined s m true)
  | "#" => number s.arguments.length
  | "?" => number s.status
  | "$" => number s.process
  | "!" => s.lastBackground.bind number
  | "-" => some (valueCells m (optionOrder.filter (· ∈ s.options)))
  | "0" => some (valueCells m s.name.toList)
  | _ =>
    if name.toList.head?.any Char.isDigit then
      match name.toNat? with
      | some 0 => some (valueCells m s.name.toList)
      | some n => (s.arguments[n - 1]?).map fun a => valueCells m a.toList
      | none => none
    else (s.value? name).map fun v => valueCells m v.toList

def homes : List (String × String) :=
  [("root", "/root"), ("daemon", "/usr/sbin"), ("bin", "/bin"), ("sys", "/dev"), ("sync", "/bin"),
    ("games", "/usr/games"), ("man", "/var/cache/man"), ("lp", "/var/spool/lpd"), ("mail", "/var/mail"),
    ("news", "/var/spool/news"), ("uucp", "/var/spool/uucp"), ("proxy", "/bin"), ("www-data", "/var/www"),
    ("backup", "/var/backups"), ("list", "/var/list"), ("irc", "/run/ircd"), ("nobody", "/nonexistent")]

def tildeName? (inAssignment : Bool) : List Part → Option (List Char × List Part)
  | [] => some ([], [])
  | .char c :: rest =>
    if c = '/' ∨ (c = ':' ∧ inAssignment) then some ([], .char c :: rest)
    else (tildeName? inAssignment rest).map fun (name, rest) => (c :: name, rest)
  | _ => none

def home? (s : State) (inAssignment : Bool) (parts : List Part) : Option (List Char × Nat) := do
  let (name, rest) ← tildeName? inAssignment parts
  let home ← if name.isEmpty then s.value? "HOME" else homes.lookup (String.ofList name)
  return (home.toList, parts.length - rest.length)

/-- A number worked out; the variables that it assigns are changed. -/
def calculate (text : String) : Action Int := do
  let s ← get
  let store : Arithmetic.Store := {
    value? := fun name => s.value? name
    isReadOnly := fun name => (s.binding? name).any (·.readOnly) }
  match Arithmetic.value store text with
  | .ok (n, changes) =>
    for (name, value) in changes.reverse do
      Action.assign name (toString value)
    return n
  | .error fault => Action.giveUp (fault.complaint text)

def withoutEnd (text : String) : List Char :=
  ((text.toList.filter (· ≠ '\x00')).reverse.dropWhile (· = '\n')).reverse

/-- What is left of a value without a start or an end that a pattern fits. The pattern sees nothing past the end of an
argument: a start that goes on past the first is taken for that one, and an end is that of any argument. -/
def trimmed (t : Treatment) (p : List Glyph) (cells : List Cell) : List Cell :=
  match t with
  | .withoutStart longest =>
    let first := (cells.takeWhile (· ≠ .cut)).filterMap Cell.char?
    match Pattern.startLength? longest p first with
    | none => cells
    | some n => if longest ∧ n = first.length then [] else cells.drop n
  | .withoutEnd longest =>
    let ends := (cells.zipIdx.filter (·.1 = .cut)).map (·.2) ++ [cells.length]
    let starts := ends.filterMap fun i =>
      let argument := (((cells.take i).reverse.takeWhile (· ≠ .cut)).reverse).filterMap Cell.char?
      (Pattern.endLength? longest p argument).map (i - ·)
    cells.take (((if longest then starts.head? else starts.getLast?)).getD cells.length)
  | _ => cells

/-- The piece of a parameter: within quotes only the arguments are cut. -/
def parameterPiece (s : State) (m : Manner) (name : String) (cells : List Cell) : Piece :=
  if !m.quoted then ⟨.atSeparators, cells⟩
  else if name = "@" ∧ !s.arguments.isEmpty then ⟨.betweenArguments, cells⟩
  else ⟨.nowhere, cells⟩

def onlyArguments : List Part → Bool
  | .parameter "@" .plain _ _ :: .mark :: _ => true
  | _ => false

section

variable (output : Command → Action String)

mutual

/-- The pieces of some parts. Some at the front may already be done; quotes may be open. -/
def pieces (m : Manner) (done : Nat) (inQuotes : Bool) (parts : List Part) : Action (List Piece) :=
  match parts with
  | [] => return []
  | part :: rest => do
    if let skipped + 1 := done then return (← pieces m skipped inQuotes rest)
    let s ← get
    let tilde (m : Manner) (after : List Part) : Option (List Char × Nat) :=
      match after with
      | .char '~' :: name => if m.tilde then home? s m.assignment name else none
      | _ => none
    match tilde m (part :: rest) with
    | some (home, n) =>
      let piece : Piece := ⟨.nowhere, valueCells { m with quoted := true } home⟩
      return piece :: (← pieces { m with tilde := false } n inQuotes rest)
    | none =>
      let m := { m with tilde := false }
      match part with
      | .char c =>
        let m := if m.assignment ∧ ((c = '=' ∧ !m.pastSign) ∨ c = ':') then
          { m with tilde := true, pastSign := m.pastSign || c = '=' } else m
        let region := if m.inBraces ∧ !m.quoted ∧ !inQuotes then Region.atSeparators else .nowhere
        return ⟨region, [.char c]⟩ :: (← pieces m 0 inQuotes rest)
      | .escaped c =>
        return ⟨.nowhere, [if Manner.keeps m then .escaped c else .char c]⟩ :: (← pieces m 0 inQuotes rest)
      | .mark =>
        if !inQuotes ∧ onlyArguments rest then
          let quoted := { m with quoted := true }
          let found := (value? s quoted "@").map (parameterPiece s quoted "@")
          return found.toList ++ (← pieces m 2 false rest)
        else
          let found : List Piece := if Manner.keeps m then [⟨.nowhere, [.mark]⟩] else []
          return found ++ (← pieces m 0 (!inQuotes) rest)
      | .parameter name t emptyIsNone word =>
        let found ← parameter { m with quoted := m.quoted || inQuotes } name t emptyIsNone word
        return found ++ (← pieces m 0 inQuotes rest)
      | .output body =>
        let inner := { m with quoted := m.quoted || inQuotes }
        let cells := valueCells inner (withoutEnd (← output body))
        return ⟨if inner.quoted then .nowhere else .atSeparators, cells⟩ :: (← pieces m 0 inQuotes rest)
      | .number expression =>
        let inner := { m with quoted := m.quoted || inQuotes }
        let text := Cell.text ((← pieces {} 0 false expression).flatMap (·.cells))
        let cells := valueCells inner (toString (← calculate text)).toList
        return ⟨if inner.quoted then .nowhere else .atSeparators, cells⟩ :: (← pieces m 0 inQuotes rest)
termination_by sizeOf parts

def parameter (m : Manner) (name : String) (t : Treatment) (emptyIsNone : Bool) (word : List Part) :
    Action (List Piece) := do
  if t = .senseless then Action.giveUp "Bad substitution"
  let s ← get
  let value := value? s m name
  let usable := value.filter fun cells => !(emptyIsNone && cells.isEmpty)
  let wanted : Action (List Cell) := do
    match usable with
    | some cells => return cells
    | none =>
      if 'u' ∈ s.options then Action.giveUp (name ++ ": parameter not set")
      return []
  let inBraces : Manner := { m with tilde := true, inBraces := true }
  match t with
  | .byDefault =>
    match usable with
    | some cells => return [parameterPiece s m name cells]
    | none => pieces inBraces 0 false word
  | .alternative =>
    match usable with
    | some _ => pieces inBraces 0 false word
    | none => return [parameterPiece s m name []]
  | .assigned =>
    match usable with
    | some cells => return [parameterPiece s m name cells]
    | none =>
      let text := Cell.text ((← pieces { tilde := true } 0 false word).flatMap (·.cells))
      if !isName name.toList then Action.giveUp (name ++ ": bad variable name")
      Action.assign name text
      return [parameterPiece s m name (valueCells m text.toList)]
  | .required =>
    match usable with
    | some cells => return [parameterPiece s m name cells]
    | none =>
      let text := Cell.text ((← pieces { tilde := true } 0 false word).flatMap (·.cells))
      Action.giveUp (name ++ ": " ++
        (if !word.isEmpty then text else "parameter not set" ++ (if emptyIsNone then " or null" else "")))
  | .length =>
    let _ ← wanted
    let n := ((value? s { m with toFields := false } name).getD []).length
    return [parameterPiece s m name (valueCells m (toString n).toList)]
  | .withoutStart _ =>
    let cells ← wanted
    if usable.isNone then return []
    let p ← pieces { tilde := true, toPattern := true } 0 false word
    let p := Pattern.ofText (Cell.patternText (p.flatMap (·.cells)))
    return [parameterPiece (← get) m name (trimmed t p cells)]
  | .withoutEnd _ =>
    let cells ← wanted
    if usable.isNone then return []
    let p ← pieces { tilde := true, toPattern := true } 0 false word
    let p := Pattern.ofText (Cell.patternText (p.flatMap (·.cells)))
    return [parameterPiece (← get) m name (trimmed t p cells)]
  | _ =>
    let cells ← wanted
    return if usable.isSome then [parameterPiece s m name cells] else []
termination_by 1 + sizeOf word

end

def cells (m : Manner) (word : Word) : Action (List Cell) := do
  return (← pieces output m 0 false word).flatMap (·.cells)

def text (word : Word) : Action String := Cell.text <$> cells output { tilde := true } word

def assignmentText (word : Word) : Action String := Cell.text <$> cells output { assignment := true } word

def pattern (word : Word) : Action (List Glyph) :=
  (Pattern.ofText ∘ Cell.patternText) <$> cells output { tilde := true, toPattern := true } word

def document (word : Word) : Action String := Cell.text <$> cells output { quoted := true } word

end

/-! ### Names of files -/

/-- Whether a part of a path has a sign of a pattern: a bracket counts only if it is closed. -/
def hasSign : List Char → Bool
  | '\\' :: _ :: rest => hasSign rest
  | '*' :: _ => true
  | '?' :: _ => true
  | '[' :: rest => closes (if rest.head? = some '!' then rest.tail else rest) || hasSign rest
  | _ :: rest => hasSign rest
  | [] => false
where
  /-- Whether a bracket that closes follows the next character. -/
  closes : List Char → Bool
    | '\\' :: _ :: c :: rest => c = ']' || closes (c :: rest)
    | ['\\', _] => false
    | ['\\'] => false
    | _ :: c :: rest => c = ']' || closes (c :: rest)
    | _ => false

/-- The text of a pattern cut at its slashes. -/
def segments : List Char → List (List Char)
  | [] => [[]]
  | '\\' :: '/' :: rest => [] :: segments rest
  | '/' :: rest => [] :: segments rest
  | '\\' :: c :: rest => add ['\\', c] (segments rest)
  | c :: rest => add [c] (segments rest)
where
  add (cs : List Char) : List (List Char) → List (List Char)
    | [] => [cs]
    | first :: more => (cs ++ first) :: more

def bare : List Char → List Char
  | '\\' :: c :: rest => c :: bare rest
  | c :: rest => c :: bare rest
  | [] => []

/-- The names that fit a part of a path in a directory; a name that starts with a dot fits only a dot. -/
def fitting (t : FileTree) (dir : String) (segment : List Char) : List String :=
  match t.resolve (toText (if dir = "" then "." else dir)) with
  | .ok place =>
    if t.entry? place == some .directory then
      let p := Pattern.ofText segment
      let dotted := (bare segment).head? = some '.'
      ("." :: ".." :: (t.namesIn place).map ofText).filter fun name =>
        (dotted || !name.startsWith ".") && Pattern.fits p name.toList
    else []
  | .error _ => []

def paths (t : FileTree) : List (List Char) → String → List String
  | [], dir => [dir]
  | [segment], dir =>
    if hasSign segment then (fitting t dir segment).map (dir ++ ·)
    else
      let path := dir ++ String.ofList (bare segment)
      if (t.resolveLink (toText path)).toOption.isSome then [path] else []
  | segment :: rest, dir =>
    if hasSign segment then (fitting t dir segment).flatMap fun name => paths t rest (dir ++ name ++ "/")
    else paths t rest (dir ++ String.ofList (bare segment) ++ "/")

def textOrder (a b : String) : Bool := !decide (b < a)

/-- The files that a field names as a pattern; if there are none it stands for itself. -/
def expandField (s : State) (field : List Cell) : List String :=
  let parts := segments (Cell.patternText field)
  if 'f' ∈ s.options ∨ !parts.any hasSign then [Cell.text field]
  else
    match (paths s.tree parts "").mergeSort textOrder with
    | [] => [Cell.text field]
    | found => found

def fields (output : Command → Action String) (word : Word) : Action (List String) := do
  let found ← pieces output { toFields := true, tilde := true } 0 false word
  let s ← get
  return (fieldsOf s.separators none found).flatMap (expandField s)

end Expansion

end ProcessDiagram.Shell
