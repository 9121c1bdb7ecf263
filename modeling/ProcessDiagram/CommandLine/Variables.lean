import ProcessDiagram.Files.Environment
import ProcessDiagram.Text.Alphanumeric
import ProcessDiagram.Text.Blank
import ProcessDiagram.Text.Utf8

/-! Environment variables, and the file that fills in those that are not set. -/
namespace ProcessDiagram

namespace Variables

inductive Piece where
  | letter (c : Char)
  /-- Stands for the value of a variable, or for nothing if it is not set. -/
  | reference (name : String)
deriving DecidableEq, Repr

/-- A line `KEY=value` of the file. -/
structure Assignment where
  key : String
  value : List Piece
deriving DecidableEq, Repr

def Piece.expand (env : Environment) : Piece → String
  | .letter c => String.singleton c
  | .reference name => (env.value? name).getD ""

def expand (env : Environment) (value : List Piece) : String := String.join (value.map (·.expand env))

/-- An assignment counts only if its variable is not set. -/
def fill (env : Environment) (a : Assignment) : Environment :=
  if (env.value? a.key).isSome then env else env.assign a.key (expand env a.value)

/-- Assignments in order; later ones see what earlier ones set. -/
def fillAll (env : Environment) (assignments : List Assignment) : Environment := assignments.foldl fill env

/-! ### Logical lines -/

/-- How far a logical line has come. Within quotes it goes on over the end of a line. -/
inductive LineState where
  | closed
  | escaped
  | single
  | singleEscaped
  | double
  | doubleEscaped
  /-- After a blank, where a comment can start. -/
  | blank
deriving DecidableEq, Repr

/-- The state after one character; none if a comment starts with it. -/
def LineState.next? (s : LineState) (c : Char) : Option LineState :=
  let outside : LineState :=
    match c with
    | '\\' => .escaped
    | '"' => .double
    | '\'' => .single
    | _ => .closed
  match s with
  | .closed => some (if Text.isBlank c && c != '\n' && c != '\r' then .blank else outside)
  | .blank => if c = '#' then none else some outside
  | .escaped => some .closed
  | .double => some (if c = '\\' then .doubleEscaped else if c = '"' then .closed else .double)
  | .doubleEscaped => some .double
  | .single => some (if c = '\\' then .singleEscaped else if c = '\'' then .closed else .single)
  | .singleEscaped => some .single

/-- Reads a line to its end or to its comment; the part before the comment stays. -/
def LineState.readLine (s : LineState) : List Char → Option LineState × List Char
  | [] => (some s, [])
  | c :: rest =>
    match s.next? c with
    | none => (none, [])
    | some s => let (state, kept) := s.readLine rest; (state, c :: kept)

/-- Joins lines into logical ones, from what a logical line holds so far. A comment ends it. A logical line
without end is dropped. -/
def logicalLines (held : List Char) (s : LineState) : List (List Char) → List (List Char)
  | [] => []
  | line :: rest =>
    if ((held ++ line).dropWhile Text.isBlank).head? = some '#' then logicalLines [] .closed rest
    else
      match s.readLine line with
      | (none, kept) => (held ++ kept) :: logicalLines [] .closed rest
      | (some .closed, kept) => (held ++ kept) :: logicalLines [] .closed rest
      | (some s, kept) => logicalLines (held ++ kept) s rest

def lines : List UInt8 → List (List UInt8)
  | [] => []
  | b :: rest =>
    if b = 10 then [b] :: lines rest
    else
      match lines rest with
      | [] => [[b]]
      | line :: more => (b :: line) :: more

def mapWhile (f : α → Option β) : List α → List β
  | [] => []
  | a :: rest =>
    match f a with
    | some b => b :: mapWhile f rest
    | none => []

/-! ### Assignments -/

/-- Where in a value the reader stands; names are held last letter first. -/
inductive ValueState where
  | plain
  | single
  | double
  | escape (quoted : Bool)
  | name (quoted : Bool) (held : List Char)
  | braced (quoted : Bool) (held : List Char)
  /-- After a blank outside quotes, where only a comment may follow. -/
  | finished

/-- Outside names and escapes. -/
def ValueState.outside (quoted : Bool) : ValueState := if quoted then .double else .plain

private def referenceTo (held : List Char) : Piece := .reference (String.ofList held.reverse)

/-- The pieces of a value. What follows a name without braces stands for itself, whatever it is. -/
def valuePieces : ValueState → List Char → Option (List Piece)
  | .plain, [] => some []
  | .finished, [] => some []
  | .escape false, [] => some []
  | .name false held, [] => some [referenceTo held]
  | _, [] => none
  | .finished, c :: rest =>
    if c = ' ' ∨ c = '\t' then valuePieces .finished rest else if c = '#' then some [] else none
  | .escape quoted, c :: rest =>
    if c ∈ ['\\', '\'', '"', '$', ' '] then (Piece.letter c :: ·) <$> valuePieces (.outside quoted) rest
    else if c = 'n' then (Piece.letter '\n' :: ·) <$> valuePieces (.outside quoted) rest
    else none
  | .single, c :: rest =>
    if c = '\'' then valuePieces .plain rest else (Piece.letter c :: ·) <$> valuePieces .single rest
  | .name quoted held, c :: rest =>
    if Text.isAlphanumeric c then valuePieces (.name quoted (c :: held)) rest
    else if c = '\x7b' ∧ held.isEmpty then valuePieces (.braced quoted []) rest
    else if c = '$' then (referenceTo held :: ·) <$> valuePieces (.name quoted []) rest
    else ([referenceTo held, .letter c] ++ ·) <$> valuePieces (.outside quoted) rest
  | .braced quoted held, c :: rest =>
    if c = '\x7d' then (referenceTo held :: ·) <$> valuePieces (.outside quoted) rest
    else valuePieces (.braced quoted (c :: held)) rest
  | .double, c :: rest =>
    if c = '$' then valuePieces (.name true []) rest
    else if c = '"' then valuePieces .plain rest
    else if c = '\\' then valuePieces (.escape true) rest
    else (Piece.letter c :: ·) <$> valuePieces .double rest
  | .plain, c :: rest =>
    if c = '$' then valuePieces (.name false []) rest
    else if c = '\'' then valuePieces .single rest
    else if c = '"' then valuePieces .double rest
    else if c = '\\' then valuePieces (.escape false) rest
    else if c = ' ' ∨ c = '\t' then valuePieces .finished rest
    else (Piece.letter c :: ·) <$> valuePieces .plain rest

/-- A key and what follows it; a key starts with a letter or an underscore. -/
def readKey (s : List Char) : Option (List Char × List Char) :=
  let isKey (c : Char) : Bool := c.isAlphanum || c = '_' || c = '.'
  match s with
  | c :: _ =>
    if c.isAlpha || c = '_' then some (s.takeWhile isKey, (s.dropWhile isKey).dropWhile Text.isBlank)
    else none
  | [] => none

def afterEquals : List Char → Option (List Char)
  | '=' :: rest => some (rest.dropWhile Text.isBlank)
  | _ => none

/-- The word `export` may stand before a key, and may be one. -/
def readKeyAndEquals (s : List Char) : Option (List Char × List Char) := do
  let (key, rest) ← readKey s
  match afterEquals rest with
  | some value => return (key, value)
  | none =>
    guard (key = "export".toList)
    let (key, rest) ← readKey rest
    return (key, ← afterEquals rest)

/-- Reads a logical line; one that is empty or a comment assigns nothing. -/
def assignment? (line : List Char) : Option (Option Assignment) :=
  let line := Text.trimChars line
  if line.head?.all (· = '#') then some none
  else do
    let (key, value) ← readKeyAndEquals line
    let pieces ← if value.head?.all (· = '#') then some [] else valuePieces .plain value
    return some ⟨String.ofList key, pieces⟩

/-- The assignments of a file up to the first line that is none; a byte order mark is passed over. -/
def assignments (file : List UInt8) : List Assignment :=
  let text := if [0xEF, 0xBB, 0xBF] <+: file then file.drop 3 else file
  let decoded := mapWhile (fun line => String.toList <$> Text.Utf8.decode? line) (lines text)
  (mapWhile assignment? (logicalLines [] .closed decoded)).filterMap id

def references (assignments : List Assignment) : List String :=
  assignments.flatMap fun a => a.value.filterMap fun piece =>
    match piece with
    | .reference name => some name
    | .letter _ => none

end Variables

end ProcessDiagram
