import ProcessDiagram.Shell.Command

/-! Scripts read as tokens. What is put into a word is read along with it, so that a script within a word ends
where its commands end. -/
namespace ProcessDiagram.Shell

/-- Why a script is refused, and on which line. -/
structure GrammarError where
  line : Nat
  text : String

inductive Token where
  | finish
  | newLine
  | sign (text : String)
  | redirection
  | word
  | keyword (text : String)
deriving DecidableEq

def Token.describe : Token → String
  | .finish => "end of file"
  | .newLine => "newline"
  | .sign text => "\"" ++ text ++ "\""
  | .redirection => "redirection"
  | .word => "word"
  | .keyword text => "\"" ++ text ++ "\""

/-- A document that is yet to be read: its lines go up to one that is a given text. Nothing is put into a literal
document; tabs may be taken from the start of its lines. -/
structure Document where
  number : Nat
  text : List Char
  literal : Bool
  stripped : Bool

/-- Where the reader of a script stands. -/
structure Reader where
  rest : List Char
  line : Nat := 1
  /-- The last token, and whether it is to be read once more. -/
  last : Token := .newLine
  again : Bool := false
  /-- The last word, and whether some of it was quoted. -/
  word : Word := []
  isQuoted : Bool := false
  /-- The stream and the sign of the last redirection. -/
  stream : Nat := 0
  sign : String := ""
  waiting : List Document := []
  /-- The documents read, by their numbers. -/
  documents : List (Nat × Word) := []
  nextDocument : Nat := 0
  aliases : List (String × String) := []
  /-- Aliases whose texts are being read, with how much is left after them. -/
  inUse : List (String × Nat) := []

/-- Reads a script from the front. -/
abbrev Grammar := StateT Reader (Except GrammarError)

inductive Goal where
  /-- A command after any ends of lines, as the body of a function is. -/
  | body
  /-- Commands of which there has to be one. -/
  | commands
  /-- Commands up to a sign at which they end. -/
  | optional
  /-- The commands in a word, up to a parenthesis or to the end of a text. -/
  | output (inParentheses : Bool)
deriving DecidableEq

namespace Grammar

def refuse (text : String) : Grammar α := do throw ⟨(← get).line, text⟩

/-- Nothing is read in so few steps. -/
def exhausted : Grammar α := refuse "out of steps"

/-! ### Characters -/

def joinLines : Grammar Unit :=
  modify fun r => go r r.rest
where
  go (r : Reader) : List Char → Reader
    | '\\' :: '\n' :: rest => go { r with rest, line := r.line + 1 } rest
    | _ => r

def peek : Grammar (Option Char) := do
  joinLines
  return (← get).rest.head?

def drop : Grammar Unit := modify fun r => { r with rest := r.rest.tail }

def next : Grammar (Option Char) := do
  let c ← peek
  drop
  return c

def unread (c : Option Char) : Grammar Unit := modify fun r => { r with rest := c.toList ++ r.rest }

def nextIs (c : Char) : Grammar Bool := do
  if (← peek) = some c then
    drop
    return true
  return false

/-- Takes characters on the joined lines as long as they are of a kind, at most so many. -/
def takeWhile (p : Char → Bool) : Nat → Grammar (List Char)
  | 0 => return []
  | n + 1 => do
    match ← peek with
    | some c =>
      if p c then
        drop
        return c :: (← takeWhile p n)
      return []
    | none => return []

/-! ### Parts of words -/

/-- How characters are taken. -/
inductive Mode where
  | base
  | double
  | single
  | arithmetic
deriving DecidableEq

inductive Role where
  | newLine
  | plain
  /-- Stands for itself where there are quotes. -/
  | guarded
  | backslash
  | singleQuote
  | doubleQuote
  | endQuote
  | dollar
  | endBrace
  | openParenthesis
  | closeParenthesis
  | backquote
  /-- Ends a word. -/
  | ends

/-- Characters that would mean something in a pattern or at the start of a path. -/
def isGuarded (c : Char) : Bool := c ∈ ['!', '*', '?', '[', '=', '~', ':', '/', '-', ']']

def Mode.role (m : Mode) (c : Char) : Role :=
  match m, c with
  | _, '\n' => .newLine
  | .single, '\'' => .endQuote
  | .single, _ => if isGuarded c || c = '\\' then .guarded else .plain
  | _, '\\' => .backslash
  | _, '`' => .backquote
  | _, '$' => .dollar
  | _, '\x7d' => .endBrace
  | .double, '"' => .endQuote
  | .double, _ => if isGuarded c then .guarded else .plain
  | .arithmetic, '(' => .openParenthesis
  | .arithmetic, ')' => .closeParenthesis
  | .arithmetic, _ => .plain
  | .base, '\'' => .singleQuote
  | .base, '"' => .doubleQuote
  | .base, _ => if c ∈ ['<', '>', '(', ')', ';', '&', '|', ' ', '\t'] then .ends else .plain

/-- One level of a word. -/
structure Level where
  mode : Mode
  isDouble : Bool := false
  /-- How many parameters are open, and how many of them within double quotes. -/
  braces : Nat := 0
  doubleBraces : Nat := 0
  /-- Within double quotes within a parameter. -/
  innerQuotes : Bool := false
  parentheses : Nat := 0
  /-- The level ends with the parameter that it began with. -/
  ofParameter : Bool := false

/-- What a part that is still open will be. -/
inductive Opener where
  | parameter (name : String) (t : Treatment) (emptyIsNone : Bool)
  | number

/-- A word that is being read: its levels, and its parts with the last first. -/
structure Scan where
  top : Level
  below : List Level := []
  current : List Part := []
  outer : List (Opener × List Part) := []
  isQuoted : Bool := false

namespace Scan

def add (s : Scan) (p : Part) : Scan := { s with current := p :: s.current }

def begin (s : Scan) (o : Opener) : Scan := { s with current := [], outer := (o, s.current) :: s.outer }

def finish (s : Scan) : Scan :=
  match s.outer with
  | (.parameter name t emptyIsNone, before) :: outer =>
    { s with current := .parameter name t emptyIsNone s.current.reverse :: before, outer }
  | (.number, before) :: outer => { s with current := .number s.current.reverse :: before, outer }
  | [] => s

def push (s : Scan) (l : Level) : Scan := { s with top := l, below := s.top :: s.below }

def pop (s : Scan) : Scan :=
  match s.below with
  | l :: below => { s with top := l, below }
  | [] => s

/-- Turns inner quotes on or off, and marks quotes in a word. A document has no marks. -/
def quote (s : Scan) (isDouble inWord : Bool) : Scan :=
  let s := if isDouble ∧ 0 < s.top.braces then { s with top.innerQuotes := !s.top.innerQuotes } else s
  if inWord then s.add .mark else s

/-- Begins a parameter. A pattern is a level of its own. -/
def beginParameter (s : Scan) (name : String) (t : Treatment) (emptyIsNone : Bool) : Scan :=
  let mode := match t with
    | .withoutStart _ => .base
    | .withoutEnd _ => .base
    | _ => if s.top.mode = .arithmetic then .double else s.top.mode
  let s := if mode ≠ s.top.mode ∨ s.top.innerQuotes then
    s.push { mode, ofParameter := true, isDouble := mode ≠ .base } else s
  let s := { s with top.braces := s.top.braces + 1 }
  let s := if s.top.isDouble then { s with top.doubleBraces := s.top.doubleBraces + 1 } else s
  s.begin (.parameter name t emptyIsNone)

def finishParameter (s : Scan) : Scan :=
  let s := { s with top.braces := s.top.braces - 1 }
  let s :=
    if s.top.braces = 0 ∧ s.top.ofParameter then s.pop
    else if 0 < s.top.doubleBraces then { s with top.doubleBraces := s.top.doubleBraces - 1 }
    else s
  s.finish

end Scan

def isSpecialParameter (c : Char) : Bool := c.isDigit || c ∈ ['#', '?', '$', '!', '-', '@', '*']

/-- What the sign after a name in braces says: what is done, whether an empty value counts as none, and whether
a word follows. -/
def treatment (c : Option Char) : Grammar (Treatment × Bool × Bool) := do
  match c with
  | some '%' => return (.withoutEnd (← nextIs '%'), false, true)
  | some '#' => return (.withoutStart (← nextIs '#'), false, true)
  | some '\x7d' => return (.plain, false, false)
  | some ':' => return (check (← next), true, true)
  | c => return (check c, false, true)
where
  check : Option Char → Treatment
    | some '-' => .byDefault
    | some '+' => .alternative
    | some '?' => .required
    | some '=' => .assigned
    | _ => .senseless

def parameterName : Grammar String := do
  let n := (← get).rest.length + 1
  match ← peek with
  | some c => String.ofList <$> takeWhile (if c.isDigit then Char.isDigit else isNameChar) n
  | none => return ""

def braced (s : Scan) : Grammar Scan := do
  let senseless : Scan := s.beginParameter "" .senseless false
  let treated (name : String) : Grammar Scan := do
    let (t, emptyIsNone, hasWord) ← treatment (← next)
    return if hasWord then s.beginParameter name t emptyIsNone else s.add (.parameter name .plain false [])
  let measured (name : String) : Grammar Scan := do
    return if (← peek) = some '\x7d' then s.beginParameter name .length false else senseless
  match ← peek with
  | none => return senseless
  | some '\x7d' => return senseless
  | some '#' =>
    drop
    let c ← peek
    if c.any isNameChar then measured (← parameterName)
    else
      drop
      if c ≠ some '\x7d' ∧ (← peek) = some '\x7d' then
        if c.any isSpecialParameter then measured (String.ofList c.toList) else return senseless
      else
        unread c
        treated "#"
  | some c =>
    if isNameChar c then treated (← parameterName)
    else
      drop
      if isSpecialParameter c then treated (String.singleton c) else return senseless

/-- The text between backquotes: what a backslash protects there loses its backslash. The number bounds the
characters. -/
def backquoted (isDouble : Bool) : Nat → Grammar (List Char)
  | 0 => refuse "EOF in backquote substitution"
  | n + 1 => do
    match ← next with
    | none => refuse "EOF in backquote substitution"
    | some '`' => return []
    | some '\\' =>
      match (← get).rest with
      | [] => refuse "EOF in backquote substitution"
      | c :: rest =>
        modify fun r => { r with rest }
        let protects := c ∈ ['\\', '`', '$'] ∨ (isDouble ∧ c = '"')
        return (if protects then [c] else ['\\', c]) ++ (← backquoted isDouble n)
    | some '\n' =>
      modify fun r => { r with line := r.line + 1 }
      return '\n' :: (← backquoted isDouble n)
    | some c => return c :: (← backquoted isDouble n)

def endsHere (d : Document) : Grammar Bool := do
  if d.stripped then modify fun r => { r with rest := r.rest.dropWhile (· = '\t') }
  let r ← get
  if !d.text.isPrefixOf r.rest then return false
  match r.rest.drop d.text.length with
  | [] =>
    set { r with rest := [], line := r.line + 1 }
    return true
  | '\n' :: rest =>
    set { r with rest, line := r.line + 1 }
    return true
  | _ => return false

section

variable (grammar : Goal → Grammar Command)

def outputIn (text : Option (List Char)) : Grammar Part := do
  let r ← get
  match text with
  | none =>
    let body ← grammar (.output true)
    return .output body
  | some text =>
    set { r with rest := text, line := 1, again := false, inUse := [] }
    let body ← grammar (.output false)
    modify fun inner => { inner with rest := r.rest, line := r.line, again := false, inUse := r.inUse }
    return .output body

/-- What follows a dollar sign. Nothing is put into a word that ends a document. -/
def dollar (endsDocument : Bool) (s : Scan) : Grammar Scan := do
  match ← peek with
  | none => return s.add (.char '$')
  | some c =>
    if endsDocument then return s.add (.char '$')
    else if c = '(' then
      drop
      if ← nextIs '(' then return (s.push { mode := .arithmetic, isDouble := true }).begin .number
      return s.add (← outputIn grammar none)
    else if c = '\x7b' then
      drop
      braced s
    else if isNameStart c then return s.add (.parameter (← parameterName) .plain false [])
    else if isSpecialParameter c then
      drop
      return s.add (.parameter (String.singleton c) .plain false [])
    else return s.add (.char '$')

def scan (d : Option Document) (endsDocument : Bool) : Nat → Bool → Scan → Grammar Scan
  | 0, _, _ => exhausted
  | n + 1, atStart, s => do
    if s.top.mode ≠ .single then joinLines
    let isDone ← match d with
      | some d => if atStart then endsHere d else pure false
      | none => pure false
    if isDone then return s
    match (← get).rest with
    | [] => return s
    | c :: _ =>
      let plain (p : Part) : Grammar Scan := do
        drop
        scan d endsDocument n false (s.add p)
      match s.top.mode.role c with
      | .ends => if s.top.braces = 0 then return s else plain (.char c)
      | .newLine =>
        if s.top.mode = .base ∧ s.top.braces = 0 then return s
        drop
        modify fun r => { r with line := r.line + 1 }
        scan d endsDocument n true (s.add (.char c))
      | .plain => plain (.char c)
      | .guarded => plain (if d.isNone ∨ s.top.isDouble then .escaped c else .char c)
      | .backslash =>
        drop
        match (← get).rest with
        | [] => scan d endsDocument n false (s.add (.escaped '\\'))
        | c :: rest =>
          modify fun r => { r with rest, line := if c = '\n' then r.line + 1 else r.line }
          let isKept := s.top.isDouble ∧ c ∉ ['\\', '`', '$'] ∧ (c ≠ '"' ∨ (d.isSome ∧ s.top.braces = 0)) ∧
            (c ≠ '\x7d' ∨ s.top.braces = 0)
          let s := if isKept then s.add (.escaped '\\') else s
          scan d endsDocument n false { s.add (.escaped c) with isQuoted := true }
      | .singleQuote =>
        drop
        scan d endsDocument n false ({ s with top.mode := .single }.quote false d.isNone)
      | .doubleQuote =>
        drop
        scan d endsDocument n false ({ s with top.mode := .double, top.isDouble := true }.quote true d.isNone)
      | .endQuote =>
        if d.isSome ∧ s.top.braces = 0 then plain (.char c)
        else
          drop
          let s := if s.top.doubleBraces = 0 then { s with top.mode := .base, top.isDouble := false } else s
          scan d endsDocument n false ({ s with isQuoted := true }.quote (c = '"') d.isNone)
      | .dollar =>
        drop
        scan d endsDocument n false (← dollar grammar endsDocument s)
      | .endBrace =>
        if !s.top.innerQuotes ∧ 0 < s.top.braces then
          drop
          scan d endsDocument n false s.finishParameter
        else plain (.char c)
      | .openParenthesis =>
        drop
        scan d endsDocument n false { s.add (.char c) with top.parentheses := s.top.parentheses + 1 }
      | .closeParenthesis =>
        drop
        if 0 < s.top.parentheses then
          scan d endsDocument n false { s.add (.char c) with top.parentheses := s.top.parentheses - 1 }
        else if ← nextIs ')' then scan d endsDocument n false s.pop.finish
        else scan d endsDocument n false (s.add (.char c))
      | .backquote =>
        drop
        if endsDocument then scan d endsDocument n false { s.add (.char c) with isQuoted := true }
        else
          let text ← backquoted s.top.isDouble ((← get).rest.length + 1)
          scan d endsDocument n false (s.add (← outputIn grammar (some text)))

def scanFrom (d : Option Document) (endsDocument : Bool) (mode : Mode) : Grammar Scan := do
  let n := (← get).rest.length
  let s ← scan grammar d endsDocument (n + 2) true { top := { mode, isDouble := mode = .double } }
  if s.top.mode = .arithmetic then refuse "Missing '))'"
  if s.top.mode ≠ .base ∧ d.isNone then refuse "Unterminated quoted string"
  if s.top.braces ≠ 0 then refuse "Missing '\x7d'"
  return s

def readDocuments : Grammar Unit := do
  let waiting := (← get).waiting
  modify fun r => { r with waiting := [] }
  for d in waiting do
    let s ← scanFrom grammar (some d) false (if d.literal then .single else .double)
    modify fun r => { r with documents := (d.number, s.current.reverse) :: r.documents }

/-! ### Tokens -/

def keywords : List String :=
  ["!", "case", "do", "done", "elif", "else", "esac", "fi", "for", "if", "in", "then", "until", "while", "\x7b",
    "\x7d"]

def endsList : Token → Bool
  | .finish => true
  | .sign text => text = ")" || text = ";;"
  | .keyword text => text ∈ ["do", "done", "elif", "else", "esac", "fi", "then", "\x7d"]
  | _ => false

def unexpected (expected : Option Token) : Grammar α := do
  refuse ((← get).last.describe ++ " unexpected" ++
    (expected.elim "" fun t => " (expecting " ++ t.describe ++ ")"))

def putBack : Grammar Unit := modify fun r => { r with again := true }

/-- What is looked for in a token: keywords, aliases, and whether ends of lines are passed over. -/
structure Sight where
  keywords : Bool := false
  aliases : Bool := false
  newLines : Bool := false

def Sight.command : Sight := ⟨true, true, false⟩

def Sight.afterLines : Sight := ⟨true, true, true⟩

def Sight.any : Sight := {}

def redirectionSign : Grammar String := do
  if ← nextIs '>' then
    if ← nextIs '>' then return ">>"
    if ← nextIs '|' then return ">|"
    if ← nextIs '&' then return ">&"
    return ">"
  drop
  if ← nextIs '<' then return if ← nextIs '-' then "<<-" else "<<"
  if ← nextIs '&' then return "<&"
  if ← nextIs '>' then return "<>"
  return "<"

def takeSign (one : Char) (two : Option Char) : Grammar Token := do
  drop
  if let some c := two then
    if ← nextIs c then return .sign (String.ofList [one, c])
  return .sign (String.singleton one)

def setLast (t : Token) : Grammar Token := do
  modify fun r => { r with last := t }
  return t

def readWord (endsDocument : Bool) : Grammar Token := do
  let s ← scanFrom grammar none endsDocument .base
  let word := s.current.reverse
  let isRedirection := (← get).rest.head?.any (· ∈ ['<', '>']) ∧ !s.isQuoted ∧
    ((Word.plain? word).any fun text => text.length ≤ 1 ∧ text.all Char.isDigit)
  if isRedirection then
    let sign ← redirectionSign
    let stream := ((Word.plain? word).bind String.toNat?).getD (if sign.startsWith "<" then 0 else 1)
    modify fun r => { r with stream, sign }
    setLast .redirection
  else
    modify fun r => { r with word, isQuoted := s.isQuoted }
    setLast .word

def skipBlanks : Nat → Grammar Unit
  | 0 => return ()
  | n + 1 => do
    match ← peek with
    | some ' ' =>
      drop
      skipBlanks n
    | some '\t' =>
      drop
      skipBlanks n
    | some '#' => modify fun r => { r with rest := r.rest.dropWhile (· ≠ '\n') }
    | _ => return ()

def readRaw (endsDocument : Bool) : Grammar Token := do
  let r ← get
  if r.again then
    set { r with again := false }
    return r.last
  skipBlanks (r.rest.length + 1)
  match ← peek with
  | none => setLast .finish
  | some '\n' =>
    modify fun r => { r with rest := r.rest.tail, line := r.line + 1 }
    setLast .newLine
  | some '&' => setLast (← takeSign '&' '&')
  | some '|' => setLast (← takeSign '|' '|')
  | some ';' => setLast (← takeSign ';' ';')
  | some '(' => setLast (← takeSign '(' none)
  | some ')' => setLast (← takeSign ')' none)
  | some _ => readWord grammar endsDocument

/-- Forgets aliases whose texts are read to the end; says whether one ended in a blank, so that the next word may
be an alias as well. -/
def leaveAliases : Grammar Bool := do
  let r ← get
  let (inside, left) := r.inUse.partition fun (_, n) => n < r.rest.length
  set { r with inUse := inside }
  return left.any fun (name, _) => (r.aliases.lookup name).any fun text => text.endsWith " " || text.endsWith "\t"

def expandAlias : Grammar Bool := do
  let r ← get
  match (Word.plain? r.word).bind fun name => (r.aliases.lookup name).map (name, ·) with
  | none => return false
  | some (name, text) =>
    if r.inUse.any (·.1 = name) then return false
    set { r with rest := text.toList ++ r.rest, inUse := (name, r.rest.length) :: r.inUse }
    return true

def readToken : Nat → Sight → Bool → Grammar Token
  | 0, _, _ => exhausted
  | n + 1, sight, endsDocument => do
    let t ← readRaw grammar endsDocument
    if sight.newLines ∧ t = .newLine then
      readDocuments grammar
      readToken n sight endsDocument
    else
      let mayBeAlias ← leaveAliases
      if t ≠ .word ∨ (← get).isQuoted then return t
      match (Word.plain? (← get).word).filter fun text => sight.keywords ∧ text ∈ keywords with
      | some text => setLast (.keyword text)
      | none =>
        let isAlias ← if sight.aliases ∨ mayBeAlias then expandAlias else pure false
        if isAlias then readToken n sight endsDocument else return t

/-- How many tokens may be read in a row at most: those of the rest, and those of aliases. -/
def bound : Grammar Nat := do
  let r ← get
  return 16 * (r.rest.length + r.aliases.foldl (fun n (_, text) => n + text.length) 0 + 16)

def token (sight : Sight) : Grammar Token := do readToken grammar (← bound) sight false

end

end Grammar

end ProcessDiagram.Shell
