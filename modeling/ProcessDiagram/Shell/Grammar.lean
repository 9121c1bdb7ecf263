import ProcessDiagram.Shell.Token

/-! Scripts read as commands, a line at a time. -/
namespace ProcessDiagram.Shell.Grammar

/-- What kind of list is read: one line, one that has a command, or one that may be empty. -/
inductive ListKind where
  | line
  | full
  | optional
deriving DecidableEq

/-- Names that no function can have: those of commands that are part of the language. -/
def specialNames : List String :=
  [".", ":", "break", "continue", "eval", "exec", "exit", "export", "local", "readonly", "return", "set", "shift", "times",
    "trap", "unset"]

section

variable (grammar : Goal → Grammar Command)

/-! ### Redirections -/

def redirection : Grammar Redirection := do
  let { stream, sign, .. } ← get
  let isDocument : Bool := sign = "<<" ∨ sign = "<<-"
  if (← readToken grammar (← bound) .any isDocument) ≠ .word then unexpected none
  let r ← get
  if isDocument then
    let d : Document := ⟨r.nextDocument, Word.characters r.word, r.isQuoted, sign = "<<-"⟩
    set { r with waiting := r.waiting ++ [d], nextDocument := d.number + 1 }
    return .document stream d.number
  let opening : Opening := match sign with
    | "<" => .read
    | ">>" => .append
    | ">|" => .overwrite
    | "<>" => .readWrite
    | "<&" => .duplicate
    | ">&" => .duplicate
    | _ => .write
  return .file stream opening r.word

def redirections : Nat → Sight → Grammar (List Redirection)
  | 0, _ => exhausted
  | n + 1, sight => do
    if (← token grammar sight) = .redirection then
      let r ← redirection grammar
      return r :: (← redirections n .any)
    putBack
    return []

def expect (t : Token) : Grammar Unit := do
  if (← token grammar .any) ≠ t then unexpected (some t)

def ended (line : Nat) (keyword : String) (body : Command) : Grammar Command := do
  expect grammar (.keyword keyword)
  match ← redirections grammar (← bound) .command with
  | [] => return body
  | rs => return .redirected line body rs

/-! ### Simple commands -/

def function (name : Word) : Grammar Command := do
  expect grammar (.sign ")")
  match (Word.plain? name).filter fun text => isName text.toList ∧ text ∉ specialNames with
  | none => refuse "Bad function name"
  | some name => return .define name (← grammar .body)

def simple (line : Nat) : Nat → List Word → List Word → List Redirection → Grammar Command
  | 0, _, _, _ => exhausted
  | n + 1, assignments, words, rs => do
    match ← token grammar { aliases := words.isEmpty } with
    | .word =>
      let word := (← get).word
      if words.isEmpty ∧ (Word.assignment? word).isSome then simple line n (word :: assignments) words rs
      else simple line n assignments (word :: words) rs
    | .redirection => simple line n assignments words ((← redirection grammar) :: rs)
    | t =>
      match t, words with
      | .sign "(", [name] =>
        if assignments.isEmpty ∧ rs.isEmpty then function grammar name
        else
          putBack
          return .simple line assignments.reverse words.reverse rs.reverse
      | _, _ =>
        putBack
        return .simple line assignments.reverse words.reverse rs.reverse

/-! ### Compound commands -/

/-- From a test on; further tests are those of alternatives. -/
def branches : Nat → Grammar Command
  | 0 => exhausted
  | n + 1 => do
    let test ← grammar .commands
    expect grammar (.keyword "then")
    let yes ← grammar .commands
    match ← token grammar .any with
    | .keyword "elif" => return .branch test yes (← branches n)
    | .keyword "else" => return .branch test yes (← grammar .commands)
    | _ =>
      putBack
      return .branch test yes .nothing

def loop (line : Nat) (onSuccess : Bool) : Grammar Command := do
  let test ← grammar .commands
  expect grammar (.keyword "do")
  ended grammar line "done" (.loop onSuccess test (← grammar .commands))

def values : Nat → Grammar (List Word)
  | 0 => exhausted
  | n + 1 => do
    match ← token grammar .any with
    | .word =>
      let word := (← get).word
      return word :: (← values n)
    | .newLine => return []
    | .sign ";" => return []
    | _ => unexpected none

def each (line : Nat) : Grammar Command := do
  let t ← token grammar .any
  let r ← get
  let some name := (Word.plain? r.word).filter fun text => isName text.toList ∧ t = .word ∧ !r.isQuoted
    | refuse "Bad for loop variable"
  let words ←
    if (← token grammar .afterLines) = .keyword "in" then some <$> values grammar (← bound)
    else
      if (← get).last ≠ .sign ";" then putBack
      pure none
  if (← token grammar .afterLines) ≠ .keyword "do" then unexpected (some (.keyword "do"))
  ended grammar line "done" (.each line name words (← grammar .commands))

/-- The patterns of an arm; the first of them has been read. -/
def patterns : Nat → Grammar (List Word)
  | 0 => exhausted
  | n + 1 => do
    let word := (← get).word
    match ← token grammar .any with
    | .sign "|" =>
      let _ ← token grammar .any
      return word :: (← patterns n)
    | .sign ")" => return [word]
    | _ => unexpected (some (.sign ")"))

def arms : Nat → Grammar (List (List Word × Command))
  | 0 => exhausted
  | n + 1 => do
    let armStart : Sight := { keywords := true, newLines := true }
    let t ← token grammar armStart
    if t = .keyword "esac" then return []
    if t = .sign "(" then
      let _ ← token grammar .any
    let patterns ← patterns grammar (← bound)
    let body ← grammar .optional
    match ← token grammar armStart with
    | .keyword "esac" => return [(patterns, body)]
    | .sign ";;" => return (patterns, body) :: (← arms n)
    | _ => unexpected (some (.sign ";;"))

def choose (line : Nat) : Grammar Command := do
  expect grammar .word
  let subject := (← get).word
  if (← token grammar .afterLines) ≠ .keyword "in" then unexpected (some (.keyword "in"))
  let arms ← arms grammar (← bound)
  match ← redirections grammar (← bound) .command with
  | [] => return .choose line subject arms
  | rs => return .redirected line (.choose line subject arms) rs

def command (sight : Sight) : Grammar Command := do
  let line := (← get).line
  match ← token grammar sight with
  | .keyword "if" => ended grammar line "fi" (← branches grammar (← bound))
  | .keyword "while" => loop grammar line true
  | .keyword "until" => loop grammar line false
  | .keyword "for" => each grammar line
  | .keyword "case" => choose grammar line
  | .keyword "\x7b" => ended grammar line "\x7d" (← grammar .commands)
  | .sign "(" =>
    let body ← grammar .commands
    expect grammar (.sign ")")
    return .subshell line body (← redirections grammar (← bound) .command)
  | .word =>
    putBack
    simple grammar (← get).line (← bound) [] [] []
  | .redirection =>
    putBack
    simple grammar (← get).line (← bound) [] [] []
  | _ => unexpected none

/-! ### Lists -/

def piped : Nat → Grammar (List Command)
  | 0 => exhausted
  | n + 1 => do
    if (← token grammar .any) = .sign "|" then
      let next ← command grammar .afterLines
      return next :: (← piped n)
    putBack
    return []

def pipeline (sight : Sight) : Grammar Command := do
  let isNegated := (← token grammar sight) = .keyword "!"
  if !isNegated then putBack
  let first ← command grammar (if isNegated then .command else .any)
  let more ← piped grammar (← bound)
  let whole := if more.isEmpty then first else .pipe (first :: more)
  return if isNegated then .negated whole else whole

def chain : Nat → Command → Grammar Command
  | 0, _ => exhausted
  | n + 1, first => do
    match ← token grammar .any with
    | .sign "&&" => chain n (.both first (← pipeline grammar .afterLines))
    | .sign "||" => chain n (.either first (← pipeline grammar .afterLines))
    | _ =>
      putBack
      return first

def inBackground : Command → Command
  | .subshell line body rs => .background line body rs
  | .redirected line body rs => .background line body rs
  | body => .background 0 body []

/-- Reads on after some commands; none at the end of a script before any command. -/
def listFrom : Nat → ListKind → Option Command → Grammar (Option Command)
  | 0, _, _ => exhausted
  | n + 1, kind, first => do
    let t ← token grammar { Sight.command with newLines := kind ≠ .line }
    if t = .newLine then
      readDocuments grammar
      return some (first.getD .nothing)
    if t = .finish then
      readDocuments grammar
      putBack
      return if kind = .line then first else some (first.getD .nothing)
    putBack
    if kind = .optional ∧ endsList t then return some (first.getD .nothing)
    let second ← chain grammar (← bound) (← pipeline grammar .any)
    let t ← token grammar .any
    let second := if t = .sign "&" then inBackground second else second
    let both := (first.map (.sequence · second)).getD second
    let later : ListKind := if kind = .line then .line else .optional
    match t with
    | .finish =>
      readDocuments grammar
      putBack
      return both
    | .newLine =>
      putBack
      listFrom n later both
    | .sign "&" => listFrom n later both
    | .sign ";" => listFrom n later both
    | _ =>
      if kind = .line then unexpected none
      putBack
      return both

def list (kind : ListKind) : Grammar Command := do
  return (← listFrom grammar (← bound) kind none).getD .nothing

/-- The commands of a word. A document that waits at the parenthesis that ends them is empty. -/
def output (inParentheses : Bool) : Grammar Command := do
  let waiting := (← get).waiting
  modify fun r => { r with waiting := [] }
  let body ← list grammar .optional
  if inParentheses then
    expect grammar (.sign ")")
    let r ← get
    set { r with rest := [] }
    readDocuments grammar
    modify fun inner => { inner with rest := r.rest, line := r.line }
  else readDocuments grammar
  modify fun r => { r with waiting }
  return body

end

def toDepth : Nat → Goal → Grammar Command
  | 0, _ => exhausted
  | n + 1, .body => command (toDepth n) .afterLines
  | n + 1, .commands => list (toDepth n) .full
  | n + 1, .optional => list (toDepth n) .optional
  | n + 1, .output inParentheses => output (toDepth n) inParentheses

def document (text : String) : Except GrammarError Word := do
  let d : Document := ⟨0, ['\x00'], false, false⟩
  let r : Reader := { rest := text.toList }
  let read : Grammar Scan := do scanFrom (toDepth (← bound)) (some d) false .double
  let (s, _) ← read.run r
  return s.current.reverse

/-- Reads the next line with its commands; none at the end of the script. -/
def line : Grammar (Option Command) := do
  modify fun r => { r with again := false, waiting := [] }
  let n ← bound
  listFrom (toDepth n) n .line none

end ProcessDiagram.Shell.Grammar
