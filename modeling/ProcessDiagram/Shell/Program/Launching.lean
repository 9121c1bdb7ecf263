import ProcessDiagram.Decimal.Rounded
import ProcessDiagram.Shell.Program.Directories

/-! Programs that start others, perhaps for a time. -/
namespace ProcessDiagram.Shell.Utility

open ProcessDiagram.Shell.Action

/-! ### Programs started by others -/

def startInPlace (sys : System) (env : Environment) (complaint : String → FileError → String) :
    List String → Action Nat
  | [] => return 0
  | target :: words => do
    match ← sys.start true env target words with
    | .ok status => return status
    | .error e =>
      warn (complaint target e)
      return if e = .notFound then 127 else 126

structure EnvPlan where
  env : Environment
  lineEnd : String := "\n"
  dir : Option String := none
  words : List String := []

/-- Words in a text, between blanks; quotes and backslashes protect. The number bounds the characters. -/
def splitWords : Nat → Option Char → Option (List Char) → List Char → List String
  | 0, _, _, _ => []
  | _, _, current, [] => (current.map fun cs => String.ofList cs.reverse).toList
  | n + 1, quote, current, c :: rest =>
    let word := current.getD []
    match quote with
    | some q =>
      if c = q then splitWords n none (some word) rest
      else
        match c, rest with
        | '\\', d :: more => if q = '"' then splitWords n quote (some (d :: word)) more else splitWords n quote (some (c :: word)) rest
        | _, _ => splitWords n quote (some (c :: word)) rest
    | none =>
      if c = ' ' ∨ c = '\t' then (current.map fun cs => String.ofList cs.reverse).toList ++ splitWords n none none rest
      else if c = '\'' ∨ c = '"' then splitWords n (some c) (some word) rest
      else
        match c, rest with
        | '\\', d :: more => splitWords n none (some (d :: word)) more
        | _, _ => splitWords n none (some (c :: word)) rest

/-- Reads options that clear the variables, take one away, or split a word into words; then come words of the form
`name=value`. The number bounds the words. -/
def envPlan : Nat → EnvPlan → List String → Except String EnvPlan
  | 0, _, _ => .error "argument list too long"
  | _, p, [] => .ok p
  | n + 1, p, word :: rest =>
    match word.toList with
    | ['-', '-'] => assignments p rest
    | ['-'] => assignments { p with env := [] } rest
    | '-' :: '-' :: name =>
      let (name, value?) := (name.takeWhile (· ≠ '='), (name.dropWhile (· ≠ '=')).tail)
      match String.ofList name with
      | "ignore-environment" => envPlan n { p with env := [] } rest
      | "null" => envPlan n { p with lineEnd := "\x00" } rest
      | "unset" => envPlan n { p with env := p.env.filter (·.1 ≠ String.ofList value?) } rest
      | "chdir" => envPlan n { p with dir := some (String.ofList value?) } rest
      | "debug" => envPlan n p rest
      | "split-string" => envPlan n p (splitWords (value?.length + 1) none none value? ++ rest)
      | _ => .error ("unrecognized option " ++ Quoting.word word)
    | '-' :: 'i' :: more => envPlan n { p with env := [] } (if more.isEmpty then rest else ("-" ++ String.ofList more) :: rest)
    | '-' :: 'v' :: more => envPlan n p (if more.isEmpty then rest else ("-" ++ String.ofList more) :: rest)
    | '-' :: '0' :: more =>
      envPlan n { p with lineEnd := "\x00" } (if more.isEmpty then rest else ("-" ++ String.ofList more) :: rest)
    | '-' :: c :: text =>
      if c ∉ ['u', 'C', 'S'] then .error ("invalid option -- '" ++ String.singleton c ++ "'")
      else if text.isEmpty ∧ rest.isEmpty then .error ("option requires an argument -- '" ++ String.singleton c ++ "'")
      else
        let (value, rest) := if text.isEmpty then (rest.headD "", rest.tail) else (String.ofList text, rest)
        if c = 'u' then envPlan n { p with env := p.env.filter (·.1 ≠ value) } rest
        else if c = 'C' then envPlan n { p with dir := some value } rest
        else envPlan n p (splitWords (value.length + 1) none none value.toList ++ rest)
    | _ => assignments p (word :: rest)
where
  assignments (p : EnvPlan) (words : List String) : Except String EnvPlan :=
    let given := words.takeWhile (·.toList.contains '=')
    let env := given.foldl (fun env word =>
      let name := word.toList.takeWhile (· ≠ '=')
      Environment.assign env (String.ofList name) (String.ofList (word.toList.drop (name.length + 1)))) p.env
    .ok { p with env, words := words.drop given.length }

def env (sys : System) : Utility := fun words => do
  let length := words.foldl (fun n word => n + word.length) 0
  match envPlan (length + words.length + 2) { env := (← get).environment } words with
  | .error text =>
    warn text
    hint 125
  | .ok p =>
    if let some dir := p.dir then
      match (← get).tree.resolve (toText dir) with
      | .ok place => modify fun s => { s with tree := { s.tree with workDir := place } }
      | .error e =>
        warn ("cannot change directory to " ++ Quoting.path dir ++ ": " ++ e.reason)
        return 125
    match p.words with
    | [] =>
      emit 1 (String.join (p.env.texts.map (· ++ p.lineEnd)))
      return 0
    | target :: words =>
      match ← sys.start true p.env target words with
      | .ok status => return status
      | .error e =>
        warn (Quoting.word target ++ ": " ++ e.reason)
        if e = .notFound ∧ ' ' ∈ target.toList then warn "use -[v]S to pass options in shebang lines"
        return if e = .notFound then 127 else 126

def wrapper (letters : String) (complaint : String → String) (sys : System) : Utility := fun words =>
  withOptions { letters, inOrder := true } (hint 125) words fun o => do
    if o.words.isEmpty then
      warn "missing operand"
      return (← hint 125)
    startInPlace sys (← get).environment (fun target e => complaint target ++ ": " ++ e.reason) o.words

def nohup : System → Utility := wrapper "" fun target => "failed to run command " ++ Quoting.path target

def stdbuf : System → Utility := wrapper "i:o:e:" fun target => "failed to run command " ++ Quoting.word target

def setsid : System → Utility := wrapper "cfw" fun target => "failed to execute " ++ target

/-- A program that lowers the rank of another; on its own it tells the rank. -/
def nice (sys : System) : Utility := fun words =>
  withOptions { letters := "n:", names := [("adjustment", 'n')], inOrder := true } (hint 125) words fun o => do
    if o.words.isEmpty then
      emit 1 "0\n"
      return 0
    startInPlace sys (← get).environment (fun target e => Quoting.word target ++ ": " ++ e.reason) o.words

/-! ### Time -/

def duration? (word : String) : Option Nat := do
  match Decimal.readNumber? word.toList with
  | some (.number x, rest) =>
    let unit ← match rest with
      | [] => some 1
      | ['s'] => some 1
      | ['m'] => some 60
      | ['h'] => some 3600
      | ['d'] => some 86400
      | _ => none
    return x.num * 1000 * unit / x.den
  | some (.infinite, []) => some (Nat.pow 10 12)
  | _ => none

def sleep (sys : System) : Utility := fun words =>
  withOptions "" (hint 1) words fun o => do
    if o.words.isEmpty then return (← misused "missing operand")
    let wrong := o.words.filter fun word => (duration? word).isNone
    if !wrong.isEmpty then
      for word in wrong do warn ("invalid time interval " ++ Quoting.word word)
      return (← hint 1)
    sys.pass ((o.words.filterMap duration?).foldl (· + ·) 0)
    return 0

def timeout (sys : System) : Utility := fun words =>
  withOptions { letters := "fk:ps:v", names := [("foreground", 'f'), ("kill-after", 'k'), ("preserve-status", 'p'),
    ("signal", 's'), ("verbose", 'v')], inOrder := true } (hint 125) words fun o => do
      match o.words with
      | limit :: target :: words =>
        match duration? limit with
        | none =>
          warn ("invalid time interval " ++ Quoting.word limit)
          hint 125
        | some limit =>
          let s ← get
          match ← sys.start false s.environment target words with
          | .ok status =>
            let late := limit ≠ 0 && limit < (← get).clock - s.clock
            return if !late then status else if o.value? 's' ∈ [some "KILL", some "9", some "SIGKILL"] then 137 else 124
          | .error e =>
            warn ("failed to run command " ++ Quoting.word target ++ ": " ++ e.reason)
            return if e = .notFound then 127 else 126
      | _ => hint 125

/-! ### Words of the input -/

/-- Words of a text, for programs: quotes and backslashes protect. None if a quote is not closed. The number bounds the
characters. -/
def inputWords : Nat → Option (List Char) → List Char → Except Char (List String)
  | 0, _, _ => .ok []
  | _, current, [] => .ok ((current.map fun cs => String.ofList cs.reverse).toList)
  | n + 1, current, c :: rest =>
    let word := current.getD []
    if c = ' ' ∨ c = '\t' ∨ c = '\n' then
      ((current.map fun cs => String.ofList cs.reverse).toList ++ ·) <$> inputWords n none rest
    else if c = '\'' ∨ c = '"' then
      let quoted := rest.takeWhile fun d => d ≠ c && d ≠ '\n'
      match rest.drop quoted.length with
      | d :: more => if d = c then inputWords n (some (quoted.reverse ++ word)) more else .error c
      | [] => .error c
    else
      match c, rest with
      | '\\', d :: more => inputWords n (some (d :: word)) more
      | _, _ => inputWords n (some (c :: word)) rest

/-- Items so many at a time; the number bounds the groups. -/
def chunks (size : Nat) : Nat → List α → List (List α)
  | 0, _ => []
  | _, [] => []
  | n + 1, items => items.take size :: chunks size n (items.drop size)

def xargsOptions : OptionTable where
  letters := "0a:d:E:e::I:i::L:l::n:opP:rs:tx"
  names := [("null", '0'), ("arg-file", 'a'), ("delimiter", 'd'), ("replace", 'i'), ("max-lines", 'l'),
    ("max-args", 'n'), ("max-procs", 'P'), ("no-run-if-empty", 'r'), ("verbose", 't'), ("exit", 'x')]
  inOrder := true

def delimiterOf (text : String) : Char :=
  match text.toList with
  | '\\' :: c :: rest => (Format.escape (c :: rest)).1
  | c :: _ => c
  | [] => '\x00'

def xargs (sys : System) : Utility := fun words =>
  withOptions xargsOptions (hint 1) words fun o => do
    let text ← match o.value? 'a' with
      | some file => contents takeAll file
      | none => takeAll
    match text with
    | .error e =>
      warn ((match o.value? 'a' with
        | some file => "Cannot open input file " ++ Quoting.path file ++ ": "
        | none => "read error: ") ++ e.reason)
      return 1
    | .ok text =>
      let replaced := match o.value? 'I', o.value? 'i' with
        | some r, _ => some r
        | none, some r => some (if r = "" then "\x7b\x7d" else r)
        | none, none => none
      let byDelimiter (c : Char) : List String :=
        let pieces := text.splitOn (String.singleton c)
        if pieces.getLast? = some "" then pieces.dropLast else pieces
      let items : Except Char (List String) :=
        if o.has '0' then .ok (byDelimiter '\x00')
        else match o.value? 'd' with
          | some d => .ok (byDelimiter (delimiterOf d))
          | none =>
            if replaced.isSome then
              ((bareLines text).filter fun line => line.toList.any fun c => c ≠ ' ' && c ≠ '\t').mapM fun line => do
                let rest := line.toList.dropWhile fun c => c = ' ' || c = '\t'
                let protectedText := rest.flatMap fun c => if c = ' ' ∨ c = '\t' then ['\\', c] else [c]
                return String.join (← inputWords (2 * line.length + 1) none protectedText)
            else inputWords (text.length + 1) none text.toList
      match items with
      | .error c =>
        warn ("unmatched " ++ (if c = '"' then "double" else "single") ++
          " quote; by default quotes are special to xargs unless you use the -0 option")
        return 1
      | .ok items =>
        let command := if o.words.isEmpty then ["echo"] else o.words
        let (target, fixed) := (command.headD "", command.tail)
        let size? := ((o.value? 'n').orElse fun _ => o.value? 'L').bind String.toNat?
        let runs : List (List String) := match replaced, size? with
          | some mark, _ => items.map fun item => (target :: fixed).map fun word =>
              if mark = "" then word else word.replace mark item
          | none, some n =>
            if items.isEmpty then (if o.has 'r' then [] else [target :: fixed])
            else (chunks (max n 1) items.length items).map fun group => target :: (fixed ++ group)
          | none, none => if items.isEmpty ∧ o.has 'r' then [] else [target :: (fixed ++ items)]
        let environment := (← get).environment
        let mut status := 0
        for run in runs do
          if o.has 't' then emit 2 (" ".intercalate (run.map Quoting.name) ++ "\n")
          let i ← addChannel (.device .null)
          let result ← keepingStreams do
            connect 0 (some i)
            sys.start false environment (run.headD "") run.tail
          match result with
          | .ok 0 => pure ()
          | .ok 255 =>
            warn (run.headD "" ++ ": exited with status 255; aborting")
            return 124
          | .ok n =>
            if 128 < n ∧ n < 160 then
              warn (run.headD "" ++ ": terminated by signal " ++ toString (n - 128))
              return 125
            status := 123
          | .error e =>
            warn (run.headD "" ++ ": " ++ e.reason)
            return if e = .notFound then 127 else 126
        return status

end ProcessDiagram.Shell.Utility
