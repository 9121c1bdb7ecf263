import ProcessDiagram.Shell.Process

/-! Commands run. -/
namespace ProcessDiagram.Shell

open ProcessDiagram.Shell.Action

namespace Runner

def check (tested : Bool) : Action Unit := do
  let s ← get
  if s.status ≠ 0 ∧ 'e' ∈ s.options ∧ !tested then throw (.exit s.status)

def atLine (line : Nat) : Action Unit := modify fun s => { s with line }

/-! ### What a word names -/

/-- What runs when a command is named. -/
inductive Meaning where
  | function (body : Command)
  | special
  | regular
  | program
deriving Inhabited

def specialRunners : List String := [".", "eval", "exec"]

def regularRunners : List String := ["command", "type", "hash", "kill", "wait"]

def isSpecial (name : String) : Bool := (Builtin.special.lookup name).isSome || name ∈ specialRunners

def meaning (s : State) (hasFunctions : Bool) (name : String) : Meaning :=
  if isSpecial name then .special
  else
    match if hasFunctions then s.functions.lookup name else none with
    | some f => .function f
    | none =>
      if (Builtin.table.lookup name).isSome || name ∈ regularRunners then .regular else .program

/-- What a name stands for: in a word, and in a sentence. -/
def description? (s : State) (name : String) : Option (String × String) :=
  if name ∈ Grammar.keywords then some (name, name ++ " is a shell keyword")
  else
    match s.aliases.lookup name with
    | some text => some ("alias " ++ name ++ "=" ++ Builtin.quote text, name ++ " is an alias for " ++ text)
    | none =>
      match meaning s true name with
      | .function _ => some (name, name ++ " is a shell function")
      | .special => some (name, name ++ " is a special shell builtin")
      | .regular => some (name, name ++ " is a shell builtin")
      | .program =>
        match fileOf? s name with
        | some path => some (path, name ++ (if name ∈ s.found then " is a tracked alias for " else " is ") ++ path)
        | none => none
where
  /-- The file that a name of a program stands for. -/
  fileOf? (s : State) (name : String) : Option String :=
    let isFile (path : String) : Bool :=
      match (s.tree.resolve (toText path)).toOption.bind s.tree.entry? with
      | some (.file _ _) => true
      | some (.program _) => true
      | _ => false
    if name.toList.contains '/' then
      if (s.tree.resolve (toText name)).toOption.isSome then some name else none
    else ((s.searchPath.splitOn ":").map (Launch.candidate · name)).find? isFile

/-- Says what a name stands for. -/
def describe (inSentence : Bool) (name : String) : Action Nat := do
  match description? (← get) name with
  | some (word, sentence) =>
    emit 1 ((if inSentence then sentence else word) ++ "\n")
    return 0
  | none =>
    if inSentence then emit 1 (name ++ ": not found\n")
    return 127

def hash (words : List String) : Action Nat := do
  let (o, names) ← Builtin.optionsOf "rv" words
  if o.any (·.1 = 'r') then
    modify fun s => { s with found := [] }
    return 0
  let s ← get
  if names.isEmpty then
    for name in s.found.mergeSort fun a b => row a ≤ row b do
      if let some path := description?.fileOf? s name then emit 1 (path ++ "\n")
    return 0
  let mut status := 0
  for name in names do
    match meaning s true name with
    | .program =>
      if (isFound s s.searchPath name).1 then modify fun s => { s with found := name :: s.found.filter (· ≠ name) }
      else
        complain (name ++ ": not found")
        status := 1
    | _ => pure ()
  return status

/-! ### Signals and processes -/

def send (signal : String) (process : Nat) : Action Bool := do
  let s ← get
  match s.pending.find? (·.process = process) with
  | some job =>
    if signal ∉ Signal.harmless then
      set { s with
        pending := s.pending.filter (·.process ≠ job.process)
        ended := (process, 128 + Signal.number signal, some signal) :: s.ended }
    return true
  | none =>
    if s.children.contains process then return (s.ended.lookup process).isSome
    else if process ≠ s.process ∧ process ∉ s.above then return false
    else if (process, signal) ∈ s.handled ∧ signal ∉ ["KILL", "STOP"] then
      set { s with signals := (process, signal) :: s.signals }
      return true
    else if signal ∈ Signal.harmless then return true
    else throw (.killed process signal)

def killUsage : String :=
  "Usage: kill [-s sigspec | -signum | -sigspec] [pid | job]... or\nkill -l [exitstatus]"

def kill (words : List String) : Action Nat := do
  if words.isEmpty then giveUp killUsage
  let first := (words.headD "").toList
  let direct := if first.head? = some '-' then Signal.ofWord? 1 (String.ofList first.tail) else none
  let (isList, signal, targets) ← match direct with
    | some signal => pure (false, some signal, words.tail)
    | none => do
      if first.head? = some '-' then
        let (o, targets) ← Builtin.optionsOf "ls:" words
        let signal ← match o.reverse.lookup 's' with
          | none => pure none
          | some word =>
            match Signal.ofWord? 1 word with
            | some signal => pure (some signal)
            | none => giveUp ("invalid signal number or name: " ++ word)
        pure (o.any (·.1 = 'l'), signal, targets)
      else pure (false, none, words)
  if isList then
    match targets with
    | [] => emit 1 ("0\n" ++ String.join (Signal.names.tail.map (· ++ "\n")))
    | word :: _ =>
      let n ← Builtin.number word
      let n := if 128 < n then n - 128 else n
      match if n = 0 then none else Signal.names[n]? with
      | some name => emit 1 (name ++ "\n")
      | none => giveUp ("invalid signal number or exit status: " ++ word)
    return 0
  if targets.isEmpty then giveUp killUsage
  let mut status := 0
  for target in targets do
    let isGroup := target.startsWith "-"
    let n ← Builtin.number (if isGroup then String.ofList target.toList.tail else target)
    if !(← send (signal.getD "TERM") n) then
      complain "No such process\n"
      status := 1
  return status

def wait (again : Runner) (words : List String) : Action Nat := do
  let (_, words) ← Builtin.optionsOf "" words
  if words.isEmpty then
    again.catchUpAll
    return 0
  let mut status := 127
  for word in words do
    if word.startsWith "%" then giveUp ("No such job: " ++ word)
    let process ← Builtin.number word
    if (← get).children.contains process then
      if let some job := (← get).pending.find? (·.process = process) then
        if (← get).puttingOff then throw (.later job.wake)
        again.catchUp job.wake 100
      let (ended, signal) := ((← get).ended.lookup process).getD (0, none)
      status := ended
      if let some text := signal.bind Signal.text? then emit 2 (text ++ "\n")
  return status

/-- Starts a command that is not waited for. It runs at once unless it lets time go by. -/
def background (again : Runner) (body : Command) (redirections : List Redirection) : Action Unit := do
  let before ← get
  let process := before.nextProcess
  let i ← addChannel (.device .null)
  modify fun s => { s with nextProcess := process + 1, children := process :: s.children, lastBackground := some process }
  let started ← get
  let inside (s : State) : State := { s with streams := (0, i) :: s.streams.filter (·.1 ≠ 0) }
  try
    modify fun s => { s with puttingOff := true }
    isolated do
      modify inside
      again.subshellAfter (again.redirectAll (← again.targets redirections)) (again false body)
    modify fun s => { s with ended := (process, s.status, none) :: s.ended, status := 0, puttingOff := before.puttingOff }
  catch
  | .later wake =>
    let job : Pending := {
      process, wake, memory := (inside started).toMemory, workDir := started.tree.workDir, body, redirections }
    set { started with pending := job :: started.pending, status := 0 }
  | stop => throw stop

/-! ### Commands of the shell -/

def speaking (name : String) (holds : Bool) (body : Action Nat) : Action Unit := do
  let before ← get
  modify fun s => { s with utility := name, held := if holds then some [] else none, writeError := none }
  let status ←
    try
      let status ← body
      releaseAll
      if (← get).writeError.isSome then
        complain (name ++ ": I/O error")
        pure (status ||| 1)
      else pure status
    catch stop =>
      match stop with
      | .brokenPipe => pure ()
      | _ => releaseAll
      modify fun s => { s with utility := before.utility, held := before.held, writeError := before.writeError }
      throw stop
  modify fun s => { s with utility := before.utility, held := before.held, writeError := before.writeError, status }

def includedFile? (s : State) (path : String) : Option String :=
  if path.toList.contains '/' then some path
  else
    ((s.searchPath.splitOn ":").map (Launch.candidate · path)).find? fun file =>
      match (s.tree.resolve (toText file)).toOption.bind s.tree.entry? with
      | some (.file _ _) => true
      | _ => false

def dot (again : Runner) (words : List String) : Action Nat := do
  let (_, words) ← Builtin.optionsOf "" words
  match words with
  | [] => return 0
  | path :: _ =>
    let s ← get
    match includedFile? s path with
    | none => giveUp (path ++ ": not found")
    | some file =>
      match s.tree.readFile (toText file) with
      | .ok bytes =>
        modify fun s => { s with utility := file }
        again.included false true (ofBytes bytes)
        return (← get).status
      | .error .isADirectory => return 0
      | .error e =>
        let isMissing := e = .notFound ∨ e = .notADirectory
        giveUp ("cannot open " ++ file ++ ": " ++ (if isMissing then "No such file" else e.reason))

def evaluate (again : Runner) (tested : Bool) (words : List String) : Action Nat := do
  if !(← again.source tested false (" ".intercalate words)) then setStatus 0
  return (← get).status

def builtin (again : Runner) (tested : Bool) (name : String) (words : List String) : Action Unit := do
  match (Builtin.special ++ Builtin.table).lookup name with
  | some utility => speaking name true (utility words)
  | none =>
    match name with
    | "eval" => speaking name false (again.evaluate tested words)
    | "." => speaking name false (again.dot words)
    | "exec" =>
      speaking name false do
        match words with
        | [] => return 0
        | program :: words =>
          again.execute (← get).searchPath program words
          modify fun s => { s with traps := [] }
          throw (.exit (← get).status)
    | "type" =>
      speaking name true do
        let mut status := 0
        for word in words do
          status := status ||| (← describe true word)
        return status
    | "hash" => speaking name true (hash words)
    | "kill" => speaking name true (kill words)
    | "wait" => speaking name false (again.wait words)
    | _ =>
      speaking name true do
        let (o, words) ← Builtin.optionsOf "pvV" words
        match o.reverse.find? fun (c, _) => c ≠ 'p', words with
        | some (c, _), word :: _ => describe (c = 'V') word
        | _, _ => return 0

/-! ### Simple commands -/

structure Arguments where
  shown : List String
  fields : List String
  rest : List Word

def Arguments.more (again : Runner) (a : Arguments) : List Word → Action Arguments
  | [] => return { a with rest := [] }
  | word :: rest => do
    match ← Expansion.fields again.output word with
    | [] => Arguments.more again a rest
    | fields => return ⟨a.shown ++ fields, a.fields ++ fields, rest⟩

def Arguments.next (again : Runner) (a : Arguments) : Action Arguments :=
  match a.fields.tail with
  | [] => Arguments.more again { a with fields := [] } a.rest
  | fields => return { a with fields }

/-- The fields of the other words; those that look like assignments may be taken for such. -/
def otherFields (again : Runner) (assigns : Bool) (words : List Word) : Action (List String) :=
  List.flatten <$> words.mapM fun word =>
    if assigns ∧ (Word.assignment? word).isSome then List.singleton <$> Expansion.assignmentText again.output word
    else Expansion.fields again.output word

/-- How a command is run. -/
structure Plan where
  words : List String
  /-- The words as they are shown. -/
  shown : List String
  /-- Whether the first command is part of the language. -/
  isSpecial : Bool := false
  hasFunctions : Bool := true
  path : Option String := none

/-- What comes after `command` and its options, if it is to run that, and whether the usual programs are meant. The
number bounds the words. -/
def afterCommand (again : Runner) : Nat → Arguments → Bool → Action (Arguments × Option Bool)
  | 0, a, _ => return (a, none)
  | n + 1, a, usual => do
    let next ← Arguments.next again a
    match next.fields with
    | [] => return (next, none)
    | word :: _ =>
      match word.toList with
      | ['-', '-'] =>
        let next ← Arguments.next again next
        return (next, if next.fields.isEmpty then none else some usual)
      | '-' :: c :: cs => if (c :: cs).all (· = 'p') then afterCommand again n next true else return (next, none)
      | _ => return (next, some usual)

def assigning : List String := ["export", "readonly", "local", "alias"]

def planFrom (again : Runner) : Nat → Arguments → Plan → Action Plan
  | n, a, p => do
    let name := a.fields.headD ""
    let isBuiltin := match meaning (← get) p.hasFunctions name with
      | .special => true
      | .regular => true
      | _ => false
    let finish (a : Arguments) (words : List String) : Action Plan := do
      let more ← otherFields again (isBuiltin && name ∈ assigning) a.rest
      return { p with words := words ++ more, shown := a.shown ++ more }
    match n with
    | 0 => finish a a.fields
    | n + 1 =>
      if !isBuiltin ∨ name ≠ "command" then finish a a.fields
      else
        let skipped := a.shown.length - a.fields.length
        match ← afterCommand again (a.shown.length + a.rest.length + 1) a false with
        | (a, some usual) =>
          planFrom again n a { p with hasFunctions := false, path := if usual then some Launch.usualPath else p.path }
        | (a, none) => finish a (a.shown.drop skipped)

def plan (again : Runner) (words : List Word) : Action Plan := do
  let a ← Arguments.more again ⟨[], [], []⟩ words
  match a.fields with
  | [] => return { words := [], shown := [] }
  | name :: _ =>
    let isSpecial := match meaning (← get) true name with
      | .special => true
      | _ => false
    planFrom again (words.length + a.fields.length + 1) a { words := [], shown := [], isSpecial }

def trace (again : Runner) (stream : Option Nat) (texts : List String) : Action Unit := do
  let s ← get
  if 'x' ∈ s.options ∧ !s.isShowing then
    modify fun s => { s with isShowing := true }
    let start ← match Grammar.document ((s.value? "PS4").getD "") with
      | .ok word => Expansion.document again.output word
      | .error _ => pure ""
    let streams := (← get).streams
    connect 2 stream
    emit 2 (start ++ " ".intercalate texts ++ "\n")
    modify fun t => { t with isShowing := false, streams }

/-- Runs the body of a function; its arguments end with it. -/
def function (again : Runner) (tested : Bool) (body : Command) (arguments : List String) : Action Unit := do
  let before ← get
  set { before with
    arguments, optionIndex := 1, optionDone := none, loops := 0 }
  followedBy
    (try again tested body
      catch
      | .handBack status => setStatus status
      | stop => throw stop)
    (modify fun s => { s with
      arguments := before.arguments, optionIndex := before.optionIndex, optionDone := before.optionDone
      loops := before.loops })

/-- Carries out assignments; says how they are shown. Before a command they are put back at its end. -/
def assignAll (again : Runner) (isLocal exported : Bool) (assignments : List Word) : Action (List String) :=
  assignments.mapM fun word => do
    let text ← Expansion.assignmentText again.output word
    let name := String.ofList (text.toList.takeWhile (· ≠ '='))
    let value := String.ofList (text.toList.drop (name.length + 1))
    if isLocal then save name
    assignAs name (some value) (isLocal || exported)
    return text

def simple (again : Runner) (tested : Bool) (line : Nat) (assignments words : List Word)
    (redirections : List Redirection) : Action Unit := do
  atLine line
  modify fun s => { s with outputStatus := 0 }
  let p ← plan again words
  let isLocal := !p.words.isEmpty && !p.isSpecial
  let ts ← again.targets redirections
  let before ← get
  let isExec : Bool := match p.words with
    | name :: _ => name = "exec" && (match meaning before p.hasFunctions name with
      | .special => true
      | _ => false)
    | [] => false
  let body : Action Unit := do
    if !(← again.redirectAll ts) then
      setStatus 2
      if p.isSpecial then throw .failure
    else
      let shown ← assignAll again isLocal (isExec && 1 < p.words.length) assignments
      trace again (before.streams.lookup 2) (shown ++ p.shown)
      match p.words with
      | [] => modify fun s => { s with status := s.outputStatus }
      | name :: rest =>
        match meaning (← get) p.hasFunctions name with
        | .function f => function again tested f rest
        | .program => again.external (p.path.getD (← get).searchPath) name rest
        | _ =>
          let frames := (← get).frames.length
          try builtin again tested name rest
          catch
          | .failure =>
            if p.isSpecial then throw .failure
            leaveFrames frames
            setStatus 2
          | stop => throw stop
  giving ts isExec (if isLocal then withFrame body else body)

/-! ### Loops and choices -/

/-- One round of a loop: whether it goes on. -/
def round (body : Action Unit) : Action Bool := do
  try
    body
    return true
  catch
  | .leave n =>
    if 1 < n then throw (.leave (n - 1))
    return false
  | .goOn n =>
    if 1 < n then throw (.goOn (n - 1))
    return true
  | stop => throw stop

def inLoop (body : Action Unit) : Action Unit := do
  let before := (← get).loops
  modify fun s => { s with loops := before + 1 }
  followedBy body (modify fun s => { s with loops := before })

def rounds (again : Runner) (tested onSuccess : Bool) (test body : Command) : Nat → Nat → Action Unit
  | 0, _ => throw .endless
  | n + 1, status => do
    let mut isTested := false
    try
      again true test
      isTested := true
    catch
    | .leave k =>
      if 1 < k then throw (.leave (k - 1))
      setStatus status
      return ()
    | .goOn k =>
      if 1 < k then throw (.goOn (k - 1))
    | stop => throw stop
    if !isTested then rounds again tested onSuccess test body n status
    else if ((← get).status == 0) = onSuccess then
      if ← round (again tested body) then rounds again tested onSuccess test body n (← get).status
    else setStatus status

def eachValue (again : Runner) (tested : Bool) (name : String) (body : Command) : List String → Action Unit
  | [] => return ()
  | value :: rest => do
    assign name value
    if ← round (again tested body) then eachValue again tested name body rest

def arm? (again : Runner) (subject : List Char) : List (List Word × Command) → Action (Option Command)
  | [] => return none
  | (patterns, body) :: rest => do
    for p in patterns do
      if Pattern.fits (← Expansion.pattern again.output p) subject then return some body
    arm? again subject rest

/-- Steps that read what others write. If they read all that has been written of a limited amount, both start again
with more of it. -/
def fed (writer reader : Action Unit) : List Nat → Action Unit
  | [] => throw .endless
  | room :: more => do
    let before ← get
    let (text, isFull) ← collectUpTo (some room) writer
    let i ← addChannel (.source text.toList)
    keepingStreams do
      connect 0 (some i)
      reader
    if isFull ∧ !more.isEmpty then
      if let some (.source []) := (← get).channels[i]? then
        set before
        fed writer reader more

def pipe (again : Runner) (tested : Bool) : List Command → Action Unit
  | [] => return ()
  | [last] => again.subshell (again tested last)
  | first :: rest => fed (again.subshell (again tested first)) (pipe again tested rest) rooms
where
  /-- How much a command may write before another reads it. -/
  rooms : List Nat := [65536, 1048576, 33554432]

/-- The rounds allowed to a loop. -/
def roundLimit : Nat := 10000000

/-- Runs a command of which the parts are run again by the same rules. -/
def step (again : Runner) (tested : Bool) (command : Command) : Action Unit := do
  if 'n' ∈ (← get).options then return ()
  again.takeSignals
  match command with
  | .nothing => return ()
  | .simple line assignments words redirections =>
    simple again tested line assignments words redirections
    again.takeSignals
    check tested
  | .redirected line body redirections =>
    atLine line
    again.withRedirections (← again.targets redirections) (again tested body)
  | .subshell line body redirections =>
    atLine line
    let ts ← again.targets redirections
    again.subshellAfter (again.redirectAll ts) (again tested body)
    again.takeSignals
    check tested
  | .background line body redirections =>
    if 0 < line then atLine line
    background again body redirections
  | .pipe commands =>
    pipe again tested commands
    again.takeSignals
    check tested
  | .negated body =>
    again true body
    setStatus (if (← get).status = 0 then 1 else 0)
  | .both first second =>
    again true first
    if (← get).status = 0 then again tested second
  | .either first second =>
    again true first
    if (← get).status ≠ 0 then again tested second
  | .sequence first second =>
    again tested first
    again tested second
  | .branch test yes no =>
    again true test
    if (← get).status = 0 then again tested yes
    else if no.isNothing then setStatus 0
    else again tested no
  | .loop onSuccess test body => inLoop (rounds again tested onSuccess test body roundLimit 0)
  | .each line name words body =>
    atLine line
    let values ← match words with
      | some words => List.flatten <$> words.mapM (Expansion.fields again.output)
      | none => pure (← get).arguments
    if values.isEmpty then setStatus 0
    inLoop (eachValue again tested name body values)
  | .choose line subject arms =>
    atLine line
    let subject ← Expansion.text again.output subject
    let body := (← arm? again subject.toList arms).getD .nothing
    if body.isNothing then setStatus 0 else again tested body
  | .define name body =>
    modify fun s => { s with functions := (name, body) :: s.functions.filter (·.1 ≠ name) }
    setStatus 0

end Runner

def run : Nat → Runner
  | 0, _, _ => throw .endless
  | n + 1, tested, command => (run n).step tested command

def stepLimit : Nat := 1000000

end ProcessDiagram.Shell
