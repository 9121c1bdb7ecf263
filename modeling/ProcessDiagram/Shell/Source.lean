import ProcessDiagram.Shell.Builtin
import ProcessDiagram.Shell.Grammar

/-! Scripts read and run, traps, and redirections. -/
namespace ProcessDiagram.Shell

open ProcessDiagram.Shell.Action

/-- How a command that is part of another is run. A command that is tested may fail where the option `e` is on. -/
abbrev Runner := Bool → Command → Action Unit

namespace Runner

/-! ### Scripts -/

/-- Reads a line at a time and runs it; says whether there was any command. What is read of a file may be shown.
The number bounds the lines. -/
def lines (again : Runner) (tested isFile : Bool) : Nat → Reader → Action Bool
  | 0, _ => return false
  | n + 1, r => do
    let s ← get
    let r := { r with aliases := s.aliases, nextDocument := s.nextDocument, documents := [] }
    let echoBack (left : List Char) : Action Unit := do
      if isFile ∧ 'v' ∈ (← get).options then emit 2 (String.ofList (r.rest.take (r.rest.length - left.length)))
    match Grammar.line.run r with
    | .error e =>
      echoBack []
      modify fun s => { s with line := e.line }
      giveUp ("Syntax error: " ++ e.text)
    | .ok (command, r) =>
      echoBack r.rest
      modify fun s => { s with
        documents := r.documents ++ s.documents, nextDocument := r.nextDocument, scriptLine := r.line }
      match command with
      | none => return false
      | some command =>
        again tested command
        let more ← lines again tested isFile n r
        return more || !command.isNothing

/-- Runs a script; says whether there was any command in it. -/
def source (again : Runner) (tested isFile : Bool) (text : String) : Action Bool := do
  let before := (← get).scriptLine
  let rest := text.toList.filter (· ≠ '\x00')
  followedBy (lines again tested isFile (rest.length + 2) { rest }) (modify fun s => { s with scriptLine := before })

def included (again : Runner) (tested isFile : Bool) (text : String) : Action Unit := do
  try
    if !(← source again tested isFile text) then setStatus 0
  catch
  | .handBack status => setStatus status
  | stop => throw stop

/-! ### Traps -/

/-- Runs the scripts for signals that have been sent to the shell. A script leaves the status as it was. -/
def takeSignals (again : Runner) : Action Unit := do
  let s ← get
  if s.isCopy ∨ s.signals.isEmpty then return ()
  let (own, others) := s.signals.partition fun (process, _) => process = s.process
  if own.isEmpty then return ()
  set { s with signals := others }
  for signal in ((own.map (·.2)).eraseDups).mergeSort fun a b => Signal.number a ≤ Signal.number b do
    let s ← get
    if let some script := s.traps.lookup signal then
      let status := s.keptStatus.getD s.status
      modify fun t => { t with keptStatus := some status }
      let _ ← source again false false script
      modify fun t => { t with keptStatus := s.keptStatus, status := s.status }

/-- Steps that a shell ends with, and then what it is to do at its exit. -/
def toExit (again : Runner) (body : Action Unit) : Action Unit := do
  let status ←
    try
      body
      pure (← get).status
    catch
      | .exit status => pure status
      | .failure => pure 2
      | .handBack status => pure status
      | .leave _ => pure (← get).status
      | .goOn _ => pure (← get).status
      | stop => throw stop
  setStatus status
  if let some script := (← get).traps.lookup "EXIT" then
    modify fun s => { s with traps := s.traps.filter (·.1 ≠ "EXIT"), keptStatus := some status, loops := 0 }
    try
      let _ ← source again false false script
    catch
    | .exit status => throw (.exit status)
    | .failure => throw (.exit 2)
    | .handBack status => throw (.exit status)
    | .leave _ => throw (.exit status)
    | .goOn _ => throw (.exit status)
    | stop => throw stop
  throw (.exit status)

/-- Part of a script in a shell of its own, in which only signals that are taken no notice of stay so. It begins with
some steps that are no part of the script. -/
def subshellAfter (again : Runner) (start : Action Bool) (body : Action Unit) : Action Unit :=
  isolated do
    modify fun s => { s with
      traps := s.traps.filter (·.2 = ""), isCopy := true, children := [], keptStatus := none, held := none }
    if ← start then again.toExit body else setStatus 2

def subshell (again : Runner) (body : Action Unit) : Action Unit := again.subshellAfter (pure true) body

def output (again : Runner) (body : Command) : Action String := do
  let before := (← get).status
  let text ← collect (again.subshell (again false body))
  modify fun s => { s with outputStatus := s.status, status := before }
  return text

/-! ### Redirections -/

inductive Target where
  | file (stream : Nat) (opening : Opening) (path : String)
  | copy (stream : Nat) (source : Option Nat)
  | document (stream : Nat) (number : Nat)

def Target.stream : Target → Nat
  | .file stream _ _ => stream
  | .copy stream _ => stream
  | .document stream _ => stream

def targets (again : Runner) (rs : List Redirection) : Action (List Target) :=
  rs.mapM fun
    | .document stream number => return .document stream number
    | .file stream .duplicate word => do
      let text ← Expansion.text again.output word
      match text.toList with
      | ['-'] => return .copy stream none
      | [c] =>
        if c.isDigit then return .copy stream (some (c.toNat - 48))
        wrong
      | _ => wrong
    | .file stream opening word => return .file stream opening (← Expansion.text again.output word)
where
  wrong : Action Target := do
    modify fun s => { s with line := s.scriptLine }
    giveUp "Syntax error: Bad fd number"

def redirect (again : Runner) : Target → Action Unit
  | .document stream number => do
    let word := ((← get).documents.lookup number).getD []
    let text ← Expansion.document again.output word
    connect stream (some (← addChannel (.source text.toList)))
  | .copy stream none => connect stream none
  | .copy stream (some n) => do
    match (← get).streams.lookup n with
    | some i => connect stream (some i)
    | none => giveUp (toString n ++ ": Bad file descriptor")
  | .file stream opening path => do
    let s ← get
    let isFile : Bool := match (s.tree.resolve (toText path)).toOption.bind s.tree.entry? with
      | some (.file _ _) => true
      | some (.program _) => true
      | _ => false
    let isKept := isFile && opening = .write && 'C' ∈ s.options
    let result ← if isKept then pure (.error .exists) else openFile opening path
    match result with
    | .ok i => connect stream (some i)
    | .error e =>
      let isMissing := e = .notFound ∨ e = .notADirectory
      giveUp (if opening = .read then "cannot open " ++ path ++ ": " ++ (if isMissing then "No such file" else e.reason)
        else "cannot create " ++ path ++ ": " ++ (if isMissing then "Directory nonexistent" else e.reason))

/-- Carries out redirections up to one that fails; says whether none does. -/
def redirectAll (again : Runner) (ts : List Target) : Action Bool := do
  try
    ts.forM again.redirect
    return true
  catch
  | .failure => return false
  | stop => throw stop

def giveBack (before : List (Nat × Nat)) (ts : List Target) : Action Unit :=
  for t in ts do connect t.stream (before.lookup t.stream)

/-- Steps with redirections, which are given back at the end, except after `exec`. -/
def giving (ts : List Target) (isExec : Bool) (body : Action Unit) : Action Unit := do
  let before := (← get).streams
  try body
  catch stop => do
    giveBack before ts
    throw stop
  if !isExec then giveBack before ts

/-- Steps with redirections; if one fails they are not taken, and the status says so. -/
def withRedirections (again : Runner) (ts : List Target) (body : Action Unit) : Action Unit :=
  giving ts false do
    if ← again.redirectAll ts then body else setStatus 2

/-! ### Time -/

def catchUp (again : Runner) (time : Nat) : Nat → Action Unit
  | 0 => return ()
  | n + 1 => do
    let s ← get
    match (s.pending.filter (·.wake ≤ time)).mergeSort fun a b => a.wake ≤ b.wake with
    | [] => return ()
    | job :: _ => do
      set { s with
        pending := s.pending.filter (·.process ≠ job.process), clock := max s.clock job.wake, puttingOff := false }
      isolated do
        modify fun t => { t with toMemory := job.memory, tree := { t.tree with workDir := job.workDir } }
        again.subshellAfter (again.redirectAll (← again.targets job.redirections)) (again false job.body)
      modify fun t => { t with
        ended := (job.process, t.status, none) :: t.ended, status := s.status, puttingOff := s.puttingOff }
      catchUp again time n

def catchUpAll (again : Runner) : Action Unit := do
  for _ in List.range 100 do
    let s ← get
    match s.pending.map (·.wake) with
    | [] => return ()
    | wakes => catchUp again (wakes.foldl max 0) 100

def pass (again : Runner) (time : Nat) : Action Unit := do
  let s ← get
  if s.puttingOff then throw (.later (s.clock + time))
  catchUp again (s.clock + time) 100
  modify fun t => { t with clock := max t.clock (s.clock + time) }

end Runner

end ProcessDiagram.Shell
