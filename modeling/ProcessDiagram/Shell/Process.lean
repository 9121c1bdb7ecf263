import ProcessDiagram.Files.Program
import ProcessDiagram.Shell.Catalogue
import ProcessDiagram.Shell.Source

/-! Programs started, each as a process of its own. -/
namespace ProcessDiagram.Shell

open ProcessDiagram.Shell.Action

namespace Runner

/-! ### Shells -/

/-- The variables of a new shell: its own, and then those that it is given. -/
def startBindings (s : State) : List Binding :=
  let given := s.environment.filter fun (name, _) => isName name.toList
  let own : List (String × String) :=
    [("IFS", " \t\n"), ("PATH", Launch.usualPath), ("PS1", "# "), ("PS2", "> "), ("PS4", "+ "), ("OPTIND", "1")]
  let start := own.map fun (name, value) =>
    match given.lookup name with
    | some v => { name, value := some (if name ∈ ["IFS", "OPTIND"] then value else v), exported := true }
    | none => { name, value := some value : Binding }
  let others := (given.filter fun (name, _) => (own.lookup name).isNone).map fun (name, value) =>
    { name, value := some value, exported := true : Binding }
  start ++ others

/-- A new shell in the place of the process that starts it. It takes no notice of the signals that are taken no
notice of already. -/
def renewed (s : State) (name : String) : State :=
  let traps := s.traps.filter (·.2 = "")
  let memory : Memory := {
    name, environment := s.environment, bindings := startBindings s, streams := s.streams, process := s.process
    above := s.above, mask := s.mask, traps }
  let s : State := { s with
    toMemory := memory, handled := traps.map (fun (signal, _) => (s.process, signal)) ++ s.handled }
  let s := s.bind { name := "PPID", value := some (toString (s.above.headD 1)) }
  let given := (s.environment.value? "PWD").getD ""
  let isHere := given.startsWith "/" ∧ (s.tree.resolve (toText given)).toOption = some s.tree.workDir
  let directory := if isHere then given else placeText s.tree.workDir
  { s with directory }.bind { name := "PWD", value := some directory, exported := true }

/-- Runs a shell on its words: options, then a script or the name of its file, then arguments. -/
def shell (again : Runner) (words : List String) : Action Unit :=
  again.toExit do
    let i ← Builtin.switches true (words.length + 1) words
    match i.isScript, i.words with
    | true, [] => giveUp "-c requires an argument"
    | true, script :: rest =>
      modify fun s => { s with name := rest.headD s.name, arguments := rest.tail, line := 1 }
      let _ ← again.source false false script
    | false, words =>
      let s ← get
      if words.isEmpty ∨ 's' ∈ s.options then
        Builtin.switch true 's'
        modify fun s => { s with arguments := words, line := 1 }
        let text := (← takeAll).toOption.getD ""
        let _ ← again.source false true text
      else
        let file := words.headD ""
        match s.tree.readFile (toText file) with
        | .ok bytes =>
          modify fun s => { s with name := file, arguments := words.tail, line := 1 }
          let _ ← again.source false true (ofBytes bytes)
        | .error .isADirectory => return ()
        | .error e =>
          let isMissing := e = .notFound ∨ e = .notADirectory
          giveUp ("cannot open " ++ file ++ ": " ++ (if isMissing then "No such file" else e.reason))

def reportSignal (signal : String) : Action Unit := do
  if let some text := Signal.text? signal then emit 2 (text ++ "\n")
  setStatus (128 + Signal.number signal)

def child (body : Action Unit) : Action Unit := do
  let process := (← get).nextProcess
  modify fun s => { s with nextProcess := process + 1 }
  try
    isolated do
      modify fun s => { s with held := none, writeError := none, isCopy := false, process, above := s.process :: s.above }
      body
  catch
  | .killed p signal => if p = process then reportSignal signal else throw (.killed p signal)
  | stop => throw stop

def freshShell (again : Runner) (name : String) (words : List String) : Action Unit := do
  modify fun s => renewed s name
  again.shell words

/-! ### Programs -/

def launch (s : State) (path name : String) (words : List String) : Except FileError Launch :=
  Launch.ofWord s.tree (toText path) (toText name) ((name :: words ++ s.environment.texts).map toText)

/-- A program in the name that it is called by. What it could not write is a failure. -/
def finish (which : String) (isPrompt : Bool) (body : Action Nat) : Action Unit := do
  modify fun s => { s with held := if isPrompt then none else some [], writeError := none, lacksInput := false }
  let status ←
    try body
    catch stop => do
      releaseAll
      throw stop
  releaseAll
  if (← get).lacksInput then
    if let some input := Catalogue.inputName? which then Utility.warn (input ++ ": " ++ FileError.badStream.reason)
  match (← get).writeError with
  | none => setStatus status
  | some e =>
    let (complaints, status) := Catalogue.writeFailure which e
    complaints.forM Utility.warn
    modify fun s => { s with status, writeError := none }

/-- Runs a program of the system, called by a name. Some of them run others, through so many of their kind. -/
def program (again : Runner) : Nat → String → String → List String → Action Unit
  | 0, _, _, _ => throw .endless
  | n + 1, which, name, words => do
    let start (inPlace : Bool) (env : Environment) (target : String) (words : List String) :
        Action (Except FileError Nat) := do
      modify fun s => { s with environment := env }
      let run (body : Action Unit) : Action (Except FileError Nat) := do
        if inPlace then body else child body
        return .ok (← get).status
      match launch (← get) ((env.value? "PATH").getD Launch.usualPath) target words with
      | .ok launch => run (program again n launch.program (ofText launch.name) (launch.leading.map ofText ++ words))
      | .error .notExecutable => run (again.freshShell target (target :: words))
      | .error e => return .error e
    if which ∈ Catalogue.shells then again.freshShell name words
    else
      modify fun s => { s with name }
      match Catalogue.utility? ⟨start, again.pass⟩ which with
      | some (utility, isPrompt) => finish which isPrompt (utility words)
      | none => setStatus 127

def depthLimit : Nat := 1000

def isFound (s : State) (path name : String) : Bool × Bool :=
  let entries := ((path.splitOn ":").map (Launch.candidate · name)).filterMap fun file =>
    (s.tree.resolve (toText file)).toOption.bind s.tree.entry?
  let isFile (e : FileTree.Entry) : Bool := match e with
    | .file _ _ => true
    | .program _ => true
    | _ => false
  (entries.any isFile, !entries.isEmpty)

/-- Runs the program that a name stands for in the place of the shell. A file that names no program is a script. -/
def execute (again : Runner) (path name : String) (words : List String) : Action Unit := do
  modify fun s => { s with environment := s.exports }
  let s ← get
  match launch s path name words with
  | .ok launch =>
    again.program depthLimit launch.program (ofText launch.name) (launch.leading.map ofText ++ words)
  | .error .notExecutable =>
    let file := ofText ((Launch.find? s.tree (toText path) (toText name)).getD (toText name))
    again.freshShell file (file :: words)
  | .error e =>
    let isMissing := e = .notFound ∨ e = .notADirectory
    complain (name ++ ": " ++ (if isMissing then "not found" else e.reason))
    throw (.exit (if isMissing ∨ e = .nameTooLong ∨ e = .tooDeep then 127 else 126))

def external (again : Runner) (path name : String) (words : List String) : Action Unit := do
  if !name.toList.contains '/' then
    let (isFile, isThere) := isFound (← get) path name
    if !isFile then
      complain (name ++ ": " ++ (if isThere then "Permission denied" else "not found"))
      setStatus 127
      return ()
    modify fun s => { s with found := name :: s.found.filter (· ≠ name) }
  child (again.execute path name words)

end Runner

end ProcessDiagram.Shell
