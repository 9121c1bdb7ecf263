import ProcessDiagram.Files.TreeHost
import ProcessDiagram.Shell.Run

/-! A system whose files are those of a tree, and whose programs are scripts and a few utilities. -/
namespace ProcessDiagram

/-- Runs a program on an input; its output stream is not kept. A shell that never ends is as good as killed. -/
def Shell.start (tree : FileTree) (env : Environment) (program : String) (words : List String) (input : String) :
    Except FileError (FileTree × Exit) := do
  Launch.checkNul (program :: words)
  let launch ← Launch.ofWord tree ((env.value? "PATH").getD Launch.usualPath) program (program :: words ++ env.texts)
  let input := (ofText input).toList
  let process := 1000
  let state : State := {
    tree, name := ofText launch.name, environment := env.map fun (name, value) => (ofText name, ofText value)
    process, nextProcess := process + 1
    channels := #[.source input, .device .null, .collector none []] }
  let runner := run stepLimit
  let steps : Action Unit := do
    try
      runner.program Runner.depthLimit launch.program (ofText launch.name) ((launch.leading ++ words).map ofText)
    catch
    | .exit status => Action.setStatus status
    | .failure => Action.setStatus 2
    | .brokenPipe => Action.setStatus 141
    | stop => throw stop
    let status := (← get).status
    runner.catchUpAll
    Action.setStatus status
  let (result, s) := steps.run.run state
  let status := match result with
    | .ok () => some (Int.ofNat s.status)
    | .error _ => none
  let errors := match s.channels[2]? with
    | some (Channel.collector _ texts) => toBytes (String.join texts.reverse)
    | _ => []
  let left := match s.channels[0]? with
    | some (Channel.source rest) => rest.length
    | _ => 0
  return ({ s.tree with workDir := tree.workDir }, ⟨status, errors, input.length - left⟩)

def FileTree.blank : FileTree := withPrograms (Shell.Catalogue.shells ++ Shell.Catalogue.names)

def Shell.programs : FileTree.Programs := fun env program words input => do
  match Shell.start (← get) env program words input with
  | .ok (tree, exit) => set tree; return .ok exit
  | .error e => return .error e

/-- A file tree with the shell and its utilities as programs. -/
def Host.inTree : Host (StateM FileTree) := .onTree Shell.programs

end ProcessDiagram
