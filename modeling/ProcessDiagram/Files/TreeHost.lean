import ProcessDiagram.Files.FileTree
import ProcessDiagram.Files.Host
import ProcessDiagram.Text.Utf8

/-! A system whose files are those of a tree. What its programs do is left open. -/
namespace ProcessDiagram

/-- How a program that is started with its variables, its arguments and its input changes the files, and how it ends. -/
abbrev FileTree.Programs := Environment → String → List String → String → StateM FileTree (Except FileError Exit)

def Host.onTree (programs : FileTree.Programs) : Host (StateM FileTree) where
  readFile path := do return (← get).readFile path
  makeDirs path := do
    match (← get).makeDirs (Path.lineage path) with
    | .ok tree => set tree; return .ok ()
    | .error e => return .error e
  writeFile path text := do
    match (← get).writeFile path (Text.Utf8.encode text) with
    | .ok tree => set tree; return .ok ()
    | .error e => return .error e
  runProgram := programs

end ProcessDiagram
