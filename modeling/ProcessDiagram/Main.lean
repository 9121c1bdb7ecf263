import ProcessDiagram.CommandLine.Run

/-! The program on the files of the system it runs on. -/
namespace ProcessDiagram

def FileError.ofNumber? (code : UInt32) : Option FileError :=
  match (min code (0 - code)).toNat with
  | 20 => some .notADirectory
  | 21 => some .isADirectory
  | 36 => some .nameTooLong
  | _ => none

def FileError.ofSystem (e : IO.Error) : FileError :=
  match e with
  | .noFileOrDirectory .. => .notFound
  | .permissionDenied .. => .accessDenied
  | .alreadyExists .. => .exists
  | .inappropriateType _ code _ => (ofNumber? code).getD (.other (toString e))
  | .invalidArgument _ code _ => (ofNumber? code).getD (.other (toString e))
  | _ => .other (toString e)

/-- A file operation; no path holds a NUL. -/
def onPath (path : String) (op : IO α) : IO (Except FileError α) := do
  if path.toList.contains '\x00' then return .error .nulInFileName
  try return .ok (← op)
  catch e => return .error (.ofSystem e)

/-- The files of the system. No program is started, so a diagram is written as DOT text only. -/
def Host.system : Host IO where
  readFile path := onPath path (return (← IO.FS.readBinFile path).toList)
  makeDirs path := onPath path (IO.FS.createDirAll path)
  writeFile path text := onPath path (IO.FS.writeFile path text)
  runProgram _ _ _ _ := return .error .notFound

/-- The variables that a run can look at: those of the settings, and those that the file `.env` names. -/
def Variables.ofSystem : IO Environment := do
  let assigned := match ← Host.system.readFile ".env" with
    | .ok bytes => assignments bytes
    | .error _ => []
  let names := Settings.variableNames ++ assigned.map (·.key) ++ references assigned
  names.filterMapM fun name => do return (← IO.getEnv name).map (name, ·)

end ProcessDiagram

def main (args : List String) : IO UInt32 := do
  let outcome ← ProcessDiagram.Host.system.run (← ProcessDiagram.Variables.ofSystem) args
  (← IO.getStdout).putStr outcome.output
  (← IO.getStderr).putStr outcome.errors
  return UInt32.ofNat outcome.code
