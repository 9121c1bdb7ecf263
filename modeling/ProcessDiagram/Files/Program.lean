import ProcessDiagram.Files.FileTree
import ProcessDiagram.Text.Utf8

/-! Which program of a file tree a path starts. -/
namespace ProcessDiagram

structure Launch where
  path : String
  program : String
  /-- The name that the program is called by. -/
  name : String
  /-- The words that it gets before those of its caller. -/
  leading : List String
deriving DecidableEq, Repr

namespace Launch

def isBlank (b : UInt8) : Bool := b = 32 || b = 9

/-- The part of a file that is looked at to tell what it is; a short file is filled up with NULs. -/
def header (bytes : List UInt8) : List UInt8 := (bytes ++ List.replicate 256 0).take 256

/-- What stands after `#!` in the first line of a header. A line that is cut off has to go on after the name of
the program, so that at least the name is whole. -/
def interpreterLine? (header : List UInt8) : Option (List UInt8) :=
  match header with
  | 35 :: 33 :: rest =>
    let line := rest.takeWhile fun b => b ≠ 10 && b ≠ 0
    let trimmed (line : List UInt8) : List UInt8 := (line.reverse.dropWhile isBlank).reverse
    if rest[line.length]? = some 10 then some (trimmed line)
    else if (rest.dropWhile isBlank).any fun b => isBlank b || b = 0 then some (trimmed rest.dropLast)
    else none
  | _ => none

def interpreter? (bytes : List UInt8) : Option (String × Option String) := do
  let line := (← interpreterLine? (header bytes)).dropWhile isBlank
  guard !line.isEmpty
  let name := line.takeWhile fun b => !isBlank b && b ≠ 0
  let rest := line.drop name.length
  let word := (rest.dropWhile isBlank).takeWhile (· ≠ 0)
  return (Text.Utf8.decodeLossy name, if rest.head?.any isBlank then some (Text.Utf8.decodeLossy word) else none)

/-- No text that a program gets is as long as 32 pages, and all of them fit into two megabytes together with
their addresses. -/
def checkLength (texts : List String) : Except FileError Unit :=
  if texts.any (131072 ≤ ·.utf8ByteSize) ∨ 2097152 < texts.foldl (fun n text => n + text.utf8ByteSize + 9) 0 then
    .error .argumentsTooLong
  else .ok ()

/-- What can be run at a path; an empty one is the working directory. -/
def executable (t : FileTree) (path : String) : Except FileError FileTree.Entry := do
  match t.entry? (← t.resolve (if path = "" then "." else path)) with
  | some (.program name) => return .program name
  | some (.file bytes true) => return .file bytes true
  | _ => .error .accessDenied

def ofEntry (t : FileTree) : Nat → String → FileTree.Entry → Except FileError Launch
  | 0, _, _ => .error .tooDeep
  | depth + 1, path, entry => do
    match entry with
    | .program program => return ⟨path, program, path, []⟩
    | .file bytes _ =>
      let some (interpreter, word) := interpreter? bytes | .error .notExecutable
      let launch ← ofEntry t depth interpreter (← executable t interpreter)
      return { launch with path, leading := launch.leading ++ word.toList ++ [path] }
    | _ => .error .accessDenied

def depthLimit : Nat := 6

/-- The program that a path stands for, with the texts that it gets. A program that no file names is called as
its caller says. -/
def ofPath (t : FileTree) (texts : List String) (word path : String) : Except FileError Launch := do
  let entry ← executable t path
  checkLength texts
  let launch ← ofEntry t depthLimit path entry
  return if launch.leading.isEmpty then { launch with name := word } else launch

def usualPath : String := "/usr/local/sbin:/usr/local/bin:/usr/sbin:/usr/bin:/sbin:/bin"

/-- A name in a directory of a search path; the empty one is the working directory. -/
def candidate (dir name : String) : String := if dir = "" then name else dir ++ "/" ++ name

/-- The first directory that has a program decides; a file that may not be run is passed over but not
forgotten. -/
def search (t : FileTree) (texts : List String) (name : String) (refused : FileError) :
    List String → Except FileError Launch
  | [] => .error refused
  | dir :: rest =>
    match ofPath t texts name (candidate dir name) with
    | .error .notFound => search t texts name refused rest
    | .error .notADirectory => search t texts name refused rest
    | .error .accessDenied => search t texts name .accessDenied rest
    | result => result

def find? (t : FileTree) (path word : String) : Option String :=
  let candidates := if word.toList.contains '/' then [word] else (Text.split ':' path).map (candidate · word)
  candidates.find? fun path => (executable t path).toOption.isSome

/-- The program that a word names: by its path, or by a name without slash to be searched for. -/
def ofWord (t : FileTree) (path word : String) (texts : List String) : Except FileError Launch :=
  if word.toList.contains '/' then ofPath t texts word word
  else if word = "" then .error .notFound
  else if 255 < word.utf8ByteSize then .error .nameTooLong
  else search t texts word .notFound (Text.split ':' path)

def checkNul (words : List String) : Except FileError Unit :=
  if words.any (·.toList.contains '\x00') then .error .nulInArgument else .ok ()

end Launch

end ProcessDiagram
