import ProcessDiagram.Files.Error
import ProcessDiagram.Files.Path

/-! A tree of files and directories with a working directory, and what its operations refuse. -/
namespace ProcessDiagram

namespace FileTree

/-- A file that keeps nothing of what is written to it. -/
inductive Device where
  /-- Holds nothing. -/
  | null
  /-- Holds any number of NULs. -/
  | zero
  /-- Holds NULs and takes nothing. -/
  | full
  /-- The terminal, and there is none. -/
  | terminal
deriving DecidableEq, Repr

inductive Entry where
  | file (bytes : List UInt8) (executable : Bool)
  | directory
  /-- A program that comes with the system. -/
  | program (name : String)
  | device (d : Device)
  /-- Stands for the path that it holds. -/
  | link (path : String)
deriving DecidableEq, Repr

/-- Names from the root down. -/
abbrev Place := List String

end FileTree

/-- Every entry stands below a directory; the root is one and is not listed. -/
structure FileTree where
  entries : List (FileTree.Place × FileTree.Entry)
  workDir : FileTree.Place

namespace FileTree

def entry? (t : FileTree) (p : Place) : Option Entry :=
  if p = [] then some .directory else (t.entries.find? (·.1 = p)).map (·.2)

def put (t : FileTree) (p : Place) (e : Entry) : FileTree :=
  { t with entries := t.entries.filter (·.1 ≠ p) ++ [(p, e)] }

def start (t : FileTree) (path : String) : Place := if Path.isAbsolute path then [] else t.workDir

/-- The pieces of a path. A path is not empty, has fewer than 4096 bytes, and holds no NUL. -/
def pieces (path : String) : Except FileError (List String) :=
  if path.toList.contains '\x00' then .error .nulInFileName
  else if path = "" then .error .notFound
  else if 4096 ≤ path.utf8ByteSize then .error .nameTooLong
  else .ok (Text.split '/' path)

def linkLimit : Nat := 40

/-- Follows pieces of a path from a place, which must be a directory, through so many links at most. A link that
comes last is followed on request. -/
def walk (t : FileTree) (toEnd : Bool) (links : Nat) (here : Place) (pieces : List String) :
    Except FileError Place :=
  match pieces with
  | [] => .ok here
  | piece :: rest =>
    match t.entry? here with
    | some .directory =>
      if piece = "" ∨ piece = "." then t.walk toEnd links here rest
      else if piece = ".." then t.walk toEnd links here.dropLast rest
      else if 255 < piece.utf8ByteSize then .error .nameTooLong
      else
        match t.entry? (here ++ [piece]) with
        | none => .error .notFound
        | some (.link path) =>
          if rest.isEmpty ∧ !toEnd then .ok (here ++ [piece])
          else if _h : links = 0 then .error .tooDeep
          else t.walk toEnd (links - 1) (if Path.isAbsolute path then [] else here) (Text.split '/' path ++ rest)
        | some _ => t.walk toEnd links (here ++ [piece]) rest
    | some _ => .error .notADirectory
    | none => .error .notFound
termination_by (links, pieces.length)

def resolve (t : FileTree) (path : String) : Except FileError Place := do
  t.walk true linkLimit (t.start path) (← pieces path)

def resolveLink (t : FileTree) (path : String) : Except FileError Place := do
  t.walk false linkLimit (t.start path) (← pieces path)

def isDirectory (t : FileTree) (path : String) : Bool :=
  match t.resolve path with
  | .ok p => t.entry? p == some .directory
  | .error _ => false

def holder (t : FileTree) (path : String) : Except FileError (Place × String) := do
  let pieces ← pieces path
  let dir ← t.walk true linkLimit (t.start path) pieces.dropLast
  match t.entry? dir with
  | some .directory => return (dir, pieces.getLastD "")
  | _ => .error .notADirectory

/-- How much is read of a device that never ends. -/
def deviceLimit : Nat := 1048576

/-- The bytes that a program of the system starts with; they are no text. -/
def programBytes : List UInt8 := [0x7F, 0x45, 0x4C, 0x46, 0xFF]

def readFile (t : FileTree) (path : String) : Except FileError (List UInt8) := do
  match t.entry? (← t.resolve path) with
  | some (.file bytes _) => return bytes
  | some (.program _) => return programBytes
  | some (.device .null) => return []
  | some (.device .terminal) => .error .noDevice
  | some (.device _) => return List.replicate deviceLimit 0
  | _ => .error .isADirectory

def targetIn (t : FileTree) : Nat → Place → String → Except FileError Place
  | links, dir, name => do
    if name = "" ∨ name = "." ∨ name = ".." then .error .isADirectory
    else if 255 < name.utf8ByteSize then .error .nameTooLong
    else
      match t.entry? (dir ++ [name]), links with
      | some .directory, _ => .error .isADirectory
      | some (.device .terminal), _ => .error .noDevice
      | some (.link _), 0 => .error .tooDeep
      | some (.link path), links + 1 =>
        let pieces ← pieces path
        let dir ← t.walk true linkLimit (if Path.isAbsolute path then [] else dir) pieces.dropLast
        match t.entry? dir with
        | some .directory => targetIn t links dir (pieces.getLastD "")
        | _ => .error .notADirectory
      | _, _ => return dir ++ [name]

def target (t : FileTree) (path : String) : Except FileError Place := do
  let (dir, name) ← t.holder path
  t.targetIn linkLimit dir name

/-- Replaces what a file holds. A new file is not executable. -/
def write (t : FileTree) (p : Place) (bytes : List UInt8) : FileTree :=
  match t.entry? p with
  | some (.device _) => t
  | some (.file _ executable) => t.put p (.file bytes executable)
  | _ => t.put p (.file bytes false)

def append (t : FileTree) (p : Place) (bytes : List UInt8) : FileTree :=
  match t.entry? p with
  | some (.file old _) => t.write p (old ++ bytes)
  | _ => t.write p bytes

def writeFile (t : FileTree) (path : String) (bytes : List UInt8) : Except FileError FileTree := do
  let place ← t.target path
  if t.entry? place = some (.device .full) ∧ !bytes.isEmpty then .error .noSpace
  else return t.write place bytes

def makeDir (t : FileTree) (path : String) : Except FileError FileTree := do
  let (dir, name) ← t.holder path
  if name = "" ∨ name = "." ∨ name = ".." then .error .exists
  else if 255 < name.utf8ByteSize then .error .nameTooLong
  else if (t.entry? (dir ++ [name])).isSome then .error .exists
  else return t.put (dir ++ [name]) .directory

/-- Whether a directory is there counts for more than why it could not be made. -/
def ensureDir (t : FileTree) (path : String) : Except FileError FileTree :=
  match t.makeDir path with
  | .ok t => .ok t
  | .error e => if t.isDirectory path then .ok t else .error e

/-- Makes a directory, given with those above it from the inside out; if the one above it is missing, that
one is made first. -/
def makeDirs (t : FileTree) : List String → Except FileError FileTree
  | [] => .ok t
  | path :: above =>
    match t.makeDir path with
    | .error .notFound => do (← t.makeDirs above).ensureDir path
    | _ => t.ensureDir path

def files (t : FileTree) : List (String × List UInt8) :=
  t.entries.filterMap fun (p, e) =>
    match e with
    | .file bytes _ =>
      if t.workDir <+: p then some ("/".intercalate (p.drop t.workDir.length), bytes) else none
    | .link _ =>
      match (t.walk true linkLimit [] p).toOption.bind t.entry? with
      | some (.file bytes _) =>
        if t.workDir <+: p then some ("/".intercalate (p.drop t.workDir.length), bytes) else none
      | _ => none
    | _ => none

def namesIn (t : FileTree) (dir : Place) : List String :=
  t.entries.filterMap fun (p, _) => if p.dropLast = dir then p.getLast? else none

def remove (t : FileTree) (p : Place) : FileTree :=
  { t with entries := t.entries.filter fun (q, _) => !(p <+: q) }

def withPrograms (names : List String) : FileTree where
  entries :=
    (["bin", "dev", "etc", "home", "root", "tmp", "usr", "var"].map fun name => ([name], .directory)) ++
    [(["dev", "null"], .device .null), (["dev", "zero"], .device .zero), (["dev", "full"], .device .full),
      (["dev", "random"], .device .zero), (["dev", "urandom"], .device .zero), (["dev", "tty"], .device .terminal),
      (["usr", "bin"], .directory), (["tmp", "work"], .directory), (["etc", "passwd"], .file [] false)] ++
    names.flatMap fun name => [(["bin", name], .program name), (["usr", "bin", name], .program name)]
  workDir := ["tmp", "work"]

/-- Puts an executable file below the working directory, with the directories it needs; a path that ends in a
slash is a directory. -/
def addFile (t : FileTree) (path : String) (bytes : List UInt8) : FileTree :=
  let pieces := Text.split '/' path
  let dirs := (List.range pieces.length).map fun i => t.workDir ++ (pieces.take i)
  let t := dirs.foldl (fun t p => if (t.entry? p).isSome then t else t.put p .directory) t
  if pieces.getLast? = some "" then t else t.put (t.workDir ++ pieces) (.file bytes true)

end FileTree

end ProcessDiagram
