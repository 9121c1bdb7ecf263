import ProcessDiagram.Shell.Condition
import ProcessDiagram.Shell.Format
import ProcessDiagram.Shell.Options
import ProcessDiagram.Shell.Quoting
import ProcessDiagram.Shell.State

/-! What the programs of the system have in common, and the commands that a shell has as well. -/
namespace ProcessDiagram.Shell

open ProcessDiagram.Shell.Action

/-- A program of the system: it takes its words and gives its exit status. -/
abbrev Utility := List String → Action Nat

structure System where
  /-- Starts a program, in the place of the one that asks or as a process of its own, with its variables, its name and
  its words. There is a status, or the program could not be started. -/
  start : Bool → Environment → String → List String → Action (Except FileError Nat)
  /-- Lets time go by, in thousandths of a second. -/
  pass : Nat → Action Unit

namespace Utility

/-! ### Lines -/

/-- The lines of a text with their line feeds. -/
def linesFrom (line : List Char) : List Char → List String
  | [] => if line.isEmpty then [] else [String.ofList line.reverse]
  | c :: rest => if c = '\n' then String.ofList (c :: line).reverse :: linesFrom [] rest else linesFrom (c :: line) rest

def lines (text : String) : List String := linesFrom [] text.toList

def lengthOfLines : Nat → List Char → Nat
  | 0, _ => 0
  | _, [] => 0
  | n + 1, c :: cs =>
    let rest := (c :: cs).dropWhile (· ≠ '\n')
    (cs.length + 1 - rest.length) + min rest.length 1 + lengthOfLines n (rest.drop 1)

def bare (line : String) : String := if line.endsWith "\n" then String.ofList line.toList.dropLast else line

def bareLines (text : String) : List String := (lines text).map bare

def count? (text : String) : Option Nat := do
  let digits := text.toList.takeWhile Char.isDigit
  guard !digits.isEmpty
  let factor ← match String.ofList (text.toList.drop digits.length) with
    | "" => some 1
    | "b" => some 512
    | "kB" => some 1000
    | "KB" => some 1000
    | "k" => some 1024
    | "K" => some 1024
    | "KiB" => some 1024
    | "MB" => some 1000000
    | "m" => some 1048576
    | "M" => some 1048576
    | "MiB" => some 1048576
    | "GB" => some 1000000000
    | "G" => some 1073741824
    | "GiB" => some 1073741824
    | _ => none
  return (← (String.ofList digits).toNat?) * factor

def toRight (width : Nat) (text : String) : String := "".pushn ' ' (width - text.length) ++ text

def toLeft (width : Nat) (text : String) : String := text ++ "".pushn ' ' (width - text.length)

/-! ### Complaints -/

def warnAtOnce (text : String) : Action Unit := do emit 2 ((← get).name ++ ": " ++ text ++ "\n")

def warn (text : String) : Action Unit := do
  release
  warnAtOnce text

def hint (status : Nat) : Action Nat := do
  emit 2 ("Try '" ++ (← get).name ++ " --help' for more information.\n")
  return status

def misused (text : String) : Action Nat := do
  warn text
  hint 1

def choice? (valid : List String) (text : String) : Option String :=
  if text ∈ valid then some text
  else match valid.filter fun v => v.startsWith text with
    | [found] => some found
    | _ => none

def refuseArgument (option value : String) (valid : List String) : Action Nat := do
  warn ("invalid argument " ++ Quoting.word value ++ " for " ++ Quoting.word option)
  emit 2 ("Valid arguments are:\n" ++ String.join (valid.map fun v => "  - " ++ v ++ "\n"))
  hint 1

def withOptions (t : OptionTable) (refuse : Action Nat) (words : List String) (body : Options → Action Nat) :
    Action Nat := do
  match Options.ofWords t words with
  | .ok o => body o
  | .error e =>
    warn e.message
    refuse

def misusedByName (text : String) : Action Nat := do
  warn text
  warn ("Try '" ++ (← get).name ++ " --help' for more information.")
  return 2

def about (file : String) (e : FileError) : String := Quoting.name file ++ ": " ++ e.reason

def aboutInput (file : String) (e : FileError) : String :=
  if file = "-" then "'standard input': " ++ e.reason else about file e

def aboutReading (file : String) (e : FileError) : String :=
  if e = .isADirectory ∨ file = "-" then "read error: " ++ e.reason else about file e

/-! ### Files -/

/-- Does something with each word; the status is that of the last that fails. -/
def forEach (words : List String) (body : String → Action Nat) : Action Nat :=
  words.foldlM (fun status word => do
    let next ← body word
    return if next = 0 then status else next) 0

/-- Files with what they hold, or the input if none are named, and whether all could be read. Of the input,
some is taken. -/
def readSome (take : Action (Except FileError String)) (complaint : String → FileError → String)
    (files : List String) : Action (List (String × String) × Nat) := do
  let mut found := []
  let mut status := 0
  for file in if files.isEmpty then ["-"] else files do
    match ← contents take file with
    | .ok text => found := (file, text) :: found
    | .error e =>
      warn (complaint file e)
      status := 1
  return (found.reverse, status)

def readFiles (complaint : String → FileError → String) (files : List String) :
    Action (List (String × String) × Nat) := readSome takeAll complaint files

/-- Changes the tree; a refusal is reported. -/
def change (complaint : FileError → String) (f : FileTree → Except FileError FileTree) : Action Nat := do
  match f (← get).tree with
  | .ok tree =>
    settle tree
    return 0
  | .error e =>
    warn (complaint e)
    return 1

/-- Writes a text to a file; a refusal is reported. -/
def save (opening : Opening) (text file : String) : Action Nat := do
  match ← openFile opening file with
  | .ok i =>
    keepingStreams do
      connect 1 (some i)
      if let some e ← write 1 text then modify fun s => { s with writeError := some e }
    return 0
  | .error e =>
    warn (about file e)
    return 1

/-! ### Commands that a shell has as well -/

def conditionSource : Action Condition.Source := do
  let s ← get
  return {
    tree := s.tree
    stream? := fun path => do
      let stream ← deviceStream? path
      match ← s.channels[← s.streams.lookup stream]? with
      | .file place _ _ => s.tree.entry? place
      | .nameless bytes _ _ => some (.file bytes false)
      | .directory => some .directory
      | .device d => some (.device d)
      | _ => some (.link "pipe") }

def test : Utility := fun words => do
  match Condition.holds (← conditionSource) words with
  | .ok result => return if result then 0 else 1
  | .error text => giveUp text

def bracket : Utility := fun words => do
  if words.getLast? = some "]" then test words.dropLast else giveUp "missing ]"

def echo : Utility := fun words => do
  emit 1 (Format.echo words)
  return 0

def printf : Utility := fun words => do
  let first := words.headD ""
  let endsOptions : Bool := first == "--"
  if first.startsWith "-" ∧ 1 < first.length ∧ !endsOptions then
    giveUp ("Illegal option " ++ String.ofList (first.toList.take 2))
  match if endsOptions then words.tail else words with
  | [] => giveUp "usage: printf format [arg ...]"
  | format :: arguments =>
    let printed := Format.printf .shell format arguments
    (printed.complaints.map (·.2)).forM complain
    emit 1 (String.ofList printed.text)
    if printed.refused then
      setStatus 2
      throw .failure
    return if printed.complaints.isEmpty then 0 else 1

end Utility

end ProcessDiagram.Shell
