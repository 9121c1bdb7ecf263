import ProcessDiagram.Shell.Pattern
import ProcessDiagram.Shell.Program.Directories
import ProcessDiagram.Shell.Program.Launching

/-! Files looked for in a tree of directories. -/
namespace ProcessDiagram.Shell.Utility

open ProcessDiagram.Shell.Action

/-- What is asked of a file that is found, or done with it. -/
inductive FindRule where
  | yes
  | no
  | name (anyCase : Bool) (pattern : List Glyph)
  | path (pattern : List Glyph)
  | kind (letters : List Char)
  | empty
  | size (sign : Char) (n unit : Nat)
  | executable
  | print (lineEnd : String)
  | delete
  | prune
  | quit
  | run (inDirectory : Bool) (words : List String)
  | runAll (words : List String)
  | negated (r : FindRule)
  | both (a b : FindRule)
  | either (a b : FindRule)

structure FindSource where
  rest : List String
  least : Nat := 0
  most : Option Nat := none
  depthFirst : Bool := false
  acts : Bool := false

abbrev FindRead := StateT FindSource (Except String)

namespace FindRead

def next (option : String) : FindRead String := do
  let s ← get
  match s.rest with
  | word :: rest =>
    set { s with rest }
    return word
  | [] => throw ("missing argument to " ++ Quoting.word option)

def acting (r : FindRule) : FindRead FindRule := do
  modify fun s => { s with acts := true }
  return r

def command (inDirectory : Bool) (option : String) : FindRead FindRule := do
  let s ← get
  let words := s.rest.takeWhile fun w => w ≠ ";"
  let upToAll := s.rest.takeWhile fun w => w ≠ "+"
  if upToAll.length < words.length ∧ upToAll.getLast? = some "\x7b\x7d" then
    set { s with rest := s.rest.drop (upToAll.length + 1), acts := true }
    return .runAll upToAll.dropLast
  if words.length = s.rest.length then throw ("missing argument to " ++ Quoting.word option)
  set { s with rest := s.rest.drop (words.length + 1), acts := true }
  return .run inDirectory words

def sizeRule (text : String) : FindRule :=
  let (sign, cs) := match text.toList with
    | '+' :: cs => ('+', cs)
    | '-' :: cs => ('-', cs)
    | cs => ('=', cs)
  let digits := cs.takeWhile Char.isDigit
  let unit := ([('c', 1), ('w', 2), ('k', 1024), ('M', 1048576), ('b', 512)].lookup ((cs.drop digits.length).headD 'b')).getD 512
  .size sign (((String.ofList digits).toNat?).getD 0) unit

def primary (word : String) : FindRead FindRule := do
  match word with
  | "-name" => return .name false (Pattern.ofText (← next word).toList)
  | "-iname" => return .name true (Pattern.ofText ((← next word).toList.map Char.toLower))
  | "-path" => return .path (Pattern.ofText (← next word).toList)
  | "-wholename" => return .path (Pattern.ofText (← next word).toList)
  | "-type" => return .kind ((← next word).toList.filter (· ≠ ','))
  | "-size" => return sizeRule (← next word)
  | "-empty" => return .empty
  | "-executable" => return .executable
  | "-true" => return .yes
  | "-false" => return .no
  | "-print" => acting (.print "\n")
  | "-print0" => acting (.print "\x00")
  | "-delete" =>
    modify fun s => { s with depthFirst := true }
    acting .delete
  | "-prune" => return .prune
  | "-quit" => acting .quit
  | "-exec" => command false word
  | "-execdir" => command true word
  | "-ok" => command false word
  | "-depth" =>
    modify fun s => { s with depthFirst := true }
    return .yes
  | "-maxdepth" =>
    let n ← next word
    modify fun s => { s with most := n.toNat? }
    return .yes
  | "-mindepth" =>
    let n ← next word
    modify fun s => { s with least := n.toNat?.getD 0 }
    return .yes
  | "-mount" => return .yes
  | "-xdev" => return .yes
  | "-noleaf" => return .yes
  | "-follow" => return .yes
  | _ =>
    if word.startsWith "-" then throw ("unknown predicate " ++ Quoting.word word)
    else throw ("paths must precede expression: " ++ Quoting.word word)

mutual

def alternatives : Nat → FindRead FindRule
  | 0 => return .yes
  | n + 1 => do
    let first ← sequence n
    match (← get).rest with
    | word :: rest =>
      if word = "-o" ∨ word = "-or" then
        modify fun s => { s with rest }
        return .either first (← alternatives n)
      return first
    | [] => return first

def sequence : Nat → FindRead FindRule
  | 0 => return .yes
  | n + 1 => do
    let first ← single n
    match (← get).rest with
    | [] => return first
    | word :: rest =>
      if word = "-o" ∨ word = "-or" ∨ word = ")" then return first
      if word = "-a" ∨ word = "-and" then modify fun s => { s with rest }
      return .both first (← sequence n)

def single : Nat → FindRead FindRule
  | 0 => return .yes
  | n + 1 => do
    let s ← get
    match s.rest with
    | [] => throw "expected an expression"
    | word :: rest =>
      set { s with rest }
      if word = "!" ∨ word = "-not" then return .negated (← single n)
      else if word = "(" then
        let r ← alternatives n
        let s ← get
        match s.rest with
        | ")" :: rest =>
          set { s with rest }
          return r
        | _ => throw "invalid expression; I was expecting to find a ')' somewhere but did not see one."
      else primary word

end

end FindRead

/-- A file that is found: its path, its place, and how deep it lies. -/
structure Finding where
  path : String
  place : FileTree.Place
  depth : Nat

/-- The files below a place, with their paths; those in a directory come before or after it. The number bounds the
depth. -/
def findingsFrom (t : FileTree) (depthFirst : Bool) : Nat → Finding → List Finding
  | 0, _ => []
  | n + 1, f =>
    let below := match t.entry? f.place with
      | some .directory => (t.namesIn f.place).flatMap fun name =>
          findingsFrom t depthFirst n ⟨inside f.path (ofText name), f.place ++ [name], f.depth + 1⟩
      | _ => []
    if depthFirst then below ++ [f] else f :: below

structure FindState where
  pruned : List FileTree.Place := []
  quit : Bool := false
  failed : Bool := false
  /-- Paths that are given to programs all at once. -/
  gathered : List (List String × String) := []

/-- Whether a rule holds for a file. -/
def findHolds (sys : System) (f : Finding) : FindRule → StateT FindState Action Bool
  | .yes => return true
  | .no => return false
  | .name anyCase pattern => do
    let name := (lastName f.path).toList
    return Pattern.fits pattern (if anyCase then name.map Char.toLower else name)
  | .path pattern => return Pattern.fits pattern f.path.toList
  | .kind letters => do
    let t := (← getThe State).tree
    return match t.entry? f.place with
      | some .directory => 'd' ∈ letters
      | some (.link _) => 'l' ∈ letters
      | some (.device _) => 'c' ∈ letters
      | _ => 'f' ∈ letters
  | .empty => do
    let t := (← getThe State).tree
    return match t.entry? f.place with
      | some .directory => (t.namesIn f.place).isEmpty
      | some (.file bytes _) => bytes.isEmpty
      | _ => false
  | .size sign n unit => do
    let size := match (← getThe State).tree.entry? f.place with
      | some (.file bytes _) => (bytes.length + unit - 1) / unit
      | _ => 0
    return if sign = '+' then n < size else if sign = '-' then size < n else size = n
  | .executable => do
    return match (← getThe State).tree.entry? f.place with
      | some (.file _ executable) => executable
      | some (.link _) => false
      | _ => true
  | .print lineEnd => do
    emit 1 (f.path ++ lineEnd)
    return true
  | .delete => do
    let t := (← getThe State).tree
    if f.place = t.workDir ∨ f.path = "." then return true
    if t.entry? f.place = some .directory ∧ !(t.namesIn f.place).isEmpty then
      warn ("cannot delete " ++ Quoting.word f.path ++ ": Directory not empty")
      modify fun s => { s with failed := true }
      return false
    settle (t.remove f.place)
    return true
  | .prune => do
    modify fun s => { s with pruned := f.place :: s.pruned }
    return true
  | .quit => do
    modify fun s => { s with quit := true }
    return true
  | .run inDirectory words => do
    let path := if inDirectory then "./" ++ lastName f.path else f.path
    let words := words.map fun w => w.replace "\x7b\x7d" path
    let environment := (← getThe State).environment
    match ← sys.start false environment (words.headD "") words.tail with
    | .ok status => return status == 0
    | .error e =>
      warn (Quoting.word (words.headD "") ++ ": " ++ e.reason)
      return false
  | .runAll words => do
    modify fun s => { s with gathered := s.gathered ++ [(words, f.path)] }
    return true
  | .negated r => do return !(← findHolds sys f r)
  | .both a b => do
    if ← findHolds sys f a then findHolds sys f b else return false
  | .either a b => do
    if ← findHolds sys f a then return true else findHolds sys f b

def find (sys : System) : Utility := fun words => do
  let words := words.dropWhile fun w => w = "-H" || w = "-L" || w = "-P"
  let isRule (w : String) : Bool := (w.startsWith "-" && 1 < w.length) || w = "(" || w = "!" || w = ")"
  let paths := words.takeWhile fun w => !isRule w
  let rules := words.drop paths.length
  let read : Except String (FindRule × FindSource) := do
    if rules.isEmpty then return (.yes, { rest := [] })
    let (r, s) ← (FindRead.alternatives (3 * rules.length + 3)).run { rest := rules }
    if !s.rest.isEmpty then .error "invalid expression; you have too many ')'"
    return (r, s)
  match read with
  | .error text =>
    warn text
    return 1
  | .ok (rule, source) =>
    let rule := if source.acts then rule else .both rule (.print "\n")
    let steps : StateT FindState Action Unit := do
      for path in if paths.isEmpty then ["."] else paths do
        let t := (← getThe State).tree
        match t.resolveLink (toText path) with
        | .error e =>
          warn (Quoting.word path ++ ": " ++ e.reason)
          modify fun s => { s with failed := true }
        | .ok place =>
          for f in findingsFrom t source.depthFirst 200 ⟨path, place, 0⟩ do
            let s ← get
            let isCut := s.pruned.any fun p => p <+: f.place && p ≠ f.place
            if !s.quit ∧ !isCut ∧ source.least ≤ f.depth ∧ source.most.all (f.depth ≤ ·) then
              let _ ← findHolds sys f rule
      let gathered := (← get).gathered
      for words in (gathered.map (·.1)).eraseDups do
        let paths := (gathered.filter (·.1 = words)).map (·.2)
        let environment := (← getThe State).environment
        match ← sys.start false environment (words.headD "") (words.tail ++ paths) with
        | .ok 0 => pure ()
        | .ok _ => modify fun s => { s with failed := true }
        | .error e =>
          warn (Quoting.word (words.headD "") ++ ": " ++ e.reason)
          modify fun s => { s with failed := true }
    let ((), s) ← steps.run {}
    return if s.failed then 1 else 0

end ProcessDiagram.Shell.Utility
