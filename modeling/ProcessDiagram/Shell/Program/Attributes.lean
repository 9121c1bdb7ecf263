import ProcessDiagram.Shell.Program.Clock
import ProcessDiagram.Shell.Program.Directories

/-! What is known of files besides what they hold: modes, sizes and names that are free. -/
namespace ProcessDiagram.Shell.Utility

open ProcessDiagram.Shell.Action

def isStamp (text : String) : Bool :=
  let digits := text.toList.takeWhile Char.isDigit
  let number (n : Nat) : Nat := ((String.ofList ((digits.drop (digits.length - 8 + n)).take 2)).toNat?).getD 0
  let isEndFine := match text.toList.drop digits.length with
    | [] => true
    | ['.', a, b] => a.isDigit && b.isDigit && a < '6'
    | _ => false
  digits.length ∈ [8, 10, 12] && isEndFine && 1 ≤ number 0 && number 0 ≤ 12 && 1 ≤ number 2 && number 2 ≤ 31 &&
    number 4 < 24 && number 6 < 60

def touch : Utility := fun words =>
  withOptions { letters := "acd:fhmr:t:", names := [("no-create", 'c'), ("date", 'd'), ("reference", 'r')] } (hint 1)
    words fun o => do
      let wrongStamp := (o.value? 't').filter fun text => !isStamp text
      let wrongDate := (o.value? 'd').filter fun text => (timeOf? text).isNone ∧ !text.toList.any Char.isDigit ∧
        text.toLower ∉ ["", "now", "today", "yesterday", "tomorrow"]
      if let some text := wrongStamp.orElse fun _ => wrongDate then
        warn ("invalid date format " ++ Quoting.word text)
        return 1
      if let some file := o.value? 'r' then
        if (entryAt? (← get).tree file).isNone then
          warn ("failed to get attributes of " ++ Quoting.path file ++ ": No such file or directory")
          return 1
      if o.words.isEmpty then return (← misused "missing file operand")
      forEach o.words fun path => do
        let t := (← get).tree
        if path = "-" ∨ (entryAt? t path).isSome then return 0
        if path.endsWith "/" then
          warn ("setting times of " ++ Quoting.path path ++ ": No such file or directory")
          return 1
        if o.has 'c' then return 0
        change (fun e => "cannot touch " ++ Quoting.path path ++ ": " ++ e.reason) fun t => t.writeFile (toText path) []

/-- The bits that a clause of a mode sets: for whom, with which sign, and which. -/
def modeClause? (before : Nat) (clause : String) : Option Nat := do
  let who := clause.toList.takeWhile (· ∈ ['u', 'g', 'o', 'a'])
  let users := if who.isEmpty ∨ 'a' ∈ who then [64, 8, 1] else who.filterMap fun c => [('u', 64), ('g', 8), ('o', 1)].lookup c
  let rest := clause.toList.drop who.length
  guard (rest.head?.any (· ∈ ['+', '-', '=']))
  go (rest.length + 1) users before rest
where
  go : Nat → List Nat → Nat → List Char → Option Nat
    | _, _, mode, [] => some mode
    | 0, _, _, _ => none
    | n + 1, users, mode, sign :: rest =>
      let letters := rest.takeWhile (· ∉ ['+', '-', '='])
      let bit (c : Char) : Option Nat :=
        if c = 'r' then some 4 else if c = 'w' then some 2 else if c = 'x' then some 1
        else if c = 'X' then some (if mode % 2 = 1 ∨ mode / 8 % 2 = 1 ∨ mode / 64 % 2 = 1 then 1 else 0)
        else if c = 's' ∨ c = 't' then some 0
        else if c = 'u' then some (mode / 64 % 8) else if c = 'g' then some (mode / 8 % 8)
        else if c = 'o' then some (mode % 8) else none
      match letters.mapM bit with
      | none => none
      | some found =>
        let bits := found.foldl (· ||| ·) 0
        let mode := users.foldl (fun mode user =>
          let old := mode / user % 8
          let new := if sign = '+' then old ||| bits else if sign = '-' then old - (old &&& bits) else bits
          mode - old * user + new * user) mode
        go n users mode (rest.drop letters.length)

def modeAfter? (before : Nat) (text : String) : Option Nat :=
  if text ≠ "" ∧ text.toList.all fun c => '0' ≤ c ∧ c ≤ '7' then
    let n := text.toList.foldl (fun n c => n * 8 + (c.toNat - 48)) 0
    if n < 4096 then some n else none
  else (text.splitOn ",").foldlM modeClause? before

/-- What files are known to allow: whether they may be run. -/
def modeOf (executable : Bool) : Nat := if executable then 493 else 420

def modeLetters (mode : Nat) : String :=
  String.ofList ([64, 8, 1].flatMap fun user =>
    let bits := mode / user % 8
    [if 4 ≤ bits then 'r' else '-', if 2 ≤ bits % 4 then 'w' else '-', if bits % 2 = 1 then 'x' else '-'])

def modeDigits (mode : Nat) : String :=
  let digits := String.ofList (Nat.toDigits 8 mode)
  "".pushn '0' (4 - digits.length) ++ digits

def isModeWord (word : String) : Bool :=
  match word.toList with
  | '-' :: c :: cs => (c :: cs).all (· ∈ ['r', 'w', 'x', 'X', 's', 't', 'u', 'g', 'o'])
  | _ => false

def chmod : Utility := fun words => do
  let (modeWords, others) := words.partition isModeWord
  withOptions { letters := "Rvcf", names := [("recursive", 'R'), ("verbose", 'v'), ("changes", 'c'), ("quiet", 'f'),
    ("silent", 'f')] } (hint 1) others fun o => do
      let words := match modeWords, o.words with
        | [], words => words
        | mode :: _, words => mode :: words
      match words with
      | [] => misused "missing operand"
      | [mode] => misused ("missing operand after " ++ Quoting.word mode)
      | mode :: files =>
        if (modeAfter? 420 mode).isNone then return (← misused ("invalid mode: " ++ Quoting.word mode))
        forEach files fun path => do
          let t := (← get).tree
          match t.resolve (toText path) with
          | .error e =>
            if !o.has 'f' then warn ("cannot access " ++ Quoting.path path ++ ": " ++ e.reason)
            return 1
          | .ok place =>
            let isMeant (p : FileTree.Place) : Bool := p = place || (o.has 'R' && place <+: p)
            let entries := t.entries.map fun (p, e) => match e with
              | .file bytes executable =>
                let after := ((modeAfter? (modeOf executable) mode).getD 420)
                if isMeant p then (p, .file bytes (after % 2 = 1 || after / 8 % 2 = 1 || after / 64 % 2 = 1)) else (p, e)
              | e => (p, e)
            if o.has 'v' then
              let before := match t.entry? place with
                | some (.file _ executable) => modeOf executable
                | _ => 493
              let after := (modeAfter? before mode).getD before
              let shown (m : Nat) : String := modeDigits m ++ " (" ++ modeLetters m ++ ")"
              emit 1 ("mode of " ++ Quoting.path path ++ (if before = after then " retained as " ++ shown after
                else " changed from " ++ shown before ++ " to " ++ shown after) ++ "\n")
            modify fun s => { s with tree := { s.tree with entries } }
            return 0

/-! ### All that is known -/

/-- How an entry is shown: its kind in a word and in a letter, its mode, and its size. -/
structure Attributes where
  kind : String
  letter : Char
  mode : Nat
  size : Nat

def attributes (e : FileTree.Entry) : Attributes :=
  match e with
  | .file bytes executable => ⟨if bytes.isEmpty then "regular empty file" else "regular file", '-', modeOf executable, bytes.length⟩
  | .program _ => ⟨"regular file", '-', 493, FileTree.programBytes.length⟩
  | .directory => ⟨"directory", 'd', 493, 4096⟩
  | .device _ => ⟨"character special file", 'c', 438, 0⟩
  | .link path => ⟨"symbolic link", 'l', 511, path.utf8ByteSize⟩

/-- How many names an entry has: a directory has one in each directory that it holds as well. -/
def nameCount (t : FileTree) (place : FileTree.Place) : Nat :=
  if t.entry? place = some .directory then
    2 + (t.entries.filter fun (p, e) => p.dropLast = place ∧ p ≠ [] ∧ e = .directory).length
  else 1

def statText (t : FileTree) (path : String) (place : FileTree.Place) (e : FileTree.Entry) (c : Char) : String :=
  let a := attributes e
  let octal (n : Nat) : String := String.ofList (Nat.toDigits 8 n)
  match c with
  | 'n' => path
  | 'N' => Quoting.path path ++ (match e with
    | .link target => " -> " ++ Quoting.path (ofText target)
    | _ => "")
  | 's' => toString a.size
  | 'F' => a.kind
  | 'a' => octal a.mode
  | 'A' => String.singleton a.letter ++ modeLetters a.mode
  | 'f' => String.ofList (Nat.toDigits 16 (a.mode + ([('-', 32768), ('d', 16384), ('c', 8192), ('l', 40960)].lookup a.letter).getD 0))
  | 'U' => "root"
  | 'G' => "root"
  | 'u' => "0"
  | 'g' => "0"
  | 'h' => toString (nameCount t place)
  | 'b' => if a.letter = 'l' then "0" else toString ((a.size + 4095) / 4096 * 8)
  | 'B' => "512"
  | 'o' => "4096"
  | 't' => "0"
  | 'T' => "0"
  | 'm' => "/"
  | 'w' => "-"
  | 'W' => "0"
  | '%' => "%"
  | _ => "?"

def statLine (shown : Char → String) : Nat → List Char → List Char
  | n + 1, '%' :: cs =>
    let flags := cs.takeWhile (· ∈ ['-', '0', '#', '+', ' '])
    let digits := (cs.drop flags.length).takeWhile Char.isDigit
    match cs.drop (flags.length + digits.length) with
    | [] => '%' :: cs
    | c :: rest =>
      let width := ((String.ofList digits).toNat?).getD 0
      let text := (shown c).toList
      let missing := width - text.length
      let padded :=
        if '-' ∈ flags then text ++ List.replicate missing ' '
        else List.replicate missing (if '0' ∈ flags then '0' else ' ') ++ text
      padded ++ statLine shown n rest
  | n + 1, c :: cs => c :: statLine shown n cs
  | _, _ => []

def statOptions : OptionTable where
  letters := "c:fLtα:"
  names := [("format", 'c'), ("dereference", 'L'), ("file-system", 'f'), ("terse", 't'), ("printf", 'α')]

def stat : Utility := fun words =>
  withOptions statOptions (hint 1) words fun o => do
    if o.words.isEmpty then return (← misused "missing operand")
    let format := match o.last? ['c', 'α'] with
      | some 'α' => Format.unescaped ((o.value? 'α').getD "") |>.1
      | some c => ((o.value? c).getD "").toList ++ ['\n']
      | none => "%n\n".toList
    forEach o.words fun path => do
      let t := (← get).tree
      match if o.has 'L' then t.resolve (toText path) else t.resolveLink (toText path) with
      | .error e =>
        warn ("cannot statx " ++ Quoting.path path ++ ": " ++ e.reason)
        return 1
      | .ok place =>
        let entry := (t.entry? place).getD .directory
        emit 1 (String.ofList (statLine (statText t path place entry) (format.length + 1) format))
        return 0

/-! ### New names -/

def freshLetters (count i : Nat) : List Char :=
  let letters := "kq3Zt8WmRb5vHn".toList
  (List.range count).map fun j => letters.getD ((i + 5 * j) % letters.length) 'a'

def mktempOptions : OptionTable where
  letters := "dqtup:α::β:"
  names := [("directory", 'd'), ("dry-run", 'u'), ("quiet", 'q'), ("tmpdir", 'α'), ("suffix", 'β')]

def mktemp : Utility := fun words =>
  withOptions mktempOptions (hint 1) words fun o => do
    if 1 < o.words.length then return (← misused "too many templates")
    let template := o.words.headD "tmp.XXXXXXXXXX"
    let given := match o.last? ['p', 'α'] with
      | some c => o.value? c
      | none => none
    let isElsewhere := given.isSome ∨ o.has 't' ∨ o.words.isEmpty
    let tmpDir := ((← get).environment.value? "TMPDIR").getD ""
    let dir := match given with
      | some "" => tmpDir
      | some d => d
      | none => tmpDir
    let dir := if !isElsewhere then "" else inside (if dir = "" then "/tmp" else dir) ""
    let cs := template.toList
    let ending := (cs.reverse.takeWhile (· ≠ 'X')).length
    let (ending, suffix) := match o.value? 'β' with
      | some suffix => (0, suffix)
      | none => (ending, String.ofList (cs.drop (cs.length - ending)))
    let count := ((cs.reverse.drop ending).takeWhile (· = 'X')).length
    let fail (text : String) : Action Nat := do
      warn text
      return 1
    if o.has 'β' ∧ count = 0 then
      return (← fail ("with --suffix, template " ++ Quoting.word template ++ " must end in X"))
    if suffix.toList.contains '/' then
      return (← fail ("invalid suffix " ++ Quoting.word suffix ++ ", contains directory separator"))
    if count < 3 then return (← fail ("too few X's in template " ++ Quoting.word template))
    if o.has 't' ∧ template.toList.contains '/' then
      return (← fail ("invalid template, " ++ Quoting.word template ++ ", contains directory separator"))
    let t := (← get).tree
    let candidate (i : Nat) : String :=
      dir ++ String.ofList (cs.take (cs.length - ending - count) ++ freshLetters count i) ++ suffix
    match ((List.range 1000).map candidate).find? fun p => (linkAt? t p).isNone with
    | none => return 1
    | some path =>
      match if o.has 'd' then t.makeDir (toText path) else t.writeFile (toText path) [] with
      | .ok tree =>
        if !o.has 'u' then settle tree
        emit 1 (path ++ "\n")
        return 0
      | .error e =>
        if !o.has 'q' then
          warn ("failed to create " ++ (if o.has 'd' then "directory" else "file") ++ " via template " ++
            Quoting.path (dir ++ template) ++ ": " ++ e.reason)
        return 1

end ProcessDiagram.Shell.Utility
