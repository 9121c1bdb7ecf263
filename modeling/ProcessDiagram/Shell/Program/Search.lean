import ProcessDiagram.Shell.Program.Lines
import ProcessDiagram.Shell.Regex

/-! Lines looked for by what they hold. -/
namespace ProcessDiagram.Shell.Utility

open ProcessDiagram.Shell.Action

structure Wish where
  expressions : List Regex
  manner : Regex.Manner
  /-- What is found has to be the whole line. -/
  wholeLine : Bool
  /-- What is found may have no letter next to it. -/
  wholeWords : Bool
  inverted : Bool

/-- The longest part that starts at a place and is wanted. -/
def Wish.partAt? (w : Wish) (p : Regex.Place) : Option Regex.Place :=
  let found := w.expressions.flatMap fun r => Regex.ends w.manner r p
  let isFree (q : Regex.Place) : Bool := !q.rest.head?.any Regex.isWordChar
  let found := if w.wholeLine then found.filter (·.rest.isEmpty)
    else if w.wholeWords then (if p.before.any Regex.isWordChar then [] else found.filter isFree) else found
  found.foldl (fun best q => match best with
    | some b => if b.position < q.position then some q else best
    | none => some q) none

def Wish.find? (w : Wish) : Nat → Regex.Place → Option (Regex.Place × Regex.Place)
  | 0, _ => none
  | n + 1, p =>
    match w.partAt? p with
    | some q => some (p, q)
    | none => if w.wholeLine then none else (p.next?).bind fun (_, q) => w.find? n q

def Wish.isMet (w : Wish) (line : List Char) : Bool :=
  (w.find? (line.length + 1) (.ofText line)).isSome != w.inverted

/-- The parts of a line that are wanted, each with its place; none of them is empty. The number bounds them. -/
def Wish.parts (w : Wish) : Nat → Regex.Place → List (Nat × List Char)
  | 0, _ => []
  | n + 1, start =>
    match w.find? (start.rest.length + 1) start with
    | none => []
    | some (p, q) =>
      if q.position = p.position then
        match p.next? with
        | some (_, next) => w.parts n next
        | none => []
      else (p.position, p.upTo q) :: w.parts n { q with groups := [] }

structure FoundLine where
  number : Nat
  offset : Nat
  text : String
  isHit : Bool

def foundLines (w : Wish) (lineEnd : Char) (text : String) : List FoundLine :=
  let pieces := text.splitOn (String.singleton lineEnd)
  let pieces := if pieces.getLast? = some "" then pieces.dropLast else pieces
  (pieces.foldl (fun (found, number, offset) piece =>
    ({ number, offset, text := piece, isHit := w.isMet piece.toList : FoundLine } :: found,
      number + 1, offset + piece.length + 1)) ([], 1, 0)).1.reverse

def upToHits : Nat → List FoundLine → List FoundLine × List FoundLine
  | _, [] => ([], [])
  | 0, lines => ([], lines)
  | n + 1, line :: rest =>
    let (before, after) := upToHits (if line.isHit then n else n + 1) rest
    (line :: before, after)

/-- The lines that are shown: hits, and those so near to them. Behind the last hit no other hit is shown. -/
def shownLines (before after : Nat) (lines rest : List FoundLine) : List FoundLine :=
  let hits := (lines.filter (·.isHit)).map (·.number)
  let near := lines.filter fun line => hits.any fun n => n ≤ line.number + before ∧ line.number ≤ n + after
  let last := (hits.getLast?).getD 0
  let follows := rest.takeWhile fun line => !line.isHit && line.number ≤ last + after
  near ++ (if hits.isEmpty then [] else follows)

def grepOptions : OptionTable where
  letters := "0123456789A:B:C:EFGHLPRTUVXabcd:D:e:f:hiklm:noqrsuvwxyzZIαβγ:δ:ε:ζ:η::"
  names := [("after-context", 'A'), ("before-context", 'B'), ("context", 'C'), ("extended-regexp", 'E'),
    ("fixed-strings", 'F'), ("basic-regexp", 'G'), ("perl-regexp", 'P'), ("with-filename", 'H'),
    ("files-without-match", 'L'), ("dereference-recursive", 'R'), ("initial-tab", 'T'), ("text", 'a'),
    ("byte-offset", 'b'), ("count", 'c'), ("directories", 'd'), ("devices", 'D'), ("regexp", 'e'), ("file", 'f'),
    ("no-filename", 'h'), ("ignore-case", 'i'), ("files-with-matches", 'l'), ("max-count", 'm'),
    ("line-number", 'n'), ("only-matching", 'o'), ("quiet", 'q'), ("silent", 'q'), ("recursive", 'r'),
    ("no-messages", 's'), ("invert-match", 'v'), ("word-regexp", 'w'), ("line-regexp", 'x'), ("null-data", 'z'),
    ("null", 'Z'), ("line-buffered", 'α'), ("no-ignore-case", 'β'), ("label", 'γ'), ("include", 'δ'),
    ("exclude", 'ε'), ("exclude-dir", 'ζ'), ("color", 'η'), ("colour", 'η'), ("binary-files", 'X')]

def grepUsage : Action Nat := do
  emit 2 ("Usage: " ++ (← get).name ++ " [OPTION]... PATTERNS [FILE]...\n")
  hint 2

def grepPatterns (o : Options) : Action (Option (List String × List String)) := do
  let given := o.options.filter fun (c, _) => c = 'e' || c = 'f'
  if given.isEmpty then
    match o.words with
    | pattern :: files => return some (pattern.splitOn "\n", files)
    | [] => return none
  let mut patterns := []
  for (c, v) in given do
    if c = 'e' then patterns := patterns ++ v.splitOn "\n"
    else
      match ← contents takeAll v with
      | .ok text => patterns := patterns ++ bareLines text
      | .error e =>
        warn (v ++ ": " ++ e.reason)
        throw (.exit 2)
  return some (patterns, o.words)

def filesBelow (t : FileTree) (path : String) (dir : FileTree.Place) : List String :=
  t.entries.filterMap fun (p, e) =>
    match e with
    | .file _ _ =>
      if dir <+: p ∧ p ≠ dir then some (path ++ ofText ("/".intercalate (p.drop dir.length))) else none
    | _ => none

def isRecursive (o : Options) : Bool := o.has 'r' || o.has 'R' || o.value? 'd' = some "recurse"

/-- The files that are looked into; those in directories come in the place of these. -/
def grepFiles (o : Options) (files : List String) : Action (List String) := do
  if !isRecursive o then return (if files.isEmpty then ["-"] else files)
  let t := (← get).tree
  let wanted (path : String) : Bool :=
    let name := (path.splitOn "/").getLastD ""
    let fits (pattern : String) : Bool := Pattern.fits (Pattern.ofText pattern.toList) name.toList
    ((o.values 'δ').isEmpty || (o.values 'δ').any fits) && !(o.values 'ε').any fits &&
      !(path.splitOn "/").dropLast.any fun dir => (o.values 'ζ').any fun pattern =>
        Pattern.fits (Pattern.ofText pattern.toList) dir.toList
  let below (path : String) : List String :=
    match t.resolve (toText path) with
    | .ok place =>
      if t.entry? place = some .directory then
        (filesBelow t (if path.endsWith "/" then path else path ++ "/") place).filter wanted
      else [path]
    | .error _ => [path]
  if files.isEmpty then return (filesBelow t "" t.workDir).filter wanted
  return files.flatMap below

def grepWith (isExtended isFixed : Bool) : Utility := fun words =>
  withOptions grepOptions grepUsage words fun given => do
    let o : Options := { given with options := withContext given.options }
    match ← grepPatterns o with
    | none => grepUsage
    | some (patterns, files) =>
      let mode := (o.last? ['E', 'F', 'G', 'P']).getD (if isFixed then 'F' else if isExtended then 'E' else 'G')
      let read (pattern : String) : Except Regex.Error Regex :=
        if mode = 'F' then .ok (.literal pattern.toList)
        else
          (Regex.ofText { isExtended := mode ≠ 'G' } (if mode = 'P' then withDigits pattern.toList else pattern.toList)).map
            (·.1)
      match patterns.mapM read with
      | .error e =>
        warn e.message
        return 2
      | .ok expressions =>
        let numbers := [('A', "invalid context length argument"), ('B', "invalid context length argument"),
          ('C', "invalid context length argument"), ('m', "invalid max count")]
        for (c, text) in numbers do
          if let some v := o.value? c then
            if v.toNat?.isNone then
              warn (if c = 'm' then text else v ++ ": " ++ text)
              return 2
        let number? (c : Char) : Option Nat := (o.value? c).bind String.toNat?
        let anyCase : Bool := match o.last? ['i', 'y', 'β'] with
          | some c => c ≠ 'β'
          | none => false
        let w : Wish := {
          expressions, manner := { anyCase }, wholeLine := o.has 'x', wholeWords := o.has 'w', inverted := o.has 'v' }
        search o w number? (← grepFiles o files) files
where
  /-- Digits stand for so many lines around. -/
  withContext (options : List (Char × String)) : List (Char × String) :=
    (options.splitBy fun (c, _) (d, _) => c.isDigit == d.isDigit).flatMap fun run =>
      if run.head?.any (·.1.isDigit) then [('C', String.ofList (run.map (·.1)))] else run
  /-- Letters for digits written out. -/
  withDigits : List Char → List Char
    | '\\' :: 'd' :: rest => "[0-9]".toList ++ withDigits rest
    | '\\' :: 'D' :: rest => "[^0-9]".toList ++ withDigits rest
    | '\\' :: c :: rest => '\\' :: c :: withDigits rest
    | c :: rest => c :: withDigits rest
    | [] => []
  search (o : Options) (w : Wish) (number? : Char → Option Nat) (files given : List String) : Action Nat := do
    let lineEnd := if o.has 'z' then '\x00' else '\n'
    let most := if o.has 'q' ∨ o.has 'l' ∨ o.has 'L' then some 1 else number? 'm'
    let hasContext : Bool := ['A', 'B', 'C'].any o.has
    let isRecursive := isRecursive o
    let isNamed : Bool := match o.last? ['h', 'H'] with
      | some c => c = 'H'
      | none => 1 < files.length || (isRecursive && given.any fun _ => true) || (isRecursive && given.isEmpty)
    let isNamed := isNamed && !(isRecursive && given.length = 1 && files = given && !o.has 'H')
    let mut any := false
    let mut failed := false
    let mut shownAny := false
    for file in files do
      if any ∧ o.has 'q' then return 0
      let take := match most with
        | some n =>
          let needed (rest : List Char) : Nat :=
            let (before, _) := upToHits n (foundLines w lineEnd (String.ofList rest))
            min rest.length (before.foldl (fun n line => n + line.text.length + 1) 0)
          takeIn 65536 (if ['q', 'l', 'L'].any o.has then 98304 else 1) needed
        | none => takeAll
      let result ← contents take file
      match result with
      | .error e =>
        let shown := if file = "-" then "(standard input)" else file
        if e = .isADirectory ∧ o.value? 'd' = some "skip" then continue
        failed := true
        if !o.has 's' then warn (shown ++ ": " ++ e.reason)
        if o.has 'c' ∧ e = .isADirectory then emit 1 ((if isNamed then shown ++ ":" else "") ++ "0\n")
      | .ok text =>
        let shown := if file = "-" then (o.value? 'γ').getD "(standard input)" else file
        let (lines, rest) := match most with
          | some n => upToHits n (foundLines w lineEnd text)
          | none => (foundLines w lineEnd text, [])
        let hits := (lines.filter (·.isHit)).length
        if hits ≠ 0 then any := true
        let afterName (sign : String) : String := if o.has 'Z' then "\x00" else sign
        if o.has 'q' then continue
        else if o.has 'l' then emit 1 (if hits = 0 then "" else shown ++ afterName "\n")
        else if o.has 'L' then emit 1 (if hits = 0 then shown ++ afterName "\n" else "")
        else if o.has 'c' then
          emit 1 ((if isNamed then shown ++ afterName ":" else "") ++ toString hits ++ "\n")
        else if lineEnd = '\n' ∧ text.toList.contains '\x00' ∧ !o.has 'a' then
          if hits ≠ 0 then warn (shown ++ ": binary file matches")
        else
          let before := ((number? 'B').orElse fun _ => number? 'C').getD 0
          let after := ((number? 'A').orElse fun _ => number? 'C').getD 0
          let aligned (n : Nat) : String := if o.has 'T' then toRight 2 (toString n) else toString n
          let start (line : FoundLine) (offset : Nat) (sign : String) : String :=
            (if isNamed then shown ++ afterName sign else "") ++
              (if o.has 'n' then aligned line.number ++ sign else "") ++
              (if o.has 'b' then aligned offset ++ sign else "") ++
              (if o.has 'T' ∧ (isNamed ∨ o.has 'n' ∨ o.has 'b') then "\t" else "")
          let mut last := 0
          for line in shownLines before after lines rest do
            if hasContext ∧ shownAny ∧ (last = 0 ∨ last + 1 < line.number) then emit 1 "--\n"
            last := line.number
            shownAny := true
            let sign := if line.isHit then ":" else "-"
            if !o.has 'o' then
              emit 1 (start line line.offset sign ++ line.text ++ String.singleton lineEnd)
            else if line.isHit ∧ !w.inverted then
              for (offset, part) in w.parts (line.text.length + 1) (.ofText line.text.toList) do
                emit 1 (start line (line.offset + offset) sign ++ String.ofList part ++ String.singleton lineEnd)
    return if failed ∧ !(any ∧ o.has 'q') then 2 else if any then 0 else 1

def grep : Utility := grepWith false false

end ProcessDiagram.Shell.Utility
