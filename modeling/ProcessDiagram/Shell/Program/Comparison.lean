import ProcessDiagram.Shell.Pattern
import ProcessDiagram.Shell.Program.Directories

/-! What has to be changed in one text to get another. -/
namespace ProcessDiagram.Shell.Utility

open ProcessDiagram.Shell.Action

/-- For each pair of ends of two lists, how much they have in common at most: the row for an item, from the row for
those behind it. -/
def commonRow [BEq α] (item : α) (others : List α) (next : List Nat) : List Nat :=
  match others, next with
  | b :: others, n :: below =>
    let rest := commonRow item others below
    (if item == b then below.headD 0 + 1 else max n (rest.headD 0)) :: rest
  | _, _ => [0]

def commonRows [BEq α] (items others : List α) : List (List Nat) :=
  items.foldr (fun item rows => commonRow item others (rows.headD []) :: rows)
    [List.replicate (others.length + 1) 0]

/-- A stretch of lines in which two texts differ: where it starts in each, counted from zero, and how many lines of
each it has. -/
structure Change where
  first : Nat
  removed : Nat
  second : Nat
  added : Nat

def edits [BEq α] : Nat → Nat → Nat → List α → List α → List (List Nat) → List Change
  | 0, _, _, _, _, _ => []
  | _, _, _, [], [], _ => []
  | n + 1, i, j, a :: as, b :: bs, rows =>
    if a == b then edits n (i + 1) (j + 1) as bs (rows.tail.map List.tail)
    else if (rows.headD []).tail.headD 0 ≤ (rows.tail.headD []).headD 0 then
      ⟨i, 1, j, 0⟩ :: edits n (i + 1) j as (b :: bs) rows.tail
    else ⟨i, 0, j, 1⟩ :: edits n i (j + 1) (a :: as) bs (rows.map List.tail)
  | n + 1, i, j, _ :: as, [], rows => ⟨i, 1, j, 0⟩ :: edits n (i + 1) j as [] rows.tail
  | n + 1, i, j, [], _ :: bs, rows => ⟨i, 0, j, 1⟩ :: edits n i (j + 1) [] bs rows

def merged : List Change → List Change
  | c :: d :: rest =>
    if c.first + c.removed = d.first ∧ c.second + c.added = d.second then
      merged (⟨c.first, c.removed + d.removed, c.second, c.added + d.added⟩ :: rest)
    else c :: merged (d :: rest)
  | cs => cs
termination_by cs => cs.length

def changes [BEq α] (as bs : List α) : List Change :=
  let start := ((as.zip bs).takeWhile fun (a, b) => a == b).length
  let (as', bs') := (as.drop start, bs.drop start)
  let stop := ((as'.reverse.zip bs'.reverse).takeWhile fun (a, b) => a == b).length
  let (as', bs') := (as'.take (as'.length - stop), bs'.take (bs'.length - stop))
  merged (edits (as'.length + bs'.length + 1) start start as' bs' (commonRows as' bs'))

/-- A range of lines by the numbers of its ends; an empty one by the line before it. -/
def rangeText (start count : Nat) : String :=
  if count ≤ 1 then toString (start + count) else toString (start + 1) ++ "," ++ toString (start + count)

/-- Lines with a sign before each; one that has no end is told of. -/
def signed (sign : String) (lines : List String) : String :=
  String.join (lines.map fun line =>
    sign ++ line ++ (if line.endsWith "\n" then "" else "\n\\ No newline at end of file\n"))

def asCommands (as bs : List String) (cs : List Change) : String :=
  String.join (cs.map fun c =>
    let kind := if c.removed = 0 then "a" else if c.added = 0 then "d" else "c"
    rangeText c.first c.removed ++ kind ++ rangeText c.second c.added ++ "\n" ++
      signed "< " ((as.drop c.first).take c.removed) ++ (if kind = "c" then "---\n" else "") ++
      signed "> " ((bs.drop c.second).take c.added))

def hunks (context : Nat) (cs : List Change) : List (List Change) :=
  cs.splitBy fun c d => d.first - (c.first + c.removed) ≤ 2 * context

def asHunks (context : Nat) (as bs : List String) (cs : List Change) : String :=
  String.join ((hunks context cs).map fun hunk =>
    let c := hunk.headD ⟨0, 0, 0, 0⟩
    let d := hunk.getLastD c
    let before := min context c.first
    let start := c.first - before
    let after := min context (as.length - (d.first + d.removed))
    let stop := d.first + d.removed + after
    let startB := c.second - before
    let stopB := d.second + d.added + after
    let range (start count : Nat) : String :=
      if count = 1 then toString (start + 1)
      else toString (if count = 0 then start else start + 1) ++ "," ++ toString count
    let (body, last) := hunk.foldl (fun (text, i) e =>
      (text ++ signed " " ((as.drop i).take (e.first - i)) ++ signed "-" ((as.drop e.first).take e.removed) ++
        signed "+" ((bs.drop e.second).take e.added), e.first + e.removed)) ("", start)
    "@@ -" ++ range start (stop - start) ++ " +" ++ range startB (stopB - startB) ++ " @@\n" ++ body ++
      signed " " ((as.drop last).take (stop - last)))

def asEdits (bs : List String) (cs : List Change) : String :=
  String.join (cs.reverse.map fun c =>
    let kind := if c.removed = 0 then "a" else if c.added = 0 then "d" else "c"
    let added := (bs.drop c.second).take c.added
    rangeText c.first c.removed ++ kind ++ "\n" ++ String.join added ++ (if c.added = 0 then "" else ".\n"))

/-! ### Files -/

def diffOptions : OptionTable where
  letters := "abBdeiqrsuU:wNTL:tEZyclnpx:αβ::"
  names := [("text", 'a'), ("ignore-space-change", 'b'), ("ignore-blank-lines", 'B'), ("ignore-case", 'i'),
    ("brief", 'q'), ("recursive", 'r'), ("report-identical-files", 's'), ("ignore-all-space", 'w'), ("unified", 'u'),
    ("new-file", 'N'), ("label", 'L'), ("ed", 'e'), ("exclude", 'x'), ("normal", 'α'), ("color", 'β')]

def diffKey (o : Options) (line : String) : String :=
  let isBlank (c : Char) : Bool := c = ' ' || c = '\t' || c = '\n'
  let cs := line.toList
  let cs := if o.has 'w' then cs.filter (!isBlank ·)
    else if o.has 'b' then
      ((cs.reverse.dropWhile isBlank).reverse.splitBy fun x y => isBlank x && isBlank y).flatMap fun run =>
        if run.head?.any isBlank then [' '] else run
    else cs
  String.ofList (if o.has 'i' then cs.map Char.toLower else cs)

/-- Shows the changes between two files, under a head if there are any. The status says whether there are. -/
def diffFiles (o : Options) (head first second : String) : Action Nat := do
  let read (file : String) : Action (Except FileError String) := do
    match ← contents takeAll file with
    | .error .notFound => return if o.has 'N' then .ok "" else .error .notFound
    | result => return result
  let isMissing (file : String) : Action Bool := do return file ≠ "-" && (entryAt? (← get).tree file).isNone
  match ← read first, ← read second with
  | .ok a, .ok b =>
    if (← isMissing first) && (← isMissing second) then
      for file in [first, second] do warn (about file .notFound)
      return 2
    let isBinary (text : String) : Bool := text.toList.contains '\x00' && !o.has 'a'
    let (as, bs) := (lines a, lines b)
    let isSame : Bool := if isBinary a || isBinary b then a == b
      else as.map (diffKey o) == bs.map (diffKey o)
    if isSame then
      if o.has 's' then emit 1 ("Files " ++ first ++ " and " ++ second ++ " are identical\n")
      return 0
    let name (i : Nat) (file : String) : String := ((o.values 'L')[i]?).getD file
    if isBinary a || isBinary b then
      emit 1 ((if o.has 'q' then "Files " else "Binary files ") ++ first ++ " and " ++ second ++ " differ\n")
    else if o.has 'q' then emit 1 ("Files " ++ name 0 first ++ " and " ++ name 1 second ++ " differ\n")
    else
      let cs := changes (as.map (diffKey o)) (bs.map (diffKey o))
      emit 1 head
      if o.has 'u' ∨ o.has 'U' then
        let stamp := "\t1970-01-01 00:00:00.000000000 +0000"
        let title (i : Nat) (file : String) : String := ((o.values 'L')[i]?).getD (file ++ stamp)
        emit 1 ("--- " ++ title 0 first ++ "\n+++ " ++ title 1 second ++ "\n" ++
          asHunks (((o.value? 'U').bind String.toNat?).getD 3) as bs cs)
      else if o.has 'e' then emit 1 (asEdits bs cs)
      else emit 1 (asCommands as bs cs)
    return 1
  | a, b =>
    if let .error e := a then warn (about first e)
    if let .error e := b then warn (about second e)
    return 2

def diffDirectories (o : Options) (command : String) : Nat → String → String → Action Nat
  | 0, _, _ => return 0
  | n + 1, first, second => do
    let t := (← get).tree
    let namesOf (dir : String) : List String := match t.resolve (toText dir) with
      | .ok place => (t.namesIn place).map ofText
      | .error _ => []
    let (ours, theirs) := (namesOf first, namesOf second)
    let isMeant (name : String) : Bool :=
      !(o.values 'x').any fun p => Pattern.fits (Pattern.ofText p.toList) name.toList
    let names := ((ours ++ theirs.filter (· ∉ ours)).filter isMeant).mergeSort (· ≤ ·)
    let mut status := 0
    for name in names do
      let (a, b) := (inside first name, inside second name)
      let next ←
        if !o.has 'N' ∧ (name ∉ theirs ∨ name ∉ ours) then do
          emit 1 ("Only in " ++ (if name ∈ ours then first else second) ++ ": " ++ name ++ "\n")
          pure 1
        else
          match isDirectory t a, isDirectory t b with
          | true, true =>
            if o.has 'r' then diffDirectories o command n a b
            else do
              emit 1 ("Common subdirectories: " ++ a ++ " and " ++ b ++ "\n")
              pure 0
          | false, false => diffFiles o (command ++ " " ++ a ++ " " ++ b ++ "\n") a b
          | isFirst, _ => do
            let kind (isDir : Bool) : String := if isDir then "directory" else "regular file"
            emit 1 ("File " ++ a ++ " is a " ++ kind isFirst ++ " while file " ++ b ++ " is a " ++ kind (!isFirst) ++ "\n")
            pure 1
      status := max status next
    return status

def diff : Utility := fun words => do
  match Options.ofWords diffOptions words with
  | .error e => misusedByName e.message
  | .ok o =>
    match o.words with
    | [first, second] =>
      let t := (← get).tree
      match isDirectory t first, isDirectory t second with
      | true, true =>
        if (t.resolve (toText first)).toOption = (t.resolve (toText second)).toOption then return 0
        let command := " ".intercalate ((← get).name :: words.filter (· ∉ o.words))
        diffDirectories o command 100 first second
      | isFirst, isSecond =>
        let isMissing (file : String) : Bool := file ≠ "-" && (entryAt? t file).isNone && !o.has 'N'
        if let some file := [first, second].find? isMissing then
          if isFirst ∨ isSecond then
            warn (about file .notFound)
            return 2
        let named (isDir : Bool) (a b : String) : String := if isDir ∧ b ≠ "-" then inside a (lastName b) else a
        diffFiles o "" (named isFirst first second) (named isSecond second first)
    | [] => misusedByName ("missing operand after " ++ Quoting.word (← get).name)
    | [word] => misusedByName ("missing operand after " ++ Quoting.word word)
    | _ => misusedByName ("extra operand " ++ Quoting.word ((o.words[2]?).getD ""))

end ProcessDiagram.Shell.Utility
