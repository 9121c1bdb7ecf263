import ProcessDiagram.Shell.Pattern
import ProcessDiagram.Shell.Program.Attributes
import ProcessDiagram.Shell.Program.Sorting

/-! The names in directories, listed. -/
namespace ProcessDiagram.Shell.Utility

open ProcessDiagram.Shell.Action

def lsOptions : OptionTable where
  letters := "1aAbBcCdfFgGhHiI:klLmnNopqQrRsStT:uUvw:xXZα::β:"
  names := [("all", 'a'), ("almost-all", 'A'), ("directory", 'd'), ("classify", 'F'), ("recursive", 'R'),
    ("reverse", 'r'), ("ignore", 'I'), ("ignore-backups", 'B'), ("hide", 'β'), ("color", 'α'), ("quote-name", 'Q'),
    ("width", 'w'), ("human-readable", 'h'), ("inode", 'i'), ("size", 's'), ("numeric-uid-gid", 'n'), ("no-group", 'G'),
    ("dereference", 'L'), ("literal", 'N'), ("escape", 'b')]

structure Listed where
  name : String
  place : FileTree.Place
  entry : FileTree.Entry

def classSign (o : Options) (e : FileTree.Entry) : String :=
  match e with
  | .directory => if o.has 'F' ∨ o.has 'p' then "/" else ""
  | .link _ => if o.has 'F' then "@" else ""
  | .file _ true => if o.has 'F' then "*" else ""
  | .program _ => if o.has 'F' then "*" else ""
  | _ => ""

def Listed.shown (l : Listed) (o : Options) : String :=
  let guarded : String := String.ofList (l.name.toList.flatMap fun c => if c = '"' ∨ c = '\\' then ['\\', c] else [c])
  (if o.has 'Q' then "\"" ++ guarded ++ "\"" else l.name) ++ classSign o l.entry

/-! ### Order -/

def extension (name : String) : String :=
  let ending := name.toList.reverse.takeWhile (· ≠ '.')
  if ending.length = name.length then "" else "." ++ String.ofList ending.reverse

def inListOrder (o : Options) (items : List Listed) : List Listed :=
  let byName (a b : Listed) : Ordering := compare a.name b.name
  let size (l : Listed) : Nat := (attributes l.entry).size
  let order (a b : Listed) : Ordering := match o.last? ['S', 'X', 'v', 't', 'U', 'f'] with
    | some 'S' => (compare (size b) (size a)).then (byName a b)
    | some 'X' => (compare (extension a.name) (extension b.name)).then (byName a b)
    | some 'v' => (compareVersions (a.name.length + b.name.length + 1) a.name.toList b.name.toList).then (byName a b)
    | some 'U' => .eq
    | some 'f' => .eq
    | _ => byName a b
  let sorted := items.mergeSort fun a b => order a b ≠ .gt
  if o.has 'r' then sorted.reverse else sorted

/-! ### Columns -/

/-- Blanks from a column to another; tabs where they save any. The number bounds the columns. -/
def gap : Nat → Nat → Nat → List Char
  | 0, _, _ => []
  | n + 1, column, stop =>
    if stop ≤ column then []
    else if (column + 1) / 8 < stop / 8 then '\t' :: gap n (column / 8 * 8 + 8) stop
    else ' ' :: gap n (column + 1) stop

def inListColumns (width : Nat) (downwards : Bool) (names : List String) : String :=
  let count := names.length
  let rowsFor (cols : Nat) : Nat := (count + cols - 1) / cols
  let nameAt (cols r c : Nat) : Option String := names[if downwards then c * rowsFor cols + r else r * cols + c]?
  let columnWidth (cols c : Nat) : Nat :=
    (List.range (rowsFor cols)).foldl (fun most r => match nameAt cols r c with
      | some name => max most (name.length + if c + 1 = cols then 0 else 2)
      | none => most) 3
  let isFitting (cols : Nat) : Bool := (List.range cols).foldl (fun n c => n + columnWidth cols c) 0 < width
  let most := max 1 (min count (width / 3))
  let cols := ((List.range' 2 (most - 1)).reverse.find? isFitting).getD 1
  String.join ((List.range (rowsFor cols)).map fun r =>
    let (text, _) := (List.range cols).foldl (fun (text, start, before) c => match nameAt cols r c with
      | none => (text, start, before)
      | some name =>
        (text ++ String.ofList (gap 1000 before start) ++ name, start + columnWidth cols c, start + name.length))
      ("", 0, 0)
    text ++ "\n")

def inListLines (width : Nat) (names : List String) : String :=
  let (text, _) := names.foldl (fun (text, column) name =>
    if text = "" then (name, name.length)
    else if column + name.length + 2 < width then (text ++ ", " ++ name, column + 2 + name.length)
    else (text ++ ",\n" ++ name, name.length)) ("", 0)
  if names.isEmpty then "" else text ++ "\n"

/-! ### Rows -/

def blocks (e : FileTree.Entry) : Nat :=
  match e with
  | .link _ => 0
  | e => ((attributes e).size + 4095) / 4096 * 4

def inListRows (o : Options) (t : FileTree) (stamp : String) (items : List Listed) : String :=
  let owner := if o.has 'n' then "0" else "root"
  let links (l : Listed) : String := toString (nameCount t l.place)
  let size (l : Listed) : String := toString (attributes l.entry).size
  let widest (column : Listed → String) : Nat := items.foldl (fun most l => max most (column l).length) 0
  String.join (items.map fun l =>
    let a := attributes l.entry
    let owners := (if o.has 'g' then [] else [owner]) ++ (if o.has 'G' ∨ o.has 'o' then [] else [owner])
    let target := match l.entry with
      | .link path => " -> " ++ ofText path
      | _ => ""
    " ".intercalate (
      [String.singleton a.letter ++ modeLetters a.mode, toRight (widest links) (links l)] ++ owners ++
        [toRight (widest size) (size l), stamp, l.shown o ++ target]) ++ "\n")

def listing (o : Options) (t : FileTree) (stamp : String) (items : List Listed) : String :=
  let names := items.map (·.shown o)
  let width := ((o.value? 'w').bind String.toNat?).getD 80
  let width := if width = 0 then 1000000 else width
  match o.last? ['1', 'C', 'x', 'm', 'l', 'n', 'g', 'o'] with
  | some 'm' => inListLines width names
  | some 'C' => inListColumns width true names
  | some 'x' => inListColumns width false names
  | some '1' => if isLong o then inListRows o t stamp items else String.join (names.map (· ++ "\n"))
  | none => String.join (names.map (· ++ "\n"))
  | _ => inListRows o t stamp items
where
  isLong (o : Options) : Bool := ['l', 'n', 'g', 'o'].any o.has

/-! ### Directories -/

def namesToList (o : Options) (t : FileTree) (place : FileTree.Place) : List Listed :=
  let names := (t.namesIn place).map ofText
  let fits (patterns : List String) (name : String) : Bool :=
    patterns.any fun p => Pattern.fits (Pattern.ofText p.toList) name.toList
  let showsAll : Bool := o.has 'a' || o.has 'f'
  let names := names.filter fun name =>
    (showsAll || o.has 'A' || !name.startsWith ".") && !fits (o.values 'I') name &&
      (showsAll || o.has 'A' || !fits (o.values 'β') name) && !(o.has 'B' && name.endsWith "~")
  let items := names.map fun name =>
    let place := place ++ [toText name]
    ({ name, place, entry := (t.entry? place).getD .directory } : Listed)
  let dots := if showsAll then [⟨".", place, .directory⟩, ⟨"..", place.dropLast, .directory⟩] else []
  inListOrder o (dots ++ items)

def listsOf (o : Options) (t : FileTree) (stamp : String) : Nat → String → FileTree.Place → List (String × String)
  | 0, _, _ => []
  | n + 1, path, place =>
    let items := namesToList o t place
    let total := if ['l', 'n', 'g', 'o', 's'].any o.has then
      "total " ++ toString (items.foldl (fun n l => n + blocks l.entry) 0) ++ "\n" else ""
    (path, total ++ listing o t stamp items) ::
      if !o.has 'R' then []
      else items.flatMap fun l =>
        if l.name ≠ "." ∧ l.name ≠ ".." ∧ l.entry = .directory then listsOf o t stamp n (inside path l.name) l.place
        else []

def ls : Utility := fun words =>
  withOptions lsOptions (hint 2) words fun o => do
    let t := (← get).tree
    let stamp := timeText startTime 20 "%b %e %H:%M".toList
    let isLong : Bool := ['l', 'n', 'g', 'o'].any o.has
    let mut status := 0
    let mut found := []
    for path in (if o.words.isEmpty then ["."] else o.words) do
      match t.resolveLink (toText path) with
      | .error e =>
        warn ("cannot access " ++ Quoting.path path ++ ": " ++ e.reason)
        status := 2
      | .ok place =>
        let link : Listed := ⟨path, place, (t.entry? place).getD .directory⟩
        let item := match t.resolve (toText path) with
          | .ok target =>
            if t.entry? target = some .directory ∧ !isLong ∧ !o.has 'd' ∧ !o.has 'F' then
              { link with place := target, entry := .directory }
            else link
          | .error _ => link
        found := item :: found
    let items := inListOrder o found.reverse
    let (dirs, files) := items.partition fun l => l.entry = .directory && !o.has 'd'
    if !files.isEmpty then emit 1 (listing o t stamp files)
    let lists := dirs.flatMap fun l => listsOf o t stamp 100 l.name l.place
    let isNamed := 1 < o.words.length || o.has 'R'
    for ((path, text), i) in lists.zipIdx do
      let between := if i = 0 ∧ files.isEmpty then "" else "\n"
      emit 1 (between ++ (if isNamed then path ++ ":\n" else "") ++ text)
    return status

end ProcessDiagram.Shell.Utility
