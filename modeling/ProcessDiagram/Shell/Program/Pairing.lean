import ProcessDiagram.Shell.Program.Fields

/-! Programs that bring together the lines of two files, each of which is in order. -/
namespace ProcessDiagram.Shell.Utility

open ProcessDiagram.Shell.Action

/-! ### Order -/

inductive OrderCheck where
  | always
  /-- From the first line on that has no partner. -/
  | ifUnpaired
  | never
deriving DecidableEq

/-- A line with what it is ordered by. -/
structure Row where
  number : Nat
  text : String
  fields : List String
  key : String

/-- What comes of two files: a line in a column, or a line that stands behind one which it should stand before. -/
inductive Merged where
  | line (column : Nat) (text : String)
  | disorder (file : Nat) (row : Row)

/-- How far two files have been brought together. -/
structure Merging where
  check : OrderCheck
  isUnpaired : Bool := false
  disordered : List Nat := []
  /-- What has come of them, the last first. -/
  found : List Merged := []

namespace Merging

def add (m : Merging) (column : Nat) (texts : List String) : Merging :=
  { m with found := texts.foldl (fun found text => .line column text :: found) m.found }

def unpaired (m : Merging) : Merging := { m with isUnpaired := true }

/-- Looks at two lines of a file that follow each other. A file is found to be out of order once. -/
def look (m : Merging) (file : Nat) (first second : Row) : Merging :=
  let isDue := m.check = .always ∨ (m.check = .ifUnpaired ∧ m.isUnpaired)
  if isDue ∧ file ∉ m.disordered ∧ second.key < first.key then
    { m with disordered := file :: m.disordered, found := .disorder file second :: m.found }
  else m

def lookAtAll (m : Merging) (file : Nat) : List Row → Merging
  | first :: second :: rest => (m.look file first second).lookAtAll file (second :: rest)
  | _ => m

end Merging

/-- Writes what has come of two files; the first line out of order may end it. -/
def writeMerged (m : Merging) (disorder : Nat → Row → String) (shown : Nat → String → Option String) :
    Action Bool := do
  for step in m.found.reverse do
    match step with
    | .line column text => if let some text := shown column text then emit 1 text
    | .disorder file row =>
      warn (disorder file row)
      if m.check = .always then return false
  return true

def checkNames : List (String × Char) := [("check-order", 'α'), ("nocheck-order", 'β')]

def orderCheck (o : Options) : OrderCheck :=
  match o.last? ['α', 'β'] with
  | some 'α' => .always
  | some _ => .never
  | none => .ifUnpaired

/-! ### Columns -/

/-- Puts the lines of two files into one order, each into the column of its file or that of both. What stands before
the lines of a file is its line before, if any. The number bounds the lines. -/
def inColumns : Nat → Merging → Option Row → Option Row → List Row → List Row → Merging
  | 0, m, _, _, _, _ => m
  | n + 1, m, before, before', as, bs =>
    let next (m : Merging) (file : Nat) (before : Option Row) (row : Row) (rest : List Row) : Merging :=
      match rest.head?, before with
      | some after, _ => m.look file row after
      | none, some earlier => m.look file earlier row
      | none, none => m
    let first (a : Row) (as : List Row) : Merging :=
      inColumns n (next ((m.add 1 [a.text]).unpaired) 1 before a as) (some a) before' as bs
    let second (b : Row) (bs : List Row) : Merging :=
      inColumns n (next ((m.add 2 [b.text]).unpaired) 2 before' b bs) before (some b) as bs
    match as, bs with
    | [], [] => m
    | a :: as, [] => first a as
    | [], b :: bs => second b bs
    | a :: as', b :: bs' =>
      if a.key < b.key then first a as'
      else if b.key < a.key then second b bs'
      else
        let m := next (next (m.add 3 [a.text]) 1 before a as') 2 before' b bs'
        inColumns n m (some a) (some b) as' bs'

def commOptions : OptionTable where
  letters := "123zO:αβγ"
  names := checkNames ++ [("output-delimiter", 'O'), ("total", 'γ'), ("zero-terminated", 'z')]

def comm : Utility := fun words =>
  withOptions commOptions (hint 1) words fun o => do
    match o.words with
    | [first, second] =>
      let (found, status) ← readFiles about [first, second]
      match found with
      | [(_, a), (_, b)] =>
        let lineEnd := if o.has 'z' then "\x00" else "\n"
        let rows (text : String) : List Row := ((bareLinesOf o text).zipIdx 1).map fun (line, number) =>
          { number, text := line, fields := [], key := line }
        let (as, bs) := (rows a, rows b)
        let between := (o.value? 'O').getD "\t"
        let isShown (column : Nat) : Bool := !o.has (Nat.digitChar column)
        let before (column : Nat) : String :=
          String.join ((List.range' 1 (column - 1)).map fun i => if isShown i then between else "")
        let m := inColumns (as.length + bs.length) { check := orderCheck o } none none as bs
        let goesOn ← writeMerged m (fun file _ => "file " ++ toString file ++ " is not in sorted order")
          fun column line => if isShown column then some (before column ++ line ++ lineEnd) else none
        if !goesOn then return 1
        let count (column : Nat) : String := toString (m.found.countP fun
          | .line c _ => c = column
          | .disorder _ _ => false)
        if o.has 'γ' then emit 1 (between.intercalate [count 1, count 2, count 3, "total"] ++ lineEnd)
        if m.disordered.isEmpty then return 0
        warn "input is not in sorted order"
        return 1
      | _ => return status
    | [] => misused "missing operand"
    | [word] => misused ("missing operand after " ++ Quoting.word word)
    | _ => misused ("extra operand " ++ Quoting.word ((o.words[2]?).getD ""))

/-! ### Pairs -/

/-- The fields of a line: what stands between blanks, or between characters. -/
def fieldsAt (separator : Option Char) (line : String) : List String :=
  match separator with
  | some c => line.splitOn (String.singleton c)
  | none =>
    let isBlank (c : Char) : Bool := c = ' ' || c = '\t'
    ((line.toList.splitBy fun a b => isBlank a == isBlank b).filter fun run => !(run.head?.any isBlank)).map
      String.ofList

/-- How `join` puts two lines together. -/
structure Joining where
  separator : Option Char
  first : Nat
  second : Nat
  filler : String
  /-- The fields of a line that is written, each by its file and its number. -/
  form : Option (List (Nat × Nat))
  /-- The files whose lines without a partner are written. -/
  alone : List Nat
  wantsPairs : Bool

namespace Joining

/-- A line that is written for a pair of lines, of which one may be missing. -/
def line (j : Joining) (first second : Option Row) : String :=
  let between := (j.separator.map String.singleton).getD " "
  let fields (row : Option Row) : List String := (row.map Row.fields).getD []
  let shown (text : String) : String := if text = "" then j.filler else text
  let field (row : Option Row) (n : Nat) : String := shown (((fields row)[n - 1]?).getD "")
  let joint := if first.isSome then field first j.first else field second j.second
  match j.form with
  | some form => between.intercalate (form.map fun (file, n) =>
      if file = 0 then joint else field (if file = 1 then first else second) n)
  | none =>
    let others (row : Option Row) (n : Nat) : List String := ((fields row).eraseIdx (n - 1)).map shown
    between.intercalate (joint :: others first j.first ++ others second j.second)

def addAlone (j : Joining) (file : Nat) (rows : List Row) (m : Merging) : Merging :=
  if file ∉ j.alone then m
  else m.add 0 (rows.map fun row => if file = 1 then j.line (some row) none else j.line none (some row))

def pairs (j : Joining) : Nat → Merging → List Row → List Row → Merging
  | 0, m, _, _ => m
  | _, m, [], rest => (j.addAlone 2 rest m).lookAtAll 2 rest
  | _, m, rest, [] => (j.addAlone 1 rest m).lookAtAll 1 rest
  | n + 1, m, a :: as, b :: bs =>
    if a.key < b.key then pairs j n (((j.addAlone 1 [a] m).lookAtAll 1 (a :: as.take 1)).unpaired) as (b :: bs)
    else if b.key < a.key then pairs j n (((j.addAlone 2 [b] m).lookAtAll 2 (b :: bs.take 1)).unpaired) (a :: as) bs
    else
      let same := a :: as.takeWhile fun row => row.key = a.key
      let others := b :: bs.takeWhile fun row => row.key = b.key
      let (restOfFirst, restOfSecond) := ((a :: as).drop same.length, (b :: bs).drop others.length)
      let m := (m.lookAtAll 1 (same ++ restOfFirst.take 1)).lookAtAll 2 (others ++ restOfSecond.take 1)
      let lines := same.flatMap fun x => others.map fun y => j.line (some x) (some y)
      pairs j n (if j.wantsPairs then m.add 0 lines else m) restOfFirst restOfSecond

def fieldNumber (text : String) : Except String Nat :=
  match text.toNat? with
  | some (n + 1) => .ok (n + 1)
  | _ => .error ("invalid field number: " ++ Quoting.word text)

def fieldOfForm (text : String) : Except String (Nat × Nat) :=
  match text.toList with
  | ['0'] => .ok (0, 0)
  | '1' :: '.' :: number => (fieldNumber (String.ofList number)).map (1, ·)
  | '2' :: '.' :: number => (fieldNumber (String.ofList number)).map (2, ·)
  | c :: _ =>
    if c ∈ ['0', '1', '2'] then .error ("invalid field specifier: " ++ Quoting.word text)
    else .error ("invalid file number in field spec: " ++ Quoting.word text)
  | [] => .error ("invalid file number in field spec: " ++ Quoting.word text)

/-- What the options say of pairs, or what is wrong with them. The numbers of fields of the first lines matter if
these are the form of all. -/
def ofOptions (o : Options) (firstFields secondFields : Nat) : Except String Joining := do
  let number (c : Char) : Except String Nat := (((o.value? c).orElse fun _ => o.value? 'j').map fieldNumber).getD (.ok 1)
  let tab := (o.value? 't').map fun t => if t = "\\0" then "\x00" else t
  if tab.any fun t => 1 < t.length then throw ("multi-character tab " ++ Quoting.word (tab.getD ""))
  let alone ← (o.values 'a' ++ o.values 'v').mapM fun text =>
    if text = "1" ∨ text = "2" then .ok (text.toNat?.getD 0) else .error ("invalid field number: " ++ Quoting.word text)
  let first ← number '1'
  let second ← number '2'
  let items := (o.values 'o').flatMap fun text => (text.splitOn ",").flatMap (·.splitOn " ")
  let all (file fields key : Nat) : List (Nat × Nat) := ((List.range' 1 fields).filter (· ≠ key)).map (file, ·)
  let form ←
    if items.isEmpty then pure none
    else if items = ["auto"] then pure (some ((0, 0) :: all 1 firstFields first ++ all 2 secondFields second))
    else some <$> items.mapM fieldOfForm
  return {
    separator := tab.map fun t => (t.toList.head?).getD '\n', first, second, filler := (o.value? 'e').getD "", form
    alone, wantsPairs := !o.has 'v' }

end Joining

def joinOptions : OptionTable where
  letters := "a:e:io:t:v:1:2:j:zαβγ"
  names := checkNames ++ [("ignore-case", 'i'), ("header", 'γ'), ("zero-terminated", 'z')]

def join : Utility := fun words =>
  withOptions joinOptions (hint 1) words fun o => do
    match Joining.ofOptions o 0 0, o.words with
    | .error text, _ =>
      warn text
      return 1
    | .ok j, [first, second] =>
      if first = "-" ∧ second = "-" then
        warn "both files cannot be standard input"
        return 1
      let (found, status) ← readFiles aboutReading [first, second]
      match found with
      | [(_, a), (_, b)] =>
        let rows (key : Nat) (text : String) : List Row := ((bareLinesOf o text).zipIdx 1).map fun (line, number) =>
          let fields := fieldsAt j.separator line
          let key := ((fields[key - 1]?).getD "")
          { number, text := line, fields, key := if o.has 'i' then key.map Char.toUpper else key }
        let (as, bs) := (rows j.first a, rows j.second b)
        let fields (rows : List Row) : Nat := (rows.head?.map (·.fields.length)).getD 0
        let j := (Joining.ofOptions o (fields as) (fields bs)).toOption.getD j
        let heads := if o.has 'γ' ∧ !(as.isEmpty ∧ bs.isEmpty) then [j.line as.head? bs.head?] else []
        let behindHeads (rows : List Row) : List Row := if o.has 'γ' then rows.drop 1 else rows
        let m := j.pairs (as.length + bs.length + 1) (({ check := orderCheck o : Merging }).add 0 heads)
          (behindHeads as) (behindHeads bs)
        let disorder (file : Nat) (row : Row) : String :=
          (if file = 1 then first else second) ++ ":" ++ toString row.number ++ ": is not sorted: " ++ row.text
        let lineEnd := if o.has 'z' then "\x00" else "\n"
        if !(← writeMerged m disorder fun _ line => some (line ++ lineEnd)) then return 1
        if m.disordered.isEmpty then return status
        warn "input is not in sorted order"
        return 1
      | _ => return status
    | _, [] => misused "missing operand"
    | _, [word] => misused ("missing operand after " ++ Quoting.word word)
    | _, _ => misused ("extra operand " ++ Quoting.word ((o.words[2]?).getD ""))

end ProcessDiagram.Shell.Utility
