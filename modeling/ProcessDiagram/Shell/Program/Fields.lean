import ProcessDiagram.Shell.Program.Lines

/-! Programs that take lines apart and put them together. -/
namespace ProcessDiagram.Shell.Utility

open ProcessDiagram.Shell.Action

/-! ### Parts of lines -/

inductive RangeError where
  | fromZero
  | notANumber (text : String)
  | tooLarge (text : String)
  | noEnds
  | tooManyEnds
  | falling
deriving DecidableEq

def RangeError.message (inFields : Bool) : RangeError → String
  | .fromZero => if inFields then "fields are numbered from 1" else "byte/character positions are numbered from 1"
  | .notANumber text =>
    (if inFields then "invalid field value " else "invalid byte/character position ") ++ Quoting.word text
  | .tooLarge text =>
    (if inFields then "field number " else "byte/character offset ") ++ Quoting.word text ++ " is too large"
  | .noEnds => "invalid range with no endpoint: -"
  | .tooManyEnds => if inFields then "invalid field range" else "invalid byte or character range"
  | .falling => "invalid decreasing range"

def readRange (item : String) : Except RangeError (Nat × Option Nat) := do
  let number (text : String) : Except RangeError Nat :=
    match text.toNat? with
    | some n =>
      if !text.toList.all Char.isDigit then .error (.notANumber text)
      else if Nat.pow 2 64 ≤ n then .error (.tooLarge text)
      else .ok n
    | none => .error (.notANumber (String.ofList (text.toList.dropWhile Char.isDigit)))
  match item.splitOn "-" with
  | [""] => .error .fromZero
  | [one] =>
    let n ← number one
    if n = 0 then .error .fromZero else return (n, some n)
  | ["", ""] => .error .noEnds
  | [low, high] =>
    let first ← if low = "" then pure 1 else number low
    if first = 0 then .error .fromZero
    else if high = "" then return (first, none)
    else
      let last ← number high
      if last < first then .error .falling else return (first, some last)
  | low :: high :: _ => do
    for text in [low, high] do
      if text ≠ "" then
        let _ ← number text
    .error .tooManyEnds
  | [] => .error .fromZero

def readRanges (text : String) : Except RangeError (List (Nat × Option Nat)) :=
  let items := (text.splitOn ",").flatMap (·.splitOn " ")
  items.mapM readRange

def isChosen (ranges : List (Nat × Option Nat)) (n : Nat) : Bool :=
  ranges.any fun (low, high) => low ≤ n && high.all (n ≤ ·)

/-- The runs of chosen items: a run starts where a range of the list starts that none before it touches. -/
def chosenRuns (ranges : List (Nat × Option Nat)) (items : List α) : List (List α) :=
  let marked := (items.zipIdx 1).filter fun (_, i) => isChosen ranges i
  let isStart (i : Nat) : Bool :=
    ranges.any (·.1 = i) && !ranges.any fun (low, high) => low < i && high.all (i ≤ ·)
  marked.foldr (fun (item, i) runs => match runs with
    | run :: rest => if isStart i then [] :: (item :: run) :: rest else (item :: run) :: rest
    | [] => [[item]]) [[]] |>.filter (!·.isEmpty)

def complementOf (ranges : List (Nat × Option Nat)) (last : Nat) : List (Nat × Option Nat) :=
  let others := (List.range' 1 last).filter fun n => !isChosen ranges n
  others.foldr (fun n found => match found with
    | (low, high) :: rest => if low = n + 1 then (n, high) :: rest else (n, some n) :: found
    | [] => [(n, some n)]) []

def cutOptions : OptionTable where
  letters := "b:c:d:f:nszCO:"
  names := [("bytes", 'b'), ("characters", 'c'), ("delimiter", 'd'), ("fields", 'f'), ("only-delimited", 's'),
    ("zero-terminated", 'z'), ("complement", 'C'), ("output-delimiter", 'O')]

def cut : Utility := fun words =>
  withOptions cutOptions (hint 1) words fun o => do
    let lists := o.options.filter fun (c, _) => c ∈ ['b', 'c', 'f']
    match lists with
    | [] => misused "you must specify a list of bytes, characters, or fields"
    | [(kind, list)] =>
      let inFields := kind = 'f'
      let delimiter := (o.value? 'd').getD "\t"
      if !inFields ∧ o.has 'd' then misused "an input delimiter may be specified only when operating on fields"
      else if !inFields ∧ o.has 's' then
        misused "suppressing non-delimited lines makes sense\n\tonly when operating on fields"
      else if 1 < delimiter.length then misused "the delimiter must be a single character"
      else
        match readRanges list with
        | .error e => misused (e.message inFields)
        | .ok ranges =>
          let (found, status) ← readFiles about o.words
          let delimiter := if delimiter = "" then "\x00" else delimiter
          let between := (o.value? 'O').getD (if inFields then delimiter else "")
          let lineEnd := if o.has 'z' then "\x00" else "\n"
          let shown (line : String) : Option String :=
            if inFields then
              let pieces := line.splitOn delimiter
              if pieces.length = 1 then (if o.has 's' then none else some line)
              else
                let ranges := if o.has 'C' then complementOf ranges pieces.length else ranges
                some (between.intercalate (((pieces.zipIdx 1).filter fun (_, i) => isChosen ranges i).map (·.1)))
            else
              let ranges := if o.has 'C' then complementOf ranges line.length else ranges
              some (between.intercalate ((chosenRuns ranges line.toList).map String.ofList))
          for (_, text) in found do
            for line in linesOf o text do
              let body := if line.endsWith lineEnd then String.ofList line.toList.dropLast else line
              if let some text := shown body then emit 1 (text ++ lineEnd)
          return status
    | _ => misused "only one list may be specified"

/-! ### Lines side by side -/

/-- The separators in a list, in which a backslash stands before letters; the empty one stands for nothing. -/
def separatorsOf : List Char → List String
  | '\\' :: '0' :: rest => "" :: separatorsOf rest
  | '\\' :: 'n' :: rest => "\n" :: separatorsOf rest
  | '\\' :: 't' :: rest => "\t" :: separatorsOf rest
  | '\\' :: c :: rest => String.singleton c :: separatorsOf rest
  | c :: rest => String.singleton c :: separatorsOf rest
  | [] => []

def joinInTurn (separators : List String) (items : List String) : String :=
  String.join (items.zipIdx.map fun (item, i) =>
    (if i = 0 then "" else (separators[(i - 1) % separators.length]?).getD "") ++ item)

/-- Gives each dash the lines of the input in turn: so many dashes, and which of them this is. -/
def shareOfInput (all : List String) (dashes i : Nat) : List String :=
  (all.zipIdx.filter fun (_, j) => j % dashes = i).map (·.1)

def pasteOptions : OptionTable where
  letters := "d:sz"
  names := [("delimiters", 'd'), ("serial", 's'), ("zero-terminated", 'z')]

def paste : Utility := fun words =>
  withOptions pasteOptions (hint 1) words fun o => do
    let given := (o.value? 'd').getD "\t"
    if (given.toList.reverse.takeWhile (· = '\\')).length % 2 = 1 then
      warn ("delimiter list ends with an unescaped backslash: " ++ given)
      return 1
    let separators := match separatorsOf given.toList with
      | [] => [""]
      | found => found
    let (found, status) ← readFiles about o.words
    let columns := found.map fun (file, text) => (file, bareLines text)
    if o.has 's' then
      for (_, column) in columns do emit 1 (joinInTurn separators column ++ "\n")
      return status
    if status ≠ 0 then return status
    let dashes := (columns.filter (·.1 = "-")).length
    let input := columns.flatMap fun (file, column) => if file = "-" then column else []
    let shared := columns.zipIdx.map fun ((file, column), i) =>
      if file = "-" then shareOfInput input dashes ((columns.take i).filter (·.1 = "-")).length else column
    let rows := (shared.map List.length).foldl max 0
    for i in List.range rows do
      emit 1 (joinInTurn separators (shared.map fun column => (column[i]?).getD "") ++ "\n")
    return status

/-! ### Widths -/

def columnAfter (inBytes : Bool) (column : Nat) (c : Char) : Nat :=
  if inBytes then column + 1
  else if c = '\x08' then column - 1
  else if c = '\r' then 0
  else if c = '\t' then column / 8 * 8 + 8
  else column + 1

/-- Folds a line at a width; where blanks break it, behind the last of those that fit. What fits so far is turned
round. The number bounds the characters and the breaks. -/
def foldLine (atBlanks inBytes : Bool) (width : Nat) : Nat → List Char → Nat → List Char → List (List Char)
  | 0, fitting, _, rest => [fitting.reverse ++ rest]
  | _, fitting, _, [] => [fitting.reverse]
  | n + 1, fitting, column, c :: cs =>
    let next := columnAfter inBytes column c
    let behindBlank := fitting.takeWhile fun c => c ≠ ' ' && c ≠ '\t'
    if next ≤ width then foldLine atBlanks inBytes width n (c :: fitting) next cs
    else if atBlanks ∧ behindBlank.length < fitting.length then
      let column := behindBlank.reverse.foldl (columnAfter inBytes) 0
      (fitting.drop behindBlank.length).reverse :: foldLine atBlanks inBytes width n behindBlank column (c :: cs)
    else if fitting.isEmpty then foldLine atBlanks inBytes width n [c] next cs
    else fitting.reverse :: foldLine atBlanks inBytes width n [] 0 (c :: cs)

def digitsAs (c : Char) (words : List String) : List String :=
  words.flatMap fun word => match word.toList with
    | '-' :: d :: ds => if (d :: ds).all Char.isDigit then ["-" ++ String.singleton c, String.ofList (d :: ds)] else [word]
    | _ => [word]

def fold : Utility := fun words =>
  withOptions { letters := "bsw:", names := [("bytes", 'b'), ("spaces", 's'), ("width", 'w')] } (hint 1)
    (digitsAs 'w' words) fun o => do
      let given := (o.value? 'w').getD "80"
      match given.toNat? with
      | none =>
        warn ("invalid number of columns: " ++ Quoting.word given)
        return 1
      | some 0 =>
        warn ("invalid number of columns: " ++ Quoting.word given ++ ": Numerical result out of range")
        return 1
      | some width =>
        let (found, status) ← readFiles about o.words
        for (_, text) in found do
          for line in lines text do
            let cs := (bare line).toList
            let pieces := foldLine (o.has 's') (o.has 'b') width (2 * cs.length + 1) [] 0 cs
            emit 1 (String.ofList (['\n'].intercalate pieces))
            if line.endsWith "\n" then emit 1 "\n"
        return status

/-- Where tabs lead to: every so many columns, or columns in a list. -/
inductive TabStops where
  | every (width : Nat)
  | listed (columns : List Nat)

/-- The next stop behind a column; behind the last there is none. -/
def TabStops.next? : TabStops → Nat → Option Nat
  | every width, column => some (column / width * width + width)
  | listed columns, column => columns.find? (column < ·)

def TabStops.ofText (text : String) : Except String TabStops := do
  let items := ((text.splitOn ",").flatMap (·.splitOn " ")).filter (· ≠ "")
  let columns ← items.mapM fun item => match item.toNat? with
    | some n => .ok n
    | none => .error ("tab size contains invalid character(s): " ++ Quoting.word item)
  match columns with
  | [] => return every 8
  | [width] => if width = 0 then throw "tab size cannot be 0" else return every width
  | _ =>
    if 0 ∈ columns then throw "tab size cannot be 0"
    if (columns.zip columns.tail).any fun (a, b) => b ≤ a then throw "tab sizes must be ascending"
    return listed columns

def expandLine (atStart : Bool) (stops : TabStops) : Bool → Nat → List Char → List Char
  | _, _, [] => []
  | inside, column, c :: cs =>
    if c = '\t' ∧ !(atStart && inside) then
      let n := ((stops.next? column).getD (column + 1)) - column
      List.replicate n ' ' ++ expandLine atStart stops inside (column + n) cs
    else
      c :: expandLine atStart stops (inside || (c ≠ ' ' && c ≠ '\t')) (if c = '\x08' then column - 1 else column + 1) cs

structure Blanks where
  column : Nat := 0
  waiting : List Char := []
  /-- What waits starts with a single blank before a stop. -/
  isSingle : Bool := false
  wasBlank : Bool := true

/-- Tabs for blanks, at the start of a line or in all of it. -/
def unexpandLine (everywhere : Bool) (stops : TabStops) : Blanks → List Char → List Char
  | b, [] => b.waiting.reverse
  | b, c :: cs =>
    let settled (b : Blanks) : List Char :=
      if b.isSingle ∧ 1 < b.waiting.length then '\t' :: b.waiting.reverse.drop 1 else b.waiting.reverse
    let after (b : Blanks) (isBlank : Bool) : Blanks :=
      { b with waiting := [], isSingle := if b.waiting.isEmpty then b.isSingle else false, wasBlank := isBlank }
    if c = ' ' ∨ c = '\t' then
      match stops.next? b.column with
      | none => settled b ++ c :: cs
      | some stop =>
        if c = '\t' then
          let waiting := if b.isSingle ∧ !b.waiting.isEmpty then ['\t'] else []
          let b := { b with column := stop, waiting }
          settled b ++ '\t' :: unexpandLine everywhere stops (after b true) cs
        else
          let b := { b with column := b.column + 1 }
          if !(b.wasBlank ∧ b.column = stop) then
            unexpandLine everywhere stops
              { b with isSingle := b.isSingle || b.column = stop, waiting := ' ' :: b.waiting, wasBlank := true } cs
          else
            let b := { b with waiting := if b.isSingle then ['\t'] else [] }
            settled b ++ '\t' :: unexpandLine everywhere stops (after b true) cs
    else if everywhere then
      let b := { b with column := if c = '\x08' then b.column - 1 else b.column + 1 }
      settled b ++ c :: unexpandLine everywhere stops (after b false) cs
    else settled b ++ c :: cs

def withTabStops (o : Options) (line : TabStops → List Char → List Char) : Action Nat := do
  match ((o.value? 't').map TabStops.ofText).getD (.ok (.every 8)) with
  | .error text =>
    warn text
    return 1
  | .ok stops =>
    let (found, status) ← readFiles about o.words
    for (_, text) in found do
      for whole in lines text do
        emit 1 (String.ofList (line stops (bare whole).toList) ++ (if whole.endsWith "\n" then "\n" else ""))
    return status

def expand : Utility := fun words =>
  withOptions { letters := "it:", names := [("initial", 'i'), ("tabs", 't')] } (hint 1) (digitsAs 't' words) fun o =>
    withTabStops o fun stops line => expandLine (o.has 'i') stops false 0 line

def unexpand : Utility := fun words =>
  withOptions { letters := "at:f", names := [("all", 'a'), ("first-only", 'f'), ("tabs", 't')] } (hint 1) words fun o =>
    withTabStops o fun stops line => unexpandLine ((o.has 'a' || o.has 't') && !o.has 'f') stops {} line

def rev : Utility := fun words =>
  withOptions "" (hint 1) words fun o => do
    let (found, status) ← readFiles (fun file e => "cannot open " ++ file ++ ": " ++ e.reason) o.words
    for (_, text) in found do
      for line in lines text do
        emit 1 (String.ofList (bare line).toList.reverse ++ (if line.endsWith "\n" then "\n" else ""))
    return status

end ProcessDiagram.Shell.Utility
