import ProcessDiagram.Shell.Program.Fields

/-! Programs that bring lines into an order, or look at lines that follow each other. -/
namespace ProcessDiagram.Shell.Utility

open ProcessDiagram.Shell.Action

/-! ### Keys -/

/-- The part of a line that is compared, and how. -/
structure SortKey where
  /-- How many fields stand before it, and how many characters of its own field. -/
  startField : Nat := 0
  startChar : Nat := 0
  /-- How many fields it goes beyond, and how many characters of the one after them; none for all of that field. -/
  last : Option (Nat × Nat) := none
  skipsAtStart : Bool := false
  skipsAtEnd : Bool := false
  letters : List Char := []

def isFieldBlank (c : Char) : Bool := c = ' ' || c = '\t' || c = '\n'

/-- What is left of a line after so many fields. -/
def afterFields (separator : Option Char) : Nat → List Char → List Char
  | 0, cs => cs
  | n + 1, cs =>
    match separator with
    | some c => afterFields separator n ((cs.dropWhile (· ≠ c)).drop 1)
    | none => afterFields separator n ((cs.dropWhile isFieldBlank).dropWhile fun c => !isFieldBlank c)

def afterWholeFields (separator : Option Char) : Nat → List Char → List Char
  | 0, cs => cs
  | n + 1, cs =>
    match separator with
    | some c => (afterFields separator n cs).dropWhile (· ≠ c)
    | none => afterFields separator (n + 1) cs

def SortKey.part (k : SortKey) (separator : Option Char) (line : List Char) : List Char :=
  let start := afterFields separator k.startField line
  let start := (if k.skipsAtStart then start.dropWhile isFieldBlank else start).drop k.startChar
  match k.last with
  | none => start
  | some (fields, chars) =>
    let rest :=
      if chars = 0 then afterWholeFields separator (fields + 1) line
      else
        let rest := afterFields separator fields line
        (if k.skipsAtEnd then rest.dropWhile isFieldBlank else rest).drop chars
    start.take (start.length - rest.length)

/-! ### Orders -/

/-- A decimal number at the start of a text: whether it is below zero, its digits, and those after its point. -/
structure Numeral where
  isNegative : Bool
  whole : List Char
  places : List Char

def Numeral.ofChars (cs : List Char) : Numeral × List Char :=
  let cs := cs.dropWhile isFieldBlank
  let (isNegative, cs) := match cs with
    | '-' :: rest => (true, rest)
    | _ => (false, cs)
  let whole := cs.takeWhile Char.isDigit
  let rest := cs.drop whole.length
  let (places, rest) := match rest with
    | '.' :: rest => (rest.takeWhile Char.isDigit, rest.dropWhile Char.isDigit)
    | _ => ([], rest)
  (⟨isNegative, whole.dropWhile (· = '0'), places.reverse.dropWhile (· = '0') |>.reverse⟩, rest)

def Numeral.isZero (d : Numeral) : Bool := d.whole.isEmpty && d.places.isEmpty

def Numeral.compare (a b : Numeral) : Ordering :=
  let size : Ordering :=
    (Ord.compare a.whole.length b.whole.length).then
      ((Ord.compare (String.ofList a.whole) (String.ofList b.whole)).then
        (Ord.compare (String.ofList a.places) (String.ofList b.places)))
  let below (d : Numeral) : Bool := d.isNegative && !d.isZero
  match below a, below b with
  | true, true => size.swap
  | true, false => .lt
  | false, true => .gt
  | false, false => size

/-- How a number that may have an exponent stands in the order: text without number comes first, then what is no
number, and then numbers. -/
def generalRank (cs : List Char) : Nat × Int × Nat :=
  let cs := cs.dropWhile isSpace
  let (isNegative, cs) := match cs with
    | '-' :: rest => (true, rest)
    | '+' :: rest => (false, rest)
    | _ => (false, cs)
  let inBaseSixteen? : Option Nat := match cs with
    | '0' :: x :: rest =>
      let (n, after) := Arithmetic.natFrom 16 0 rest
      if (x = 'x' ∨ x = 'X') ∧ after.length < rest.length then some n else none
    | _ => none
  let signed (n : Nat) : Int := if isNegative then -Int.ofNat n else n
  match inBaseSixteen? with
  | some n => (3, signed n, 1)
  | none =>
    match ProcessDiagram.Decimal.readNumber? cs with
    | none => (0, 0, 1)
    | some (.notANumber, _) => (1, 0, 1)
    | some (.infinite, _) => (if isNegative then 2 else 4, 0, 1)
    | some (.number x, _) => (3, signed x.num, x.den)

def compareGeneral (as bs : List Char) : Ordering :=
  let ((a, n, d), (b, m, e)) := (generalRank as, generalRank bs)
  (compare a b).then (compare (n * (e : Int)) (m * (d : Int)))

def months : List String := ["JAN", "FEB", "MAR", "APR", "MAY", "JUN", "JUL", "AUG", "SEP", "OCT", "NOV", "DEC"]

/-- The number of the month that a text starts with; there is none for other text. -/
def month (cs : List Char) : Nat :=
  let name := String.ofList (((cs.dropWhile isFieldBlank).take 3).map Char.toUpper)
  if name ∈ months then months.idxOf name + 1 else 0

/-- How a character stands in the order of versions; a tilde comes before the end. -/
def versionRank (c : Char) : Nat := if c = '~' then 0 else if c.isAlpha then c.toNat + 2 else c.toNat + 258

/-- Compares versions: runs of digits as numbers, and what is between them by its characters. The number bounds the
runs. -/
def compareVersions : Nat → List Char → List Char → Ordering
  | 0, _, _ => .eq
  | n + 1, as, bs =>
    if as.isEmpty ∧ bs.isEmpty then .eq
    else
      let (ta, tb) := (as.takeWhile fun c => !c.isDigit, bs.takeWhile fun c => !c.isDigit)
      let rank (t : List Char) (i : Nat) : Nat := ((t[i]?).map versionRank).getD 1
      let texts : Ordering := (List.range (max ta.length tb.length)).foldl (fun (o : Ordering) i =>
        o.then (compare (rank ta i) (rank tb i))) .eq
      let (ra, rb) := (as.drop ta.length, bs.drop tb.length)
      let (da, db) := (ra.takeWhile Char.isDigit, rb.takeWhile Char.isDigit)
      let value (d : List Char) : Nat := ((String.ofList d).toNat?).getD 0
      texts.then ((compare (value da) (value db)).then (compareVersions n (ra.drop da.length) (rb.drop db.length)))

/-- The order of a number that is meant for readers: its sign, its factor and its digits. -/
def compareReadable (as bs : List Char) : Ordering :=
  let ((a, ra), (b, rb)) := (Numeral.ofChars as, Numeral.ofChars bs)
  let factor (d : Numeral) (rest : List Char) : Nat :=
    if d.isZero then 0 else match rest.head? with
      | some 'k' => 1
      | some c => if "KMGTPEZYRQ".toList.contains c then "KMGTPEZYRQ".toList.idxOf c + 1 else 0
      | none => 0
  let sign (d : Numeral) : Int := if d.isZero then 0 else if d.isNegative then -1 else 1
  let size := compare (factor a ra) (factor b rb)
  (compare (sign a) (sign b)).then ((if a.isNegative then size.swap else size).then (a.compare b))

def SortKey.compare (k : SortKey) (a b : List Char) : Ordering :=
  let has (c : Char) : Bool := c ∈ k.letters
  let kept (cs : List Char) : List Char :=
    let cs := if has 'd' then cs.filter fun c => c.isAlphanum || isFieldBlank c
      else if has 'i' then cs.filter isPrinted else cs
    if has 'f' then cs.map Char.toUpper else cs
  let result :=
    if has 'n' then (Numeral.ofChars a).1.compare (Numeral.ofChars b).1
    else if has 'h' then compareReadable a b
    else if has 'g' then compareGeneral a b
    else if has 'M' then Ord.compare (month a) (month b)
    else if has 'V' then compareVersions (a.length + b.length + 1) a b
    else Ord.compare (String.ofList (kept a)) (String.ofList (kept b))
  if has 'r' then result.swap else result

/-- A position in a key: a field, perhaps a character of it, and letters. -/
def position? (text : String) : Option (Nat × Option Nat × List Char) := do
  let cs := text.toList
  let field := cs.takeWhile Char.isDigit
  let n ← (String.ofList field).toNat?
  match cs.drop field.length with
  | '.' :: rest =>
    let char := rest.takeWhile Char.isDigit
    return (n, some (← (String.ofList char).toNat?), rest.drop char.length)
  | rest => return (n, none, rest)

/-- The letters of which a key may have only one, if there are others. -/
def conflict? (letters : List Char) : Option String :=
  let kinds := (['g', 'h', 'M', 'n'].filter (letters.contains ·)).length +
    (if ['d', 'i', 'R', 'V'].any (letters.contains ·) then 1 else 0)
  if kinds ≤ 1 then none
  else
    let shown := "dfghiMnRV".toList.filter fun c => letters.contains c && !(c = 'i' && letters.contains 'd')
    some ("options '-" ++ String.ofList shown ++ "' are incompatible")

def readKey (text : String) : Except String SortKey := do
  let refuse (why : String) : Except String SortKey := .error (why ++ ": invalid field specification " ++ Quoting.word text)
  let isStray (letters : List Char) : Bool := !letters.all ("bdfghiMnRrV".toList.contains ·)
  match text.splitOn "," with
  | first :: rest =>
    if ((position? first).toList ++ (rest.filterMap position?)).any fun (_, _, letters) => isStray letters then
      return (← refuse "stray character in field spec")
    if rest.length > 1 then return (← refuse "stray character in field spec")
    match position? first, rest.head? with
    | none, _ => .error ("invalid number at field start: invalid count at start of " ++ Quoting.word first)
    | some (0, _, _), _ => refuse "field number is zero"
    | some (_, some 0, _), _ => refuse "character offset is zero"
    | some (field, char, letters), none =>
      return { startField := field - 1, startChar := char.getD 1 - 1, skipsAtStart := 'b' ∈ letters, letters }
    | some (field, char, letters), some second =>
      match position? second with
      | none => .error ("invalid number after ',': invalid count at start of " ++ Quoting.word second)
      | some (0, _, _) => refuse "field number is zero"
      | some (last, chars, more) =>
        return {
          startField := field - 1, startChar := char.getD 1 - 1, last := some (last - 1, chars.getD 0)
          skipsAtStart := 'b' ∈ letters, skipsAtEnd := 'b' ∈ more, letters := letters ++ more }
  | [] => refuse "field number is zero"

/-! ### Sorting -/

/-- How lines are ordered: by keys, and by all of them if that leaves a choice. -/
structure LineOrder where
  separator : Option Char
  keys : List SortKey
  isReversed : Bool
  isStable : Bool

def LineOrder.byKeys (l : LineOrder) (a b : String) : Ordering :=
  l.keys.foldl (fun o k =>
    if o = .eq then k.compare (k.part l.separator a.toList) (k.part l.separator b.toList) else o) .eq

def LineOrder.compare (l : LineOrder) (a b : String) : Ordering :=
  let whole := Ord.compare a b
  if l.keys.isEmpty then (if l.isReversed then whole.swap else whole)
  else (l.byKeys a b).then (if l.isStable then .eq else if l.isReversed then whole.swap else whole)

def LineOrder.isSame (l : LineOrder) (a b : String) : Bool := if l.keys.isEmpty then a == b else l.byKeys a b == .eq

/-- Lines of which only the first of those that count as one is kept. -/
def LineOrder.unique (l : LineOrder) : List String → List String
  | [] => []
  | a :: rest =>
    match unique l rest with
    | [] => [a]
    | b :: more => if l.isSame a b then a :: more else a :: b :: more

def LineOrder.disorder? (l : LineOrder) (strictly : Bool) : Nat → List String → Option (Nat × String)
  | n, a :: b :: rest =>
    let isBad := if strictly then l.compare a b ≠ .lt else l.compare a b = .gt
    if isBad then some (n + 1, b) else disorder? l strictly (n + 1) (b :: rest)
  | _, _ => none

def sortOptions : OptionTable where
  letters := "bcdfghik:mno:rst:uzCMRS:T:Vα:β:γ::"
  names := [("ignore-leading-blanks", 'b'), ("check", 'γ'), ("dictionary-order", 'd'), ("ignore-case", 'f'),
    ("general-numeric-sort", 'g'), ("human-numeric-sort", 'h'), ("ignore-nonprinting", 'i'), ("key", 'k'),
    ("merge", 'm'), ("numeric-sort", 'n'), ("output", 'o'), ("reverse", 'r'), ("stable", 's'),
    ("field-separator", 't'), ("unique", 'u'), ("zero-terminated", 'z'), ("month-sort", 'M'), ("version-sort", 'V'), ("random-sort", 'R'),
    ("parallel", 'β'), ("buffer-size", 'S'), ("temporary-directory", 'T'), ("sort", 'α')]

def orderNames : List (String × Char) :=
  [("general-numeric", 'g'), ("human-numeric", 'h'), ("month", 'M'), ("numeric", 'n'), ("random", 'R'), ("version", 'V')]

def plainSortOption (o : Char × String) : Except String (Char × String) :=
  match o with
  | ('α', name) => match choice? (orderNames.map (·.1)) name with
    | some found => .ok ((orderNames.lookup found).getD 'n', "")
    | none => .error "--sort"
  | ('γ', "") => .ok ('c', "")
  | ('γ', name) => match choice? ["quiet", "silent", "diagnose-first"] name with
    | some found => .ok (if found = "diagnose-first" then 'c' else 'C', "")
    | none => .error "--check"
  | o => .ok o

def sort : Utility := fun words =>
  withOptions sortOptions (hint 2) words fun given => do
    let options ← match given.options.mapM plainSortOption with
      | .ok options => pure options
      | .error name =>
        let isCheck := name = "--check"
        return (← refuseArgument name ((given.value? (if isCheck then 'γ' else 'α')).getD "")
          (if isCheck then ["'quiet', 'silent'", "'diagnose-first'"] else orderNames.map fun (n, _) => "'" ++ n ++ "'"))
    let o : Options := { given with options }
    if o.has 'c' ∧ o.has 'C' then
      warn "options '-cC' are incompatible"
      return 2
    let letters := (o.options.map (·.1)).filter ("bdfghiMnrRV".toList.contains ·)
    let tab := (o.value? 't').map fun t => if t = "\\0" then "\x00" else t
    match (o.values 'k').mapM readKey with
    | .error text =>
      warn text
      return 2
    | .ok given =>
      if tab = some "" then
        warn "empty tab"
        return 2
      if tab.any fun t => 1 < t.length then
        warn ("multi-character tab " ++ Quoting.word (tab.getD ""))
        return 2
      let own (k : SortKey) : SortKey :=
        if k.letters.isEmpty then
          { k with letters, skipsAtStart := 'b' ∈ letters, skipsAtEnd := 'b' ∈ letters }
        else k
      let keys := if given.isEmpty ∧ letters.any (· ≠ 'r') then
          [{ letters, skipsAtStart := 'b' ∈ letters : SortKey }]
        else given.map own
      if let some text := keys.findSome? fun k => conflict? k.letters then
        warn text
        return 2
      if let some c := o.last? ['c', 'C'] then
        if let some word := o.words[1]? then
          warn ("extra operand " ++ Quoting.word word ++ " not allowed with -" ++ String.singleton c)
          return 2
        if o.has 'o' then
          warn ("options '-" ++ String.singleton c ++ "o' are incompatible")
          return 2
      let order : LineOrder := {
        separator := tab.bind fun t => t.toList.head?, keys, isReversed := o.has 'r', isStable := o.has 's' || o.has 'u' }
      let complaint (file : String) (e : FileError) : String :=
        (if e = .isADirectory then "read failed: " else if file = "-" then "stat failed: " else "cannot read: ") ++
          about file e
      let (found, status) ← readFiles complaint o.words
      if status ≠ 0 then return 2
      let lineEnd := if o.has 'z' then "\x00" else "\n"
      let texts := found.map fun (file, text) => (file, bareLinesOf o text)
      if o.has 'c' ∨ o.has 'C' then
        match texts with
        | (file, lines) :: _ =>
          match order.disorder? (o.has 'u') 1 lines with
          | some (n, line) =>
            if o.has 'c' then warn (file ++ ":" ++ toString n ++ ": disorder: " ++ line)
            return 1
          | none => return 0
        | [] => return 0
      let sorted := (texts.flatMap (·.2)).mergeSort fun a b => order.compare a b ≠ .gt
      let kept := if o.has 'u' then order.unique sorted else sorted
      let text := String.join (kept.map (· ++ lineEnd))
      match o.value? 'o' with
      | some file =>
        match ← openFile .write file with
        | .ok i =>
          keepingStreams do
            connect 1 (some i)
            let _ ← write 1 text
          return 0
        | .error e =>
          warn ("open failed: " ++ about file e)
          return 2
      | none => emit 1 text
      return 0

/-! ### Lines that follow each other -/

def runsOf (key : String → String) (lines : List String) : List (List String) :=
  lines.splitBy fun a b => key a == key b

def uniqOptions : OptionTable where
  letters := "cdDf:is:uw:zα::β::"
  names := [("count", 'c'), ("repeated", 'd'), ("skip-fields", 'f'), ("ignore-case", 'i'), ("skip-chars", 's'),
    ("unique", 'u'), ("check-chars", 'w'), ("zero-terminated", 'z'), ("all-repeated", 'α'), ("group", 'β')]

def uniq : Utility := fun words =>
  withOptions uniqOptions (hint 1) words fun o => do
    let number? (c : Char) : Option Nat := (o.value? c).bind fun text => count? text
    let wrong? := [('f', "fields to skip"), ('s', "bytes to skip"), ('w', "bytes to compare")].find? fun (c, _) =>
      o.has c && (number? c).isNone
    match wrong?, o.words[2]? with
    | some (c, what), _ =>
      warn ((o.value? c).getD "" ++ ": invalid number of " ++ what)
      return 1
    | _, some word => misused ("extra operand " ++ Quoting.word word)
    | none, none =>
      let methods := if o.has 'β' then ["prepend", "append", "separate", "both"] else ["none", "prepend", "separate"]
      let given := (((o.value? 'β').orElse fun _ => o.value? 'α').getD "")
      let default := if o.has 'β' then "separate" else "none"
      let some method := if given = "" then some default else choice? methods given
        | return (← refuseArgument (if o.has 'β' then "--group" else "--all-repeated") given
          (methods.map fun m => "'" ++ m ++ "'"))
      let isGrouped := o.has 'β'
      let showsAll := o.has 'D' || o.has 'α' || isGrouped
      if isGrouped ∧ (['c', 'd', 'D', 'u', 'α'].any o.has) then
        return (← misused "--group is mutually exclusive with -c/-d/-D/-u")
      if showsAll ∧ o.has 'c' then
        return (← misused "printing all duplicated lines and repeat counts is meaningless")
      let key (line : String) : String :=
        let rest := afterFields none ((number? 'f').getD 0) line.toList
        let rest := rest.drop ((number? 's').getD 0)
        let rest := ((number? 'w').map rest.take).getD rest
        String.ofList (if o.has 'i' then rest.map Char.toUpper else rest)
      let complaint (file : String) (e : FileError) : String :=
        if e = .isADirectory ∨ file = "-" then "error reading " ++ Quoting.path file ++ ": " ++ e.reason else about file e
      let (found, status) ← readFiles complaint (o.words.take 1)
      if status ≠ 0 then return status
      let lineEnd := if o.has 'z' then "\x00" else "\n"
      let all := found.flatMap fun (_, text) => bareLinesOf o text
      let kept := (runsOf key all).filter fun run =>
        !((o.has 'd' || (showsAll && !isGrouped)) && run.length = 1) && !(o.has 'u' && 1 < run.length)
      let groups := kept.map fun run =>
        if showsAll then String.join (run.map (· ++ lineEnd))
        else (if o.has 'c' then toRight 7 (toString run.length) ++ " " else "") ++ run.headD "" ++ lineEnd
      let isAround (methods : List String) : String := if method ∈ methods ∧ !kept.isEmpty then lineEnd else ""
      let text := isAround ["prepend", "both"] ++ (isAround ["prepend", "append", "separate", "both"]).intercalate groups ++
        isAround ["append", "both"]
      match o.words[1]? with
      | some file => if file = "-" then emit 1 text else return (← save .write text file)
      | none => emit 1 text
      return 0

/-! ### Differences -/

def sprinted (c : Char) : String := String.ofList (visible { options := [('v', ""), ('T', "")] } c)

def passedOver (o : Options) : Except String (Nat × Nat) := do
  let number (text : String) : Except String Nat := match count? text with
    | some n => .ok n
    | none => .error ("invalid --ignore-initial value " ++ Quoting.word ((o.value? 'i').getD text))
  let (first, second) ← match (o.value? 'i').map (·.splitOn ":") with
    | some [one] => do
      let n ← number one
      pure (n, n)
    | some [one, other] => pure (← number one, ← number other)
    | _ => pure (0, 0)
  let first ← ((o.words[2]?).map number).getD (pure first)
  let second ← ((o.words[3]?).map number).getD (pure second)
  return (first, second)

def cmpOptions : OptionTable where
  letters := "bci:ln:s"
  names := [("print-bytes", 'b'), ("ignore-initial", 'i'), ("silent", 's'), ("quiet", 's'), ("verbose", 'l'),
    ("bytes", 'n')]

/-- The first place at which two texts differ: the byte and the line, or the end of one of them. -/
def cmp : Utility := fun words => do
  match Options.ofWords cmpOptions words with
  | .error e => misusedByName e.message
  | .ok o =>
    let showsBytes : Bool := o.has 'b' || o.has 'c'
    let limit? := (o.value? 'n').map count?
    if o.has 's' ∧ o.has 'l' then return (← misusedByName "options -l and -s are incompatible")
    if limit? = some none then return (← misusedByName ("invalid --bytes value " ++ Quoting.word ((o.value? 'n').getD "")))
    match o.words, passedOver o with
    | _, .error text => misusedByName text
    | [], _ => misusedByName ("missing operand after " ++ Quoting.word (← get).name)
    | _ :: _ :: _ :: _ :: word :: _, _ => misusedByName ("extra operand " ++ Quoting.word word)
    | first :: rest, .ok (skipOfFirst, skipOfSecond) =>
      let second := rest.headD "-"
      if first = second ∧ skipOfFirst = skipOfSecond then return 0
      let mut found := []
      for (file, skip) in [(first, skipOfFirst), (second, skipOfSecond)] do
        match ← contents takeAll file with
        | .ok text => found := found ++ [text.toList.drop skip]
        | .error e =>
          if !(o.has 's' ∧ e ≠ .isADirectory) then warn (about file e)
          return 2
      let (a, b) := (found.getD 0 [], found.getD 1 [])
      let limit := (limit?.bind id).getD (max a.length b.length)
      let (as, bs) := (a.take limit, b.take limit)
      let pairs := as.zip bs
      let same := pairs.takeWhile fun (x, y) => x = y
      let (name, shorter) := if as.length < bs.length then (first, as) else (second, bs)
      let atEnd : Action Unit := do
        let lines := shorter.count '\n'
        let place :=
          if shorter.isEmpty then " which is empty"
          else " after byte " ++ toString shorter.length ++
            (if o.has 'l' then ""
              else if shorter.getLast? = some '\n' then ", line " ++ toString lines
              else ", in line " ++ toString (lines + 1))
        if !o.has 's' then warn ("EOF on " ++ Quoting.name name ++ place)
      let octal (c : Char) : String := toRight 3 (String.ofList (Nat.toDigits 8 c.toNat))
      if same.length = pairs.length then
        if as.length = bs.length then return 0
        atEnd
      else if o.has 'l' then
        let width := (toString (max as.length bs.length)).length
        for ((x, y), i) in pairs.zipIdx 1 do
          if x ≠ y then
            let bytes := if showsBytes then
                octal x ++ " " ++ toLeft 4 (sprinted x) ++ " " ++ octal y ++ " " ++ sprinted y
              else octal x ++ " " ++ octal y
            emit 1 (toRight width (toString i) ++ " " ++ bytes ++ "\n")
        if as.length ≠ bs.length then atEnd
      else if !o.has 's' then
        let line := toString ((same.map (·.1)).count '\n' + 1)
        let bytes := match showsBytes, pairs[same.length]? with
          | true, some (x, y) => " is " ++ octal x ++ " " ++ sprinted x ++ " " ++ octal y ++ " " ++ sprinted y
          | _, _ => ""
        emit 1 (Quoting.name first ++ " " ++ Quoting.name second ++ " differ: " ++
          (if showsBytes then "byte " else "char ") ++ toString (same.length + 1) ++ ", line " ++ line ++ bytes ++ "\n")
      return 1

end ProcessDiagram.Shell.Utility
