import ProcessDiagram.Shell.Regex
import ProcessDiagram.Shell.Utility

/-! Programs that pass on lines, or count them. -/
namespace ProcessDiagram.Shell.Utility

open ProcessDiagram.Shell.Action

/-! ### Whole texts -/

structure Progress where
  /-- The last line has not ended. -/
  inLine : Bool := false
  number : Nat := 0
  /-- The line before was empty. -/
  wasEmpty : Bool := false

/-- A byte that may not be seen on its own. -/
def visible (o : Options) (c : Char) : List Char :=
  let low (n : Nat) : List Char :=
    if n < 32 then ['^', Char.ofNat (n + 64)] else if n = 127 then ['^', '?'] else [Char.ofNat n]
  if c = '\t' then (if o.has 'T' then ['^', 'I'] else [c])
  else if !o.has 'v' then [c]
  else if 128 ≤ c.toNat then 'M' :: '-' :: low (c.toNat - 128)
  else low c.toNat

def passLine (o : Options) (p : Progress) (line : String) : Progress × String :=
  let ended := line.endsWith "\n"
  let body := String.ofList ((bare line).toList.flatMap (visible o))
  let body := if o.has 'E' ∧ !o.has 'v' ∧ ended ∧ body.endsWith "\r" then
    String.ofList body.toList.dropLast ++ "^M" else body
  let text := body ++ (if ended then (if o.has 'E' then "$\n" else "\n") else "")
  let isEmpty := !p.inLine && line = "\n"
  if isEmpty ∧ p.wasEmpty ∧ o.has 's' then (p, "")
  else
    let isNumbered : Bool := !p.inLine && ((o.has 'n' && !o.has 'b') || (o.has 'b' && !isEmpty))
    let number := if isNumbered then p.number + 1 else p.number
    ({ inLine := !ended, number, wasEmpty := isEmpty },
      (if isNumbered then toRight 6 (toString number) ++ "\t" else "") ++ text)

def passText (o : Options) (p : Progress) (text : String) : Progress × String :=
  let (p, shown) := (lines text).foldl (fun (p, shown) line =>
    let (p, line) := passLine o p line
    (p, line :: shown)) (p, [])
  (p, String.join shown.reverse)

/-- The options of `cat`; some of them stand for others. -/
def catOptions : OptionTable where
  letters := "AbeEnstTuv"
  names := [("number-nonblank", 'b'), ("number", 'n'), ("squeeze-blank", 's'), ("show-nonprinting", 'v'),
    ("show-ends", 'E'), ("show-tabs", 'T'), ("show-all", 'A')]

def isOutput (file : String) : Action Bool := do
  let s ← get
  let place? : Option FileTree.Place := match deviceStream? (if file = "-" then "/dev/stdin" else file) with
    | some stream => match (s.streams.lookup stream).bind (s.channels[·]?) with
      | some (.file place _ _) => some place
      | _ => none
    | none => (s.tree.resolve (toText file)).toOption
  match ← channel? 1, place? with
  | some (.file place _ _), some source =>
    match s.tree.entry? place with
    | some (.file bytes _) => return place == source && !bytes.isEmpty
    | _ => return false
  | _, _ => return false

def cat : Utility := fun words =>
  withOptions catOptions (hint 1) words fun o => do
    if (← channel? 1).isNone then
      warn "standard output: Bad file descriptor"
      return 1
    let meant := o.options.flatMap fun (c, v) => match c with
      | 'A' => [('v', v), ('E', v), ('T', v)]
      | 'e' => [('v', v), ('E', v)]
      | 't' => [('v', v), ('T', v)]
      | _ => [(c, v)]
    let o := { o with options := meant }
    let mut progress : Progress := {}
    let mut status := 0
    for file in if o.words.isEmpty then ["-"] else o.words do
      if ← isOutput file then
        warn (Quoting.name file ++ ": input file is output file")
        status := 1
      else
        match ← contents takeAll file with
        | .error e =>
          warn (about file e)
          status := 1
        | .ok text =>
          let (next, shown) := if o.options.isEmpty then (progress, text) else passText o progress text
          progress := next
          emit 1 shown
          if (← get).writeError.isSome then return 1
    return status

def tee : Utility := fun words =>
  withOptions { letters := "aip", names := [("append", 'a'), ("ignore-interrupts", 'i')] } (hint 1) words fun o => do
    let mut outputs := []
    let mut status := 0
    for file in o.words do
      match ← openFile (if o.has 'a' then .append else .write) file with
      | .ok i => outputs := (file, i) :: outputs
      | .error e =>
        warn (about file e)
        status := 1
    match ← takeAll with
    | .error e =>
      warn ("read error: " ++ e.reason)
      return 1
    | .ok text =>
      for (name, channel?) in ("'standard output'", none) :: outputs.reverse.map fun (file, i) => (file, some i) do
        let failure ← keepingStreams do
          if let some i := channel? then connect 1 (some i)
          write 1 text
        if let some e := failure then
          warn (name ++ ": " ++ e.reason)
          status := 1
      return status

def separated (atStart : Bool) (separator text : String) : List String :=
  if separator = "" then [text]
  else
    let pieces := text.splitOn separator
    if atStart then
      match pieces with
      | [] => []
      | first :: rest => (if first = "" then [] else [first]) ++ rest.map (separator ++ ·)
    else
      let last := pieces.getLastD ""
      pieces.dropLast.map (· ++ separator) ++ if last = "" then [] else [last]

def tac : Utility := fun words =>
  withOptions { letters := "bs:r", names := [("before", 'b'), ("separator", 's'), ("regex", 'r')] } (hint 1) words
    fun o => do
      let complaint (file : String) (e : FileError) : String :=
        if e = .isADirectory ∨ file = "-" then
          (if file = "-" then "'standard input'" else Quoting.name file) ++ ": read error: " ++
            (if e = .isADirectory then "Invalid argument" else e.reason)
        else "failed to open " ++ Quoting.path file ++ " for reading: " ++ e.reason
      let (found, status) ← readFiles complaint o.words
      for (_, text) in found do
        emit 1 (String.join (separated (o.has 'b') ((o.value? 's').getD "\n") text).reverse)
      return status

/-! ### Ends -/

def cannotOpen (file : String) (e : FileError) : String :=
  if e = .isADirectory then "error reading " ++ Quoting.path file ++ ": " ++ e.reason
  else "cannot open " ++ Quoting.path file ++ " for reading: " ++ e.reason

def amount? (text : String) : Option (Char × Nat) :=
  match text.toList with
  | '-' :: cs => (count? (String.ofList cs)).map ('-', ·)
  | '+' :: cs => (count? (String.ofList cs)).map ('+', ·)
  | _ => (count? text).map (' ', ·)

/-- How much of each file is wanted: in bytes or in lines, counted from one of the ends. -/
structure Wanted where
  inBytes : Bool
  sign : Char
  count : Nat

def endOptions (letters : String) : OptionTable where
  letters := letters
  names := [("lines", 'n'), ("bytes", 'c'), ("quiet", 'q'), ("silent", 'q'), ("verbose", 'v'),
    ("zero-terminated", 'z')]

def numbered (isTail : Bool) : List String → List String
  | word :: rest =>
    let (sign, cs) := match word.toList with
      | '+' :: cs => (if isTail then "+" else "", cs)
      | '-' :: cs => ("", cs)
      | _ => ("", [])
    let digits := cs.takeWhile Char.isDigit
    let letters := cs.drop digits.length
    let isMeant : Bool :=
      !digits.isEmpty && letters.all ("bcfklmqvz".toList.contains ·) && (word.startsWith "-" || isTail) &&
        (!isTail || rest.isEmpty || (rest.length = 1 && !((rest.headD "").startsWith "-" && rest ≠ ["-"])))
    let n := sign ++ String.ofList digits
    if isMeant then
      (if 'c' ∈ letters then ["-c", n] else if 'b' ∈ letters then ["-c", n ++ "b"] else ["-n", n]) ++
        (if 'q' ∈ letters then ["-q"] else []) ++ (if 'v' ∈ letters then ["-v"] else []) ++ rest
    else word :: rest
  | [] => []

def linesOf (o : Options) (text : String) : List String :=
  if o.has 'z' then separated false "\x00" text else lines text

def bareLinesOf (o : Options) (text : String) : List String :=
  let lineEnd := if o.has 'z' then "\x00" else "\n"
  (linesOf o text).map fun line => if line.endsWith lineEnd then String.ofList line.toList.dropLast else line

def Wanted.part (w : Wanted) (isTail : Bool) (o : Options) (text : String) : String :=
  let choose {α : Type} (items : List α) : List α :=
    if isTail then items.drop (if w.sign = '+' then w.count - 1 else items.length - w.count)
    else items.take (if w.sign = '-' then items.length - w.count else w.count)
  if w.inBytes then String.ofList (choose text.toList) else String.join (choose (linesOf o text))

def Wanted.takeFront (w : Wanted) (o : Options) : Action (Except FileError String) := do
  if w.sign = '-' then
    match ← toRead 0 with
    | .error e => return .error e
    | .ok rest =>
      let text := String.ofList rest
      advance 0 (if ← goesBack 0 then (w.part false o text).length else rest.length)
      return .ok text
  else if w.inBytes then takeBlocks 1 fun _ => w.count
  else takeBlocks 8192 fun rest =>
    if o.has 'z' then (String.join ((separated false "\x00" (String.ofList rest)).take w.count)).length
    else lengthOfLines w.count rest

/-- Reads options; digits among them are refused. -/
def withEndOptions (isTail : Bool) (words : List String) (body : Options → Action Nat) : Action Nat := do
  match Options.ofWords (endOptions (if isTail then "n:c:qvzfFs:" else "n:c:qvz")) (numbered isTail words) with
  | .ok o => body o
  | .error (.invalid c) =>
    if !c.isDigit then
      warn (OptionError.invalid c).message
      hint 1
    else if isTail then
      warn ("option used in invalid context -- " ++ String.singleton c)
      return 1
    else
      warn ("invalid trailing option -- " ++ String.singleton c)
      hint 1
  | .error e =>
    warn e.message
    hint 1

def ends (isTail : Bool) : Utility := fun words =>
  withEndOptions isTail words fun o => do
    let (inBytes, given) := match o.last? ['n', 'c'] with
      | some c => (c == 'c', (o.value? c).getD "")
      | none => (false, "10")
    let refuse (why : String) : Action Nat := do
      warn ("invalid number of " ++ (if inBytes then "bytes" else "lines") ++ ": " ++
        Quoting.word (if given.startsWith "-" then String.ofList given.toList.tail else given) ++ why)
      return 1
    match amount? given with
    | none => refuse ""
    | some (sign, count) =>
      if Nat.pow 2 64 ≤ count then return (← refuse ": Value too large for defined data type")
      let w : Wanted := ⟨inBytes, sign, count⟩
      let files := if o.words.isEmpty then ["-"] else o.words
      let isNamed : Bool := match o.last? ['q', 'v'] with
        | some c => c = 'v'
        | none => 1 < files.length
      let mut first := true
      let mut status := 0
      for file in files do
        let result ← contents (if isTail then takeAll else w.takeFront o) file
        let isOpen : Bool := match result with
          | .ok _ => true
          | .error e => e = .isADirectory
        if isNamed ∧ isOpen then
          emit 1 ((if first then "" else "\n") ++ "==> " ++ (if file = "-" then "standard input" else file) ++ " <==\n")
          first := false
        match result with
        | .ok text => emit 1 (w.part isTail o text)
        | .error e =>
          warn (if file ≠ "-" then cannotOpen file e
            else (if isTail ∧ e ≠ .isADirectory then "cannot fstat 'standard input': " else "error reading 'standard input': ") ++ e.reason)
          status := 1
      return status

/-! ### Counts -/

def isPrinted (c : Char) : Bool := ' ' ≤ c && c ≤ '~'

def isSpace (c : Char) : Bool := c = ' ' || ('\t' ≤ c && c ≤ '\r')

/-- The number of words; bytes that are neither printed nor space make none. -/
def countWords (text : String) : Nat :=
  (text.toList.foldl (fun (count, inWord) c =>
    if isSpace c then (count, false)
    else if isPrinted c ∧ !inWord then (count + 1, true)
    else (count, inWord)) (0, false)).1

def widest (text : String) : Nat :=
  let (most, last) := text.toList.foldl (fun (most, column) c =>
    if c = '\n' ∨ c = '\r' ∨ c = '\x0c' then (max most column, 0)
    else if c = '\t' then (most, column / 8 * 8 + 8)
    else if isPrinted c then (most, column + 1)
    else (most, column)) (0, 0)
  max most last

/-- The counts that are asked for: lines, words, characters, bytes and the widest line. -/
def counts (o : Options) (text : String) : List Nat :=
  let all := o.options.all (·.1 = 'τ')
  (if all ∨ o.has 'l' then [text.toList.count '\n'] else []) ++ (if all ∨ o.has 'w' then [countWords text] else []) ++
    (if o.has 'm' then [text.length] else []) ++ (if all ∨ o.has 'c' then [text.length] else []) ++
    (if o.has 'L' then [widest text] else [])

/-- The size of a file on which counts are aligned; none if it cannot be found, and no size if it has none. -/
def sizeToAlign? (file : String) : Action (Option (Option Nat)) := do
  let s ← get
  let channelSize (stream : Nat) : Option Nat := match (s.streams.lookup stream).bind (s.channels[·]?) with
    | some (.file place _ _) => match s.tree.entry? place with
      | some (.file bytes _) => some bytes.length
      | _ => none
    | some (.nameless bytes _ _) => some bytes.length
    | _ => none
  if file = "-" then return some (channelSize 0)
  match deviceStream? file with
  | some stream => return some (channelSize stream)
  | none =>
    return (s.tree.resolve (toText file)).toOption.map fun place => match s.tree.entry? place with
      | some (.file bytes _) => some bytes.length
      | _ => none

def wcOptions : OptionTable where
  letters := "clLmwτ:"
  names := [("bytes", 'c'), ("chars", 'm'), ("lines", 'l'), ("words", 'w'), ("max-line-length", 'L'), ("total", 'τ')]

def wc : Utility := fun words =>
  withOptions wcOptions (hint 1) words fun o => do
    let files := if o.words.isEmpty then ["-"] else o.words
    let columns := (counts o "").length
    let totals := ["auto", "always", "only", "never"]
    let some whichTotal := choice? totals ((o.value? 'τ').getD "auto")
      | return (← refuseArgument "--total" ((o.value? 'τ').getD "") (totals.map fun t => "'" ++ t ++ "'"))
    let sizes ← files.filterMapM sizeToAlign?
    let least := if sizes.any Option.isNone then 7 else 1
    let total := (sizes.filterMap id).foldl (· + ·) 0
    let width := if whichTotal = "only" ∨ (files.length = 1 ∧ columns = 1) then 1
      else max least (toString total).length
    let mut sums := List.replicate columns 0
    let mut status := 0
    let row (ns : List Nat) (name : String) : String :=
      " ".intercalate (ns.map fun n => toRight width (toString n)) ++ (if name = "" then "" else " " ++ name) ++ "\n"
    for file in files do
      let shown := if o.words.isEmpty then "" else file
      match ← contents takeAll file with
      | .ok text =>
        let ns := counts o text
        let isWidest (i : Nat) : Bool := o.has 'L' && i + 1 = columns
        sums := (sums.zip ns).zipIdx.map fun ((a, b), i) => if isWidest i then max a b else a + b
        if whichTotal ≠ "only" then emit 1 (row ns shown)
      | .error e =>
        warn (aboutInput file e)
        status := 1
        if e = .isADirectory ∨ file = "-" then emit 1 (row (List.replicate columns 0) shown)
    if whichTotal = "only" then emit 1 (row sums "")
    else if whichTotal = "always" ∨ (whichTotal = "auto" ∧ 1 < files.length) then emit 1 (row sums "total")
    return status

/-! ### Numbers -/

inductive LineStyle where
  | all
  | nonempty
  | none
  | fitting (r : Regex)

structure Numbering where
  start : Int
  step : Int
  width : Nat
  separator : String
  form : String
  /-- The styles of the parts of a page: its head, its body and its foot. -/
  styles : List LineStyle
  /-- So many empty lines count as one. -/
  group : Nat
  /-- The two characters of which a line consists that starts a part of a page. -/
  delimiter : String
  /-- The numbers go on from one page to the next. -/
  goesOn : Bool

/-- Numbers lines: the part of the page, the next number, and how many empty lines there were. -/
def numberLines (n : Numbering) : Nat → Int → Nat → List String → List String
  | _, _, _, [] => []
  | part, next, empty, line :: rest =>
    let isSign (count : Nat) : Bool := line ≠ "" && line = String.join (List.replicate count n.delimiter)
    match [(3, 0), (2, 1), (1, 2)].find? fun (count, _) => isSign count with
    | some (_, part) => "" :: numberLines n part (if n.goesOn then next else n.start) 0 rest
    | none =>
      let empty := if line = "" then empty + 1 else 0
      let isNumbered : Bool := match (n.styles[part]?).getD .none with
        | .all => line ≠ "" || empty % n.group = 0
        | .nonempty => line ≠ ""
        | .none => false
        | .fitting r => Regex.isFound {} r line.toList
      if isNumbered then
        let digits := toString next.natAbs
        let sign := if next < 0 then "-" else ""
        let text := match n.form with
          | "ln" => toLeft n.width (sign ++ digits)
          | "rz" => sign ++ "".pushn '0' (n.width - sign.length - digits.length) ++ digits
          | _ => toRight n.width (sign ++ digits)
        (text ++ n.separator ++ line) :: numberLines n part (next + n.step) empty rest
      else ("".pushn ' ' (n.width + n.separator.length) ++ line) :: numberLines n part next empty rest

def nlOptions : OptionTable where
  letters := "b:d:f:h:i:l:n:ps:v:w:"
  names := [("header-numbering", 'h'), ("body-numbering", 'b'), ("footer-numbering", 'f'),
    ("starting-line-number", 'v'), ("line-increment", 'i'), ("no-renumber", 'p'), ("join-blank-lines", 'l'),
    ("number-separator", 's'), ("number-width", 'w'), ("number-format", 'n'), ("section-delimiter", 'd')]

structure NumberingError where
  text : String
  offersHelp : Bool := false

def lineStyle (part text : String) : Except NumberingError LineStyle :=
  match text.toList with
  | ['a'] => .ok .all
  | ['t'] => .ok .nonempty
  | ['n'] => .ok .none
  | 'p' :: expression =>
    match Regex.ofText { isExtended := false } expression with
    | .ok (r, _) => .ok (.fitting r)
    | .error e => .error { text := e.message }
  | _ => .error { text := "invalid " ++ part ++ " numbering style: " ++ Quoting.word text, offersHelp := true }

def numbering (o : Options) : Except NumberingError Numbering := do
  let number (c : Char) (default : Int) (least : Option Int) (what : String) : Except NumberingError Int :=
    match o.value? c with
    | none => .ok default
    | some text =>
      let refuse (why : String) : Except NumberingError Int :=
        .error { text := "invalid " ++ what ++ ": " ++ Quoting.word text ++ why }
      match text.toInt? with
      | none => refuse ""
      | some n => if least.any (n < ·) then refuse ": Numerical result out of range" else .ok n
  let style (c : Char) (default part : String) : Except NumberingError LineStyle :=
    lineStyle part ((o.value? c).getD default)
  let head ← style 'h' "n" "header"
  let body ← style 'b' "t" "body"
  let foot ← style 'f' "n" "footer"
  let start ← number 'v' 1 none "starting line number"
  let step ← number 'i' 1 none "line number increment"
  let group ← number 'l' 1 (some 1) "line number of blank lines"
  let width ← number 'w' 6 (some 1) "line number field width"
  let form := (o.value? 'n').getD "rn"
  if form ∉ ["ln", "rn", "rz"] then throw { text := "invalid line numbering format: " ++ Quoting.word form, offersHelp := true }
  let delimiter := (o.value? 'd').getD "\\:"
  return {
    start, step, width := width.toNat, separator := (o.value? 's').getD "\t", form, styles := [head, body, foot]
    group := group.toNat, delimiter := if delimiter.length = 1 then delimiter ++ ":" else delimiter
    goesOn := o.has 'p' }

def nl : Utility := fun words =>
  withOptions nlOptions (hint 1) words fun o => do
    match numbering o with
    | .error e =>
      warn e.text
      if e.offersHelp then hint 1 else return 1
    | .ok n =>
      let (found, status) ← readFiles about o.words
      let text := String.join (found.map (·.2))
      emit 1 (String.join ((numberLines n 1 n.start 0 (bareLines text)).map (· ++ "\n")))
      return status

end ProcessDiagram.Shell.Utility
