import ProcessDiagram.Shell.Pattern
import ProcessDiagram.Shell.Program.Sorting
import ProcessDiagram.Text.Checksum

/-! Programs that look at the single characters of a text. -/
namespace ProcessDiagram.Shell.Utility

open ProcessDiagram.Shell.Action

/-! ### Sets of characters -/

inductive SetPart where
  | one (c : Char)
  | span (low high : Char)
  | named (name : String)
  /-- A character so many times, or as often as is needed. -/
  | again (c : Char) (times : Option Nat)

/-- The characters of a set as it is written, each with whether a backslash protects it. The number bounds them. -/
def protectedChars : Nat → List Char → List (Char × Bool)
  | n + 1, '\\' :: c :: rest =>
    match c.isDigit, Format.letterEscape? c with
    | false, some e => (e, true) :: protectedChars n rest
    | false, none => (c, true) :: protectedChars n rest
    | true, _ =>
      let (e, rest) := Format.escape (c :: rest)
      (e, true) :: protectedChars n (if (Format.octalDigit? c).isSome then rest else rest.drop 1)
  | n + 1, c :: rest => (c, false) :: protectedChars n rest
  | _, _ => []

def upToClosing (c : Char) : List (Char × Bool) → Option (List (Char × Bool) × List (Char × Bool))
  | (d, false) :: (e, false) :: rest =>
    if d = c ∧ e = ']' then some ([], rest)
    else (upToClosing c ((e, false) :: rest)).map fun (found, rest) => ((d, false) :: found, rest)
  | p :: rest => (upToClosing c rest).map fun (found, rest) => (p :: found, rest)
  | [] => none

/-- A repetition after its bracket: a character, a star and perhaps a number. -/
def repetition? (cs : List (Char × Bool)) : Option (Except String SetPart × List (Char × Bool)) :=
  match cs with
  | (c, _) :: ('*', false) :: rest =>
    let inside := rest.takeWhile (· ≠ (']', false))
    if inside.length = rest.length then none
    else
      let digits := inside.map (·.1)
      let (base, digits) := if digits.head? = some '0' then (8, digits.tail) else (10, digits)
      let (n, left) := Arithmetic.natFrom base 0 digits
      let part : Except String SetPart :=
        if left.isEmpty then .ok (.again c (if n = 0 then none else some n))
        else .error ("invalid repeat count " ++ Quoting.word (String.ofList (inside.map (·.1))) ++ " in [c*n] construct")
      some (part, rest.drop (inside.length + 1))
  | _ => none

/-- The parts of a set; the number bounds them. -/
def setParts : Nat → List (Char × Bool) → Except String (List SetPart)
  | n + 1, (c, isProtected) :: rest => do
    let more (part : SetPart) (rest : List (Char × Bool)) : Except String (List SetPart) :=
      (part :: ·) <$> setParts n rest
    let bracket? : Option (Except String SetPart × List (Char × Bool)) :=
      if c ≠ '[' ∨ isProtected then none
      else
        match rest with
        | (':', false) :: inside =>
          match upToClosing ':' inside with
          | some (name, rest) =>
            let name := String.ofList (name.map (·.1))
            if name = "" then some (.error "missing character class name '[::]'", rest)
            else if (Pattern.classRanges? name).isSome then some (.ok (.named name), rest)
            else match repetition? ((':', false) :: inside) with
              | some found => some found
              | none => some (.error ("invalid character class " ++ Quoting.word name), rest)
          | none => repetition? rest
        | ('=', false) :: inside =>
          match upToClosing '=' inside with
          | some ([(e, _)], rest) => some (.ok (.one e), rest)
          | some ([], rest) => some (.error "missing equivalence class character '[==]'", rest)
          | some (name, rest) =>
            some (.error (String.ofList (name.map (·.1)) ++ ": equivalence class operand must be a single character"), rest)
          | none => repetition? rest
        | _ => repetition? rest
    match bracket? with
    | some (part, rest) => more (← part) rest
    | none =>
      match rest with
      | ('-', false) :: (high, _) :: rest =>
        if high < c then
          .error ("range-endpoints of '" ++ String.ofList [c, '-', high] ++
            "' are in reverse collating sequence order")
        else more (.span c high) rest
      | _ => more (.one c) rest
  | _, _ => .ok []

def readSet (text : String) : Except String (List SetPart) :=
  setParts (text.length + 1) (protectedChars (text.length + 1) text.toList)

def allChars : List Char := (List.range 256).map Char.ofNat

/-- The characters of a part; one that is repeated as often as is needed stands so many times. -/
def SetPart.chars (fill : Nat) : SetPart → List Char
  | .one c => [c]
  | .span low high => allChars.filter fun c => low ≤ c && c ≤ high
  | .named name => allChars.filter fun c => inRanges c ((Pattern.classRanges? name).getD [])
  | .again c times => List.replicate (times.getD fill) c

def charsOf (least : Nat) (parts : List SetPart) : List Char :=
  let fixed := parts.foldl (fun n p => n + (p.chars 0).length) 0
  parts.flatMap (SetPart.chars (least - fixed))

def caseClasses (parts : List SetPart) : List Nat :=
  parts.zipIdx.filterMap fun (p, i) => match p with
    | .named name => if name = "upper" ∨ name = "lower" then some ((charsOf 0 (parts.take i)).length) else none
    | _ => none

def refusedSet? (isFirst translates : Bool) (parts : List SetPart) : Option String :=
  let isOpen (p : SetPart) : Bool := match p with
    | .again _ none => true
    | _ => false
  let isOther (p : SetPart) : Bool := match p with
    | .named name => name ≠ "upper" && name ≠ "lower"
    | _ => false
  if isFirst then (if parts.any isOpen then some "the [c*] repeat construct may not appear in string1" else none)
  else if 1 < (parts.filter isOpen).length then some "only one [c*] repeat construct may appear in string2"
  else if translates ∧ parts.any isOther then
    some "when translating, the only character classes that may appear in\nstring2 are 'upper' and 'lower'"
  else none

def translation (first : List Char) (parts firstParts : List SetPart) (cuts : Bool) :
    Except String (Array Char) := do
  let second := charsOf first.length parts
  let endsInClass : Bool := match parts.getLast? with
    | some (.named _) => true
    | _ => false
  if !cuts ∧ second.isEmpty then .error "when not truncating set1, string2 must be non-empty"
  if (caseClasses parts).any (· ∉ caseClasses firstParts) then
    .error "misaligned [:upper:] and/or [:lower:] construct"
  if second.length < first.length ∧ endsInClass ∧ !cuts then
    .error "when translating with string1 longer than string2,\nthe latter string must not end with a character class"
  let filled := second ++ List.replicate (if cuts then 0 else first.length - second.length) (second.getLastD ' ')
  return (first.zip filled).foldl (fun table (c, d) => table.setIfInBounds c.toNat d) allChars.toArray

def squeeze (set : List Char) : List Char → List Char
  | c :: d :: rest => if c = d ∧ c ∈ set then squeeze set (d :: rest) else c :: squeeze set (d :: rest)
  | cs => cs

def trOptions : OptionTable where
  letters := "cCdst"
  names := [("complement", 'c'), ("delete", 'd'), ("squeeze-repeats", 's'), ("truncate-set1", 't')]
  inOrder := true

def tr : Utility := fun words =>
  withOptions trOptions (hint 1) words fun o => do
    let deletes := o.has 'd'
    let squeezes := o.has 's'
    let translates := !deletes && o.words.length = 2
    let most := if deletes ∧ !squeezes then 1 else 2
    let least := if deletes = squeezes then 2 else 1
    let lacking (word : String) (why : String) : Action Nat := do
      warn ("missing operand after " ++ Quoting.word word)
      emit 2 (why ++ "\n")
      hint 1
    match o.words with
    | [] => misused "missing operand"
    | _ =>
      if o.words.length < least then
        return (← lacking (o.words.getLastD "") (if squeezes
          then "Two strings must be given when both deleting and squeezing repeats."
          else "Two strings must be given when translating."))
      if let some word := o.words[most]? then
        warn ("extra operand " ++ Quoting.word word)
        if most = 1 then emit 2 "Only one string may be given when deleting without squeezing repeats.\n"
        return (← hint 1)
      for word in o.words do
        if (word.toList.reverse.takeWhile (· = '\\')).length % 2 = 1 then
          warn "warning: an unescaped backslash at end of string is not portable"
      let sets : Except String (List (List SetPart)) := do
        let sets ← o.words.mapM readSet
        for (set, i) in sets.zipIdx do
          if let some text := refusedSet? (i = 0) translates set then .error text
        return sets
      let plan : Except String (List Char × List Char × Array Char) := do
        let sets ← sets
        let parts := sets.headD []
        let chars := charsOf 0 parts
        let isTurned := o.has 'c' || o.has 'C'
        let first := if isTurned then allChars.filter (· ∉ chars) else chars
        let second := sets[1]?
        match second with
        | some set =>
          if translates then
            return (first, charsOf first.length set, ← translation first set parts (o.has 't'))
          else return (first, charsOf 0 set, allChars.toArray)
        | none => return (first, first, allChars.toArray)
      match plan with
      | .error text =>
        warn text
        return 1
      | .ok (first, squeezed, table) =>
        match ← takeAll with
        | .error e =>
          warn ("read error: " ++ e.reason)
          return 1
        | .ok text =>
          let members : Array Bool := (allChars.map fun c => first.contains c).toArray
          let isMember (c : Char) : Bool := (members[c.toNat]?).getD false
          let cs := text.toList
          let cs := if deletes then cs.filter fun c => !isMember c else cs.map fun c => (table[c.toNat]?).getD c
          emit 1 (String.ofList (if squeezes then squeeze squeezed cs else cs))
          return 0

/-! ### Bytes as numbers -/

/-- How bytes are shown: as what, how many at a time, and whether they are shown as text behind that. -/
structure ByteForm where
  kind : Char
  size : Nat
  withText : Bool := false

def ByteForm.width (f : ByteForm) : Nat :=
  match f.kind with
  | 'x' => 2 * f.size
  | 'o' => (8 * f.size + 2) / 3
  | 'u' => (toString (Nat.pow 256 f.size - 1)).length
  | 'd' => (toString (Nat.pow 256 f.size / 2)).length + 1
  | _ => 3

def byteNames : List String :=
  ["nul", "soh", "stx", "etx", "eot", "enq", "ack", "bel", "bs", "ht", "nl", "vt", "ff", "cr", "so", "si", "dle", "dc1",
    "dc2", "dc3", "dc4", "nak", "syn", "etb", "can", "em", "sub", "esc", "fs", "gs", "rs", "us", "sp"]

def ByteForm.show (f : ByteForm) (bytes : List Char) : String :=
  let n := bytes.reverse.foldl (fun n c => n * 256 + c.toNat) 0
  let padded (base : Nat) : String :=
    let digits := String.ofList (Nat.toDigits base n)
    "".pushn '0' (f.width - digits.length) ++ digits
  match f.kind with
  | 'x' => padded 16
  | 'o' => padded 8
  | 'u' => toString n
  | 'd' => toString ((n : Int).bmod (Nat.pow 256 f.size))
  | 'a' => if n % 128 = 127 then "del" else (byteNames[n % 128]?).getD (String.singleton (Char.ofNat (n % 128)))
  | _ =>
    match n with
    | 0 => "\\0"
    | 7 => "\\a"
    | 8 => "\\b"
    | 9 => "\\t"
    | 10 => "\\n"
    | 11 => "\\v"
    | 12 => "\\f"
    | 13 => "\\r"
    | _ => if isPrinted (Char.ofNat n) then String.singleton (Char.ofNat n)
      else String.ofList ([64, 8, 1].map fun place => Nat.digitChar (n / place % 8))

def byteForms? (text : String) : Option (List ByteForm) :=
  go (text.length + 1) text.toList
where
  go : Nat → List Char → Option (List ByteForm)
    | _, [] => some []
    | 0, _ => none
    | n + 1, c :: rest =>
      let form (size : Nat) (rest : List Char) : Option (List ByteForm) :=
        if rest.head? = some 'z' then (go n rest.tail).map (⟨c, size, true⟩ :: ·) else (go n rest).map (⟨c, size, false⟩ :: ·)
      if c = 'a' ∨ c = 'c' then form 1 rest
      else if c ∉ ['d', 'o', 'u', 'x'] then none
      else
        match rest with
        | s :: more =>
          let size := if s.isDigit then s.toNat - 48 else ([('C', 1), ('S', 2), ('I', 4), ('L', 8)].lookup s).getD 0
          if size ∈ [1, 2, 4, 8] then form size more else form 4 rest
        | [] => form 4 []

/-- Items so many at a time; the number bounds the groups. -/
def groupsOf (size : Nat) : Nat → List α → List (List α)
  | 0, _ => []
  | _, [] => []
  | n + 1, items => items.take size :: groupsOf size n (items.drop size)

def ByteForm.row (f : ByteForm) (perRow total : Nat) (bytes : List Char) : String :=
  let fields := perRow / f.size
  let spare := total - fields * (f.width + 1)
  let groups := groupsOf f.size (bytes.length + 1) bytes
  String.join (groups.zipIdx.map fun (group, i) =>
    let share := spare * (fields - i) / fields - spare * (fields - i - 1) / fields
    toRight (f.width + 1 + share) (f.show group))

/-- Bytes as text; a dot stands for what is not printed. -/
def asText (bytes : List Char) : String :=
  "  >" ++ String.ofList (bytes.map fun c => if isPrinted c then c else '.') ++ "<"

def odOptions : OptionTable where
  letters := "A:bcdDhHj:N:oOt:vw::xXaisl"
  names := [("address-radix", 'A'), ("skip-bytes", 'j'), ("read-bytes", 'N'), ("format", 't'),
    ("output-duplicates", 'v'), ("width", 'w')]

def od : Utility := fun words =>
  withOptions odOptions (hint 1) words fun o => do
    let named (c : Char) (v : String) : Option (List ByteForm) := match c with
      | 't' => byteForms? v
      | 'a' => some [⟨'a', 1, false⟩]
      | 'b' => some [⟨'o', 1, false⟩]
      | 'c' => some [⟨'c', 1, false⟩]
      | 'd' => some [⟨'u', 2, false⟩]
      | 'o' => some [⟨'o', 2, false⟩]
      | 'x' => some [⟨'x', 2, false⟩]
      | 'h' => some [⟨'x', 2, false⟩]
      | 'X' => some [⟨'x', 4, false⟩]
      | 'H' => some [⟨'x', 4, false⟩]
      | 'D' => some [⟨'u', 4, false⟩]
      | 'O' => some [⟨'o', 4, false⟩]
      | 'i' => some [⟨'d', 4, false⟩]
      | 's' => some [⟨'d', 2, false⟩]
      | 'l' => some [⟨'d', 8, false⟩]
      | _ => some []
    let radix := (o.value? 'A').getD "o"
    if (radix.toList.head?).all (· ∉ ['d', 'o', 'x', 'n']) then
      warn ("invalid output address radix '" ++ String.ofList (radix.toList.take 1) ++
        "'; it must be one character from [doxn]")
      return 1
    match o.options.find? fun (c, v) => (named c v).isNone with
    | some (_, v) =>
      warn ("invalid character " ++ Quoting.word (String.singleton (v.toList.headD ' ')) ++ " in type string " ++ Quoting.word v)
      return 1
    | none =>
      let forms : List ByteForm := match o.options.flatMap fun (c, v) => (named c v).getD [] with
        | [] => [⟨'o', 2, false⟩]
        | forms => forms
      let skipped := ((o.value? 'j').bind count?).getD 0
      let limit? := (o.value? 'N').bind count?
      let take := match limit? with
        | some n => takeBlocks 1 fun rest => min rest.length (skipped + n)
        | none => takeAll
      let (found, status) ← readSome take aboutInput o.words
      let isDirectory (file : String) : Action Bool := do return (← get).tree.isDirectory (toText file)
      if found.isEmpty ∧ !(← (if o.words.isEmpty then ["-"] else o.words).anyM fun file =>
          if file = "-" then pure true else isDirectory file) then return 1
      let whole := (String.join (found.map (·.2))).toList
      if whole.length < skipped then
        warn "cannot skip past end of combined input"
        return 1
      let bytes := whole.drop skipped
      let bytes := limit?.elim bytes bytes.take
      let perRow := match o.value? 'w' with
        | some "" => 32
        | some v => max 1 (v.toNat?.getD 16)
        | none => 16
      let total := (forms.map fun f => perRow / f.size * (f.width + 1)).foldl max 0
      let address (n : Nat) : String :=
        let digits (base : Nat) (width : Nat) : String :=
          let text := String.ofList (Nat.toDigits base n)
          "".pushn '0' (width - text.length) ++ text
        match radix.toList.head? with
        | some 'n' => ""
        | some 'd' => digits 10 7
        | some 'x' => digits 16 6
        | _ => digits 8 7
      let largest := (forms.map (·.size)).foldl max 1
      let mut before : List Char := []
      let mut starred := false
      for (row, i) in (groupsOf perRow (bytes.length + 1) bytes).zipIdx do
        if row = before ∧ row.length = perRow ∧ !o.has 'v' then
          if !starred then emit 1 "*\n"
          starred := true
        else
          starred := false
          before := row
          let filled := row ++ List.replicate ((largest - row.length % largest) % largest) '\x00'
          for (f, j) in forms.zipIdx do
            let start := address (skipped + i * perRow)
            let shown := f.row perRow total (if f.size = 1 then row else filled)
            emit 1 ((if j = 0 then start else "".pushn ' ' start.length) ++
              (if f.withText then toLeft total shown ++ asText row else shown) ++ "\n")
      if radix.toList.head? ≠ some 'n' then emit 1 (address (skipped + bytes.length) ++ "\n")
      return status

/-! ### Letters for bits -/

def base64Letters : List Char :=
  "ABCDEFGHIJKLMNOPQRSTUVWXYZabcdefghijklmnopqrstuvwxyz0123456789+/".toList

/-- Three bytes as four letters; what is missing at the end is shown. -/
def encode64 : List Char → List Char
  | a :: b :: c :: rest => letters 4 (a.toNat * 65536 + b.toNat * 256 + c.toNat) ++ encode64 rest
  | [a, b] => letters 3 (a.toNat * 65536 + b.toNat * 256) ++ ['=']
  | [a] => letters 2 (a.toNat * 65536) ++ ['=', '=']
  | [] => []
where
  letters (count n : Nat) : List Char :=
    ([262144, 4096, 64, 1].take count).map fun place => base64Letters.getD (n / place % 64) '='

def decode64 : List Char → List Char × Bool
  | [] => ([], true)
  | a :: b :: c :: d :: rest =>
    match value a, value b, value c, value d with
    | some x, some y, some z, some w =>
      let (more, ok) := decode64 rest
      (bytes (x * 262144 + y * 4096 + z * 64 + w) 3 ++ more, ok)
    | some x, some y, some z, none => (bytes (x * 262144 + y * 4096 + z * 64) 2, d = '=' && rest.isEmpty)
    | some x, some y, none, none => (bytes (x * 262144 + y * 4096) 1, c = '=' && d = '=' && rest.isEmpty)
    | _, _, _, _ => ([], false)
  | [a, b, c] => match value a, value b, value c with
    | some x, some y, some z => (bytes (x * 262144 + y * 4096 + z * 64) 2, false)
    | some x, some y, none => (bytes (x * 262144 + y * 4096) 1, false)
    | _, _, _ => ([], false)
  | [a, b] => match value a, value b with
    | some x, some y => (bytes (x * 262144 + y * 4096) 1, false)
    | _, _ => ([], false)
  | _ => ([], false)
where
  value (x : Char) : Option Nat := if x ∈ base64Letters then some (base64Letters.idxOf x) else none
  bytes (n count : Nat) : List Char := ([65536, 256, 1].take count).map fun place => Char.ofNat (n / place % 256)

def base64 : Utility := fun words =>
  withOptions { letters := "diw:", names := [("decode", 'd'), ("ignore-garbage", 'i'), ("wrap", 'w')] } (hint 1) words
    fun o => do
      match o.words[1]? with
      | some word => misused ("extra operand " ++ Quoting.word word)
      | none =>
        let (found, status) ← readFiles aboutReading o.words
        if status ≠ 0 then return status
        let cs := (String.join (found.map (·.2))).toList
        if o.has 'd' then
          let cs := cs.filter fun c => if o.has 'i' then c ∈ base64Letters || c = '=' else c ≠ '\n'
          let (bytes, ok) := decode64 cs
          emit 1 (String.ofList bytes)
          if !ok then warn "invalid input"
          return if ok then 0 else 1
        else
          match ((o.value? 'w').getD "76").toNat? with
          | none =>
            warn ("invalid wrap size: " ++ Quoting.word ((o.value? 'w').getD ""))
            return 1
          | some 0 => emit 1 (String.ofList (encode64 cs))
          | some width =>
            for row in groupsOf width (2 * cs.length + 1) (encode64 cs) do emit 1 (String.ofList row ++ "\n")
          return 0

/-! ### Checksums -/

def checkSums (digest : List UInt8 → String) (o : Options) : Action Nat := do
  let (found, status) ← readFiles about o.words
  let mut failed := 0
  let mut unread := 0
  for (_, text) in found do
    for line in bareLines text do
      match line.splitOn "  " with
      | sum :: rest =>
        let file := "  ".intercalate rest
        match ← contents takeAll file with
        | .ok text =>
          let isSame := digest (toBytes text) = sum
          if !isSame then failed := failed + 1
          if !o.has 's' ∧ !(isSame ∧ o.has 'q') then emit 1 (file ++ (if isSame then ": OK\n" else ": FAILED\n"))
        | .error e =>
          warn (about file e)
          unread := unread + 1
          if !o.has 's' then emit 1 (file ++ ": FAILED open or read\n")
      | [] => pure ()
  let plural (n : Nat) (one many : String) : String := "WARNING: " ++ toString n ++ (if n = 1 then one else many)
  if unread ≠ 0 then warn (plural unread " listed file could not be read" " listed files could not be read")
  if failed ≠ 0 ∧ !o.has 's' then warn (plural failed " computed checksum did NOT match" " computed checksums did NOT match")
  return if failed ≠ 0 ∨ unread ≠ 0 then 1 else status

def digestWith (digest : List UInt8 → String) : Utility := fun words =>
  withOptions { letters := "bctwzqs", names := [("check", 'c'), ("binary", 'b'), ("text", 't'), ("quiet", 'q'),
    ("status", 's'), ("zero", 'z')] } (hint 1) words fun o => do
      if o.has 'c' then return (← checkSums digest o)
      let (found, status) ← readFiles about o.words
      for (file, text) in found do
        emit 1 (digest (toBytes text) ++ (if o.has 'b' then " *" else "  ") ++ file ++ (if o.has 'z' then "\x00" else "\n"))
      return status

def cksum : Utility := fun words =>
  withOptions "" (hint 1) words fun o => do
    let (found, status) ← readFiles about o.words
    for (file, text) in found do
      emit 1 (toString (Text.Checksum.cyclic (toBytes text)).toNat ++ " " ++ toString text.length ++
        (if o.words.isEmpty then "" else " " ++ file) ++ "\n")
    return status

end ProcessDiagram.Shell.Utility
