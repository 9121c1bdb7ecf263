import ProcessDiagram.Decimal.Rounded
import ProcessDiagram.Shell.Program.Directories
import ProcessDiagram.Shell.Regex

/-! Programs that work on their words. -/
namespace ProcessDiagram.Shell.Utility

open ProcessDiagram.Shell.Action

/-! ### Paths -/

def nameWithout (ending path : String) : String :=
  let name := lastName path
  if ending ≠ "" ∧ name ≠ ending ∧ name.endsWith ending then
    String.ofList (name.toList.take (name.length - ending.length))
  else name

def basename : Utility := fun words =>
  withOptions { letters := "as:z", names := [("multiple", 'a'), ("suffix", 's'), ("zero", 'z')], inOrder := true } (hint 1)
    words fun o => do
      let lineEnd := if o.has 'z' then "\x00" else "\n"
      match o.words with
      | [] => misused "missing operand"
      | path :: rest =>
        if o.has 'a' ∨ o.has 's' then
          emit 1 (String.join (o.words.map fun p => nameWithout ((o.value? 's').getD "") p ++ lineEnd))
          return 0
        match rest[1]? with
        | some word => misused ("extra operand " ++ Quoting.word word)
        | none =>
          emit 1 (nameWithout (rest.headD "") path ++ lineEnd)
          return 0

def directoryOf (path : String) : String :=
  let rest := (trimmed path).toList.reverse.dropWhile (· ≠ '/')
  match rest, (rest.dropWhile (· = '/')) with
  | [], _ => "."
  | _, [] => "/"
  | _, dir => String.ofList dir.reverse

def dirname : Utility := fun words =>
  withOptions { letters := "z", names := [("zero", 'z')] } (hint 1) words fun o => do
    if o.words.isEmpty then return (← misused "missing operand")
    emit 1 (String.join (o.words.map fun p => directoryOf p ++ (if o.has 'z' then "\x00" else "\n")))
    return 0

def pwd : Utility := fun words =>
  withOptions { letters := "LP", names := [("logical", 'L'), ("physical", 'P')] } (hint 1) words fun o => do
    if !o.words.isEmpty then warn "ignoring non-option arguments"
    emit 1 (placeText (← get).tree.workDir ++ "\n")
    return 0

/-! ### Text -/

def echoEscapes : Nat → List Char → List Char × Bool
  | n + 1, '\\' :: cs =>
    let more (found rest : List Char) : List Char × Bool :=
      let (text, ended) := echoEscapes n rest
      (found ++ text, ended)
    match cs with
    | 'c' :: _ => ([], true)
    | 'e' :: rest => more ['\x1b'] rest
    | '0' :: rest =>
      let (c, rest) := Format.octal 0 3 rest
      more [c] rest
    | 'x' :: rest =>
      let digits := (rest.take 2).takeWhile fun c => (Arithmetic.digit? c).any (· < 16)
      if digits.isEmpty then more ['\\', 'x'] rest
      else more [Char.ofNat (Arithmetic.natFrom 16 0 digits).1] (rest.drop digits.length)
    | c :: rest =>
      match Format.letterEscape? c, Format.octalDigit? c with
      | some e, _ => more [e] rest
      | none, some _ =>
        let (e, rest) := Format.octal 0 3 (c :: rest)
        more [e] rest
      | none, none => more ['\\', c] rest
    | [] => (['\\'], false)
  | n + 1, c :: cs =>
    let (text, ended) := echoEscapes n cs
    (c :: text, ended)
  | _, _ => ([], false)

/-- Words as a line. Options are words of the letters `n`, `e` and `E` only. -/
def echoPlainly : Utility := fun words => do
  let isOption (word : String) : Bool := match word.toList with
    | '-' :: c :: cs => (c :: cs).all (· ∈ ['n', 'e', 'E'])
    | _ => false
  let options := (words.takeWhile isOption).flatMap (·.toList.tail)
  let text := " ".intercalate (words.dropWhile isOption)
  let escapes : Bool := ((options.reverse.find? (· ≠ 'n')).map (· == 'e')).getD false
  let (text, ended) := if escapes then echoEscapes (text.length + 1) text.toList else (text.toList, false)
  emit 1 (String.ofList (if ended ∨ 'n' ∈ options then text else text ++ ['\n']))
  return 0

def formatted : Utility := fun words => do
  let words := if words.head? = some "--" then words.tail else words
  match words with
  | [] => misused "missing operand"
  | format :: arguments =>
    let printed := Format.printf .program format arguments
    let mut shown := 0
    for (length, text) in printed.complaints do
      emit 1 (String.ofList ((printed.text.take length).drop shown))
      shown := length
      warn text
    emit 1 (String.ofList (printed.text.drop shown))
    if !printed.arguments.isEmpty ∧ !printed.ended then
      warn ("warning: ignoring excess arguments, starting with " ++ Quoting.word (printed.arguments.headD ""))
    return if printed.complaints.all (·.2.startsWith "warning: ") then 0 else 1

def condition (inBrackets : Bool) : Utility := fun words => do
  if inBrackets ∧ words.getLast? ≠ some "]" then
    warn "missing ']'"
    return 2
  match Condition.holds (← conditionSource) (if inBrackets then words.dropLast else words) with
  | .ok result => return if result then 0 else 1
  | .error text =>
    warn text
    return 2

def yes : Utility := fun words =>
  withOptions "" (hint 1) words fun o => do
    let line := (if o.words.isEmpty then "y" else " ".intercalate o.words) ++ "\n"
    let block := String.join (List.replicate (8192 / line.length + 1) line)
    for _ in List.range 4096 do
      emit 1 block
      if let some e := (← get).writeError then
        modify fun s => { s with writeError := none }
        warn ("standard output: " ++ e.reason)
        return 1
    throw .endless

/-! ### Numbers -/

def rowNumber? (word : String) : Option (Int × Nat) := do
  let (isNegative, cs) := match word.toList with
    | '-' :: rest => (true, rest)
    | '+' :: rest => (false, rest)
    | cs => (false, cs)
  match Decimal.readNumber? cs with
  | some (.number x, []) =>
    let mantissa := cs.takeWhile fun c => c ≠ 'e' && c ≠ 'E'
    let places := if mantissa.length < cs.length then 0 else (mantissa.dropWhile (· ≠ '.')).length - 1
    let n := x.num * Nat.pow 10 places / x.den
    return (if isNegative then -Int.ofNat n else n, places)
  | _ => none

def placesText (places : Nat) (n : Int) : String :=
  (if n < 0 then "-" else "") ++
    String.ofList (Decimal.Fraction.withPoint false places (Decimal.Fraction.digitsOf (places + 1) n.natAbs))

/-- A format with one place for a number: what stands before it, the place, and what stands behind it. -/
def numberFormat? (format : String) : Except String (String × Format.Place × String) := do
  let unescaped := format.toList
  let before := unescaped.takeWhile (· ≠ '%')
  match unescaped.drop before.length with
  | _ :: rest =>
    let flags := rest.takeWhile (· ∈ ['#', '-', '+', ' ', '0', '\''])
    let rest := rest.drop flags.length
    let width := rest.takeWhile Char.isDigit
    let rest := rest.drop width.length
    let (precision, rest) := match rest with
      | '.' :: rest => (some (((String.ofList (rest.takeWhile Char.isDigit)).toNat?).getD 0), rest.dropWhile Char.isDigit)
      | _ => (none, rest)
    match rest with
    | kind :: after =>
      if after.contains '%' then .error ("format " ++ Quoting.word format ++ " has too many % directives")
      else if kind ∉ ['e', 'E', 'f', 'F', 'g', 'G'] then
        .error ("format " ++ Quoting.word format ++ " has unknown %" ++ String.singleton kind ++ " directive")
      else
        return (String.ofList before, ⟨flags, ((String.ofList width).toNat?).getD 0, precision, kind, true⟩, String.ofList after)
    | [] => .error ("format " ++ Quoting.word format ++ " ends in %")
  | [] => .error ("format " ++ Quoting.word format ++ " has no % directive")

def splitNumbers : List String → List String × List String
  | [] => ([], [])
  | word :: rest =>
    match word.toList with
    | '-' :: c :: _ =>
      if c.isDigit ∨ c = '.' then ([], word :: rest)
      else if word = "-f" ∨ word = "-s" ∨ word = "--format" ∨ word = "--separator" then
        let (options, numbers) := splitNumbers rest.tail
        (word :: rest.take 1 ++ options, numbers)
      else if word = "--" then ([], rest)
      else
        let (options, numbers) := splitNumbers rest
        (word :: options, numbers)
    | _ => ([], word :: rest)
termination_by words => words.length
decreasing_by all_goals (simp only [List.length_cons, List.length_tail]; omega)

def seq : Utility := fun words => do
  let (options, numbers) := splitNumbers words
  withOptions { letters := "f:s:w", names := [("format", 'f'), ("separator", 's'), ("equal-width", 'w')] } (hint 1) options
    fun o => do
      match numbers, numbers[3]? with
      | [], _ => misused "missing operand"
      | _, some word => misused ("extra operand " ++ Quoting.word word)
      | _, none =>
        match numbers.find? fun w => (rowNumber? w).isNone with
        | some word => misused ("invalid floating point argument: " ++ Quoting.word word)
        | none =>
          let found := numbers.filterMap rowNumber?
          let (first, step, last) : (Int × Nat) × (Int × Nat) × (Int × Nat) := match found with
            | [a, b, c] => (a, b, c)
            | [a, b] => (a, (1, 0), b)
            | [a] => ((1, 0), (1, 0), a)
            | _ => ((1, 0), (1, 0), (0, 0))
          if step.1 = 0 then
            return (← misused ("invalid Zero increment value: " ++ Quoting.word ((numbers[1]?).getD "")))
          match (o.value? 'f').map numberFormat? with
          | some (.error text) =>
            warn text
            return 1
          | form =>
            let places := max first.2 step.2
            let all := max places last.2
            let unit (x : Int × Nat) : Int := x.1 * Nat.pow 10 (all - x.2)
            let count := ((unit last - unit first).fdiv (unit step) + 1).toNat
            let value (i : Nat) : Int := unit first + unit step * i
            let shown (n : Int) : String := placesText places (n / Nat.pow 10 (all - places))
            let lastText := placesText places (unit last / Nat.pow 10 (all - places))
            let width := if o.has 'w' then max (shown (unit first)).length lastText.length else 0
            let padded (text : String) : String :=
              if text.startsWith "-" then "-" ++ "".pushn '0' (width - text.length) ++ String.ofList text.toList.tail
              else "".pushn '0' (width - text.length) ++ text
            let text (i : Nat) : String := match form with
              | some (.ok (before, place, after)) =>
                before ++ String.ofList (place.real (value i < 0) (.number ⟨(value i).natAbs, Nat.pow 10 all⟩)) ++ after
              | _ => padded (shown (value i))
            if count ≠ 0 then
              emit 1 (((o.value? 's').getD "\n").intercalate ((List.range count).map text) ++ "\n")
            return 0

/-! ### Expressions -/

abbrev ExprStep := StateT (List String × String) (Except String)

/-- Whether a value counts as none: an empty one, or zero. -/
def isNull (v : String) : Bool :=
  let cs := v.toList
  let digits := if cs.head? = some '-' then cs.tail else cs
  cs.isEmpty || (!digits.isEmpty && digits.all (· = '0')) || v = "-"

def wholeNumber? (v : String) : Option Int :=
  let (isNegative, digits) := match v.toList with
    | '-' :: rest => (true, rest)
    | cs => (false, cs)
  if !digits.isEmpty ∧ digits.all Char.isDigit then
    let n := ((String.ofList digits).toNat?).getD 0
    some (if isNegative then -Int.ofNat n else n)
  else none

namespace ExprStep

def peek? : ExprStep (Option String) := do return (← get).1.head?

/-- The next word; there has to be one. -/
def next : ExprStep String := do
  match ← get with
  | (word :: rest, _) =>
    set (rest, word)
    return word
  | ([], last) => throw ("syntax error: missing argument after " ++ Quoting.word last)

def number (v : String) : ExprStep Int :=
  match wholeNumber? v with
  | some n => return n
  | none => throw "non-integer argument"

/-- What a basic expression matches at the start of a text: a group, or how much. -/
def matched (text pattern : String) : ExprStep String := do
  match Regex.ofText { isExtended := false } pattern.toList with
  | .error e => throw e.message
  | .ok (r, groups) =>
    match Regex.longest {} r (.ofText text.toList) with
    | none => return if groups = 0 then "0" else ""
    | some q =>
      return if groups = 0 then toString q.position else String.ofList ((q.groups.lookup 1).getD [])

def signs : Nat → List String
  | 0 => ["|"]
  | 1 => ["&"]
  | 2 => ["<", "<=", "=", "==", "!=", ">=", ">"]
  | 3 => ["+", "-"]
  | 4 => ["*", "/", "%"]
  | 5 => [":"]
  | _ => []

def combine (isMeant : Bool) (sign a b : String) : ExprStep String := do
  if !isMeant then return ""
  match sign with
  | "|" => return if !isNull a then a else if !isNull b then b else "0"
  | "&" => return if isNull a ∨ isNull b then "0" else a
  | ":" => matched a b
  | "+" => return toString ((← number a) + (← number b))
  | "-" => return toString ((← number a) - (← number b))
  | "*" => return toString ((← number a) * (← number b))
  | _ =>
    if sign = "/" ∨ sign = "%" then
      let n ← number a
      let d ← number b
      if d = 0 then throw "division by zero"
      return toString (if sign = "/" then n.tdiv d else n.tmod d)
    let order := match wholeNumber? a, wholeNumber? b with
      | some n, some m => compare n m
      | _, _ => compare a b
    let holds : Bool := match sign with
      | "<" => order == .lt
      | "<=" => order != .gt
      | ">" => order == .gt
      | ">=" => order != .lt
      | "!=" => order != .eq
      | _ => order == .eq
    return if holds then "1" else "0"

def more (operand : Bool → ExprStep String) (level : Nat) : Nat → Bool → String → ExprStep String
  | 0, _, first => return first
  | n + 1, isMeant, first => do
    match ← peek? with
    | some sign =>
      if sign ∉ signs level then return first
      let _ ← next
      let isNeeded := isMeant && !(level = 0 && !isNull first) && !(level = 1 && isNull first)
      more operand level n isMeant (← combine isMeant sign first (← operand isNeeded))
    | none => return first

/-- The value of what stands at a level. What is not meant is only read. The number bounds the words. -/
def value : Nat → Nat → Bool → ExprStep String
  | 0, _, _ => throw "syntax error"
  | n + 1, level, isMeant => do
    if level < 6 then
      let first ← value n (level + 1) isMeant
      more (value n (level + 1)) level n isMeant first
    else
      let word ← next
      match word with
      | "(" =>
        let v ← value n 0 isMeant
        match ← get with
        | (")" :: rest, _) =>
          set (rest, ")")
          return v
        | ([], last) => throw ("syntax error: expecting ')' after " ++ Quoting.word last)
        | (other :: _, _) => throw ("syntax error: expecting ')' instead of " ++ Quoting.word other)
      | ")" => throw "syntax error: unexpected ')'"
      | "+" => next
      | "length" => return toString (← value n 6 isMeant).length
      | "match" =>
        let text ← value n 6 isMeant
        let pattern ← value n 6 isMeant
        if isMeant then matched text pattern else return ""
      | "index" =>
        let text ← value n 6 isMeant
        let chars ← value n 6 isMeant
        return toString (((text.toList.findIdx? (· ∈ chars.toList)).map (· + 1)).getD 0)
      | "substr" =>
        let text ← value n 6 isMeant
        let start := (wholeNumber? (← value n 6 isMeant)).getD 0
        let length := (wholeNumber? (← value n 6 isMeant)).getD 0
        if start ≤ 0 ∨ length ≤ 0 then return ""
        return String.ofList ((text.toList.drop (start.toNat - 1)).take length.toNat)
      | _ => return word

end ExprStep

def expr : Utility := fun words => do
  let words := if words.head? = some "--" then words.tail else words
  match words with
  | [] =>
    warn "missing operand"
    hint 2
  | _ =>
    let steps : ExprStep String := do
      let v ← ExprStep.value (8 * words.length + 8) 0 true
      if let some word ← ExprStep.peek? then throw ("syntax error: unexpected argument " ++ Quoting.word word)
      return v
    match steps.run (words, "") with
    | .ok (v, _) =>
      emit 1 (v ++ "\n")
      return if isNull v then 1 else 0
    | .error text =>
      warn text
      return 2

/-! ### The system -/

def printenv : Utility := fun words =>
  withOptions { letters := "0", names := [("null", '0')] } (hint 2) words fun o => do
    let env := (← get).environment
    let lineEnd := if o.has '0' then "\x00" else "\n"
    if o.words.isEmpty then
      emit 1 (String.join (env.texts.map (· ++ lineEnd)))
      return 0
    forEach o.words fun name => do
      match env.value? name with
      | some value =>
        emit 1 (value ++ lineEnd)
        return 0
      | none => return 1

def identity : Utility := fun words =>
  withOptions { letters := "aGgnruz", names := [("user", 'u'), ("group", 'g'), ("groups", 'G'), ("name", 'n'),
    ("real", 'r')] } (hint 1) words fun o => do
      if let some word := o.words.find? (· ∉ ["root", "0"]) then
        warn (Quoting.word word ++ ": no such user")
        return 1
      let text := if o.has 'u' ∨ o.has 'g' ∨ o.has 'G' then (if o.has 'n' then "root" else "0")
        else "uid=0(root) gid=0(root) groups=0(root)"
      emit 1 (text ++ "\n")
      return 0

def uname : Utility := fun words =>
  withOptions { letters := "asnrvmpio", names := [("all", 'a'), ("kernel-name", 's'), ("nodename", 'n'),
    ("kernel-release", 'r'), ("kernel-version", 'v'), ("machine", 'm'), ("operating-system", 'o')] } (hint 1) words
    fun o => do
      if let some word := o.words.head? then return (← misused ("extra operand " ++ Quoting.word word))
      let all := o.has 'a'
      let parts := [('s', "Linux"), ('n', "localhost"), ('r', "6.1.0"), ('v', "#1 SMP"), ('m', "x86_64"), ('o', "GNU/Linux")]
      let shown := parts.filter fun (c, _) => all || o.has c || (o.options.isEmpty && c = 's')
      emit 1 (" ".intercalate (shown.map (·.2)) ++ "\n")
      return 0

def tells (text : String) : Utility := fun _ => do
  emit 1 (text ++ "\n")
  return 0

def tellsAlone (text : String) (status : Nat) : Utility := fun words =>
  withOptions "" (hint 1) words fun o => do
    match o.words with
    | word :: _ => misused ("extra operand " ++ Quoting.word word)
    | [] =>
      emit 1 (text ++ "\n")
      return status

def tty : Utility := fun words =>
  withOptions { letters := "s", names := [("silent", 's'), ("quiet", 's')] } (hint 2) words fun o => do
    match o.words with
    | word :: _ => do
      warn ("extra operand " ++ Quoting.word word)
      hint 2
    | [] =>
      if !o.has 's' then emit 1 "not a tty\n"
      return 1

def which : Utility := fun words => do
  let given := words.takeWhile fun word => word.startsWith "-" && word ≠ "-" && word ≠ "--"
  let letters := given.flatMap (·.toList.tail)
  let names := match words.drop given.length with
    | "--" :: rest => rest
    | rest => rest
  if let some c := letters.find? (· ∉ ['a', 's']) then
    emit 2 ("Illegal option -" ++ String.singleton c ++ "\n")
    emit 1 "Usage: /usr/bin/which [-as] args\n"
    return 2
  let o := 'a' ∈ letters
  let s ← get
  let path := (s.environment.value? "PATH").getD Launch.usualPath
  if names.isEmpty then return 1
  forEach names fun name => do
    let candidates := if name.toList.contains '/' then [name] else (path.splitOn ":").map (Launch.candidate · name)
    let found := candidates.filter fun file => (Launch.executable s.tree (toText file)).toOption.isSome
    if 's' ∉ letters then
      for file in if o then found else found.take 1 do emit 1 (file ++ "\n")
    return if found.isEmpty then 1 else 0

end ProcessDiagram.Shell.Utility
