import ProcessDiagram.Shell.Expansion
import ProcessDiagram.Shell.Signal
import ProcessDiagram.Shell.Utility

/-! The commands that a shell runs itself and that run no others. -/
namespace ProcessDiagram.Shell

open ProcessDiagram.Shell.Action

namespace Builtin

/-! ### Words -/

def number (word : String) : Action Nat :=
  match word.toNat? with
  | some n => if word.toList.all Char.isDigit ∧ n < Nat.pow 2 31 then return n else giveUp ("Illegal number: " ++ word)
  | none => giveUp ("Illegal number: " ++ word)

def numberOr (default : Nat) (words : List String) : Action Nat := (words.head?.map number).getD (return default)

/-- Options at the front of some words, with their values, and the words after them. Two dashes end the options.
The number bounds the words. -/
def options (letters : String) : Nat → List String → Action (List (Char × String) × List String)
  | 0, words => return ([], words)
  | _, [] => return ([], [])
  | n + 1, word :: rest =>
    match word.toList with
    | ['-', '-'] => return ([], rest)
    | '-' :: c :: cs => do
      let (found, rest) ← inWord (c :: cs) rest
      let (more, rest) ← options letters n rest
      return (found ++ more, rest)
    | _ => return ([], word :: rest)
where
  inWord : List Char → List String → Action (List (Char × String) × List String)
    | [], rest => return ([], rest)
    | c :: cs, rest =>
      match letters.toList.dropWhile (· ≠ c) with
      | _ :: ':' :: _ =>
        match cs, rest with
        | [], value :: rest => return ([(c, value)], rest)
        | [], [] => giveUp ("No arg for -" ++ String.singleton c ++ " option")
        | _, _ => return ([(c, String.ofList cs)], rest)
      | _ :: _ => do
        let (found, rest) ← inWord cs rest
        return ((c, "") :: found, rest)
      | [] => giveUp ("Illegal option -" ++ String.singleton c)

def optionsOf (letters : String) (words : List String) : Action (List (Char × String) × List String) :=
  options letters (words.length + 1) words

/-- A text in quotes: single ones stand within double ones. -/
def quote (text : String) : String :=
  let isQuote (c : Char) : Bool := c = '\''
  let runs := text.toList.splitBy fun a b => isQuote a == isQuote b
  let quoted (run : List Char) : String :=
    if run.head?.any isQuote then "\"" ++ String.ofList run ++ "\"" else "'" ++ String.ofList run ++ "'"
  (if text.toList.head?.all isQuote then "''" else "") ++ String.join (runs.map quoted)

/-! ### Ends -/

def exit : Utility := fun words => do
  let s ← get
  throw (.exit ((← numberOr (s.keptStatus.getD s.status) words) % 256))

def handBack : Utility := fun words => do throw (.handBack (← numberOr (← get).status words))

def loops (words : List String) (stop : Nat → Stop) : Action Nat := do
  let n ← numberOr 1 words
  if n = 0 then giveUp ("Illegal number: " ++ words.headD "")
  let all := (← get).loops
  if all = 0 then return 0
  setStatus 0
  throw (stop (min n all))

/-! ### Arguments and options -/

def setArguments (arguments : List String) : Action Unit :=
  modify fun s => { s with arguments, optionIndex := 1, optionDone := none }

def shift : Utility := fun words => do
  let n ← numberOr 1 words
  let s ← get
  if s.arguments.length < n then giveUp "can't shift that many"
  setArguments (s.arguments.drop n)
  return 0

/-- The names of options with their letters; those that are never told have a digit. -/
def optionNames : List (String × Char) :=
  [("errexit", 'e'), ("noglob", 'f'), ("ignoreeof", 'I'), ("interactive", 'i'), ("monitor", 'm'), ("noexec", 'n'),
    ("stdin", 's'), ("xtrace", 'x'), ("verbose", 'v'), ("vi", 'V'), ("emacs", 'E'), ("noclobber", 'C'),
    ("allexport", 'a'), ("notify", 'b'), ("nounset", 'u'), ("privileged", 'p'), ("nolog", '0'), ("debug", '1')]

def switch (isOn : Bool) (c : Char) : Action Unit :=
  modify fun s => { s with options := (if isOn then [c] else []) ++ s.options.filter (· ≠ c) }

def switchLetter (isOn : Bool) (c : Char) : Action Unit := do
  if c.isDigit ∨ !optionNames.any (·.2 = c) then giveUp ("Illegal option -" ++ String.singleton c)
  switch isOn c

def switchName (isOn : Bool) (name : Option String) : Action Unit := do
  let s ← get
  match name with
  | some name =>
    match optionNames.lookup name with
    | some c => switch isOn c
    | none => giveUp ("Illegal option -o " ++ name)
  | none =>
    if isOn then emit 1 "Current option settings\n"
    for (name, c) in optionNames do
      let on : Bool := c ∈ s.options
      emit 1 (if isOn then name ++ "".pushn ' ' (16 - name.length) ++ (if on then "on" else "off") ++ "\n"
        else "set " ++ (if on then "-o " else "+o ") ++ name ++ "\n")

structure Invocation where
  /-- The first of the other words is a script. -/
  isScript : Bool := false
  /-- Two dashes or one end the options, with whether they are two. -/
  ended : Option Bool := none
  words : List String

/-- Switches options on or off, and gives the words that follow. In the words of a new shell there may be the
letter of a script. The number bounds the words. -/
def switches (atStart : Bool) : Nat → List String → Action Invocation
  | _, [] => return { words := [] }
  | 0, words => return { words }
  | n + 1, word :: rest =>
    match word.toList with
    | ['-', '-'] => return { ended := some true, words := rest }
    | ['-'] => return { ended := some false, words := rest }
    | '-' :: c :: cs => letters n true (c :: cs) rest
    | '+' :: cs => letters n false cs rest
    | _ => return { words := word :: rest }
where
  letters (n : Nat) (isOn : Bool) : List Char → List String → Action Invocation
    | [], rest => switches atStart n rest
    | c :: cs, rest => do
      if c = 'c' ∧ atStart then
        let i ← letters n isOn cs rest
        return { i with isScript := true }
      else if c = 'l' ∧ atStart then letters n isOn cs rest
      else if c = 'o' then
        switchName isOn rest.head?
        letters n isOn cs rest.tail
      else
        switchLetter isOn c
        letters n isOn cs rest

/-! ### Variables -/

def list (word : String) (kept : Binding → Bool) : Action Nat := do
  let shown := (← get).bindings.filter kept
  for b in shown.mergeSort fun a b => Expansion.textOrder a.name b.name do
    emit 1 (word ++ b.name ++ ((b.value.map fun v => "=" ++ quote v).getD "") ++ "\n")
  return 0

def setOptions : Utility := fun words => do
  if words.isEmpty then return (← list "" fun b => b.value.isSome)
  let i ← switches false (words.length + 1) words
  if i.ended = some false then
    switch false 'x'
    switch false 'v'
  if !i.words.isEmpty ∨ i.ended = some true then setArguments i.words
  return 0

def unset : Utility := fun words => do
  let (o, names) ← optionsOf "vf" words
  let kind := (o.getLast?.map (·.1)).getD ' '
  for name in names do
    if kind ≠ 'f' then
      if !isName name.toList then giveUp (name ++ ": bad variable name")
      assignAs name none false
    if kind ≠ 'v' then
      modify fun s => { s with functions := s.functions.filter (·.1 ≠ name) }
  return 0

def nameIn (word : String) : Action String := do
  let name := word.toList.takeWhile (· ≠ '=')
  if !isName name then giveUp (String.ofList name ++ ": bad variable name")
  return String.ofList name

def valueIn? (word : String) : Option String :=
  match word.toList.dropWhile (· ≠ '=') with
  | _ :: value => some (String.ofList value)
  | [] => none

def markAll (f : Binding → Binding) (words : List String) : Action Nat := do
  for word in words do
    let name ← nameIn word
    if let some value := valueIn? word then assign name value
    let s ← get
    set (s.bind (f ((s.binding? name).getD { name, value := none })))
  return 0

def exportNames : Utility := fun words => do
  let (o, names) ← optionsOf "p" words
  if o.isEmpty ∧ !names.isEmpty then markAll (fun b => { b with exported := true }) names
  else list "export " (·.exported)

def freezeNames : Utility := fun words => do
  let (o, names) ← optionsOf "p" words
  if o.isEmpty ∧ !names.isEmpty then markAll (fun b => { b with readOnly := true }) names
  else list "readonly " (·.readOnly)

def localNames : Utility := fun words => do
  if (← get).frames.isEmpty then giveUp "not in a function"
  for word in words do
    if word = "-" then
      modify fun s => match s.frames with
        | frame :: frames => { s with frames := (.options s.options :: frame) :: frames }
        | [] => s
    else
      let name ← nameIn word
      save name
      if let some value := valueIn? word then assign name value
  return 0

/-! ### Directories -/

/-- The absolute path that a path leads to from another; two dots lead back, whatever is there. -/
def led (start path : String) : String :=
  let start := if path.startsWith "/" then "" else start
  let steps := (start.splitOn "/" ++ path.splitOn "/").foldl (fun steps step =>
    if step = "" ∨ step = "." then steps
    else if step = ".." then steps.tail
    else step :: steps) []
  let whole := if start = "" then path else start
  (if whole.startsWith "//" ∧ !whole.startsWith "///" then "//" else "/") ++ "/".intercalate steps.reverse

/-- Goes to a directory: along the path that led to the present one, or from where that really is. -/
def change (isPlain : Bool) (dir : String) : Action Bool := do
  let s ← get
  let path := if isPlain then dir else led s.directory dir
  match s.tree.resolve (toText path) with
  | .ok place =>
    if s.tree.entry? place != some .directory then return false
    let directory := if isPlain then placeText place else path
    assignAs "OLDPWD" (some s.directory) true
    assignAs "PWD" (some directory) true
    modify fun s => { s with directory, tree := { s.tree with workDir := place } }
    return true
  | .error _ => return false

def wantsPlace (o : List (Char × String)) : Bool := o.getLast?.any (·.1 = 'P')

def showDirectory : Utility := fun words => do
  let (o, _) ← optionsOf "LP" words
  let s ← get
  emit 1 ((if wantsPlace o then placeText s.tree.workDir else s.directory) ++ "\n")
  return 0

def cd : Utility := fun words => do
  let (o, words) ← optionsOf "LP" words
  let s ← get
  let (dir, told) := match words with
    | [] => ((s.value? "HOME").getD "", false)
    | "-" :: _ => ((s.value? "OLDPWD").getD "", true)
    | dir :: _ => (dir, false)
  let isSearched := !dir.startsWith "/" && dir ≠ "." && dir ≠ ".." && !dir.startsWith "./" && !dir.startsWith "../"
  let places := if isSearched then (((s.value? "CDPATH").getD "").splitOn ":").map fun start =>
      (start, Launch.candidate start (if dir = "" then "." else dir))
    else []
  let isDirectory (path : String) : Bool := s.tree.isDirectory (toText path)
  let (told, target) := match places.find? fun (_, path) => isDirectory path with
    | some (start, path) => (told || start ≠ "", path)
    | none => (told, dir)
  if !(← change (wantsPlace o) target) then giveUp ("can't cd to " ++ dir)
  if told then emit 1 ((← get).directory ++ "\n")
  return 0

/-! ### Reading -/

/-- The pieces of a line up to its end, how many characters it takes, and whether it is ended. A backslash
protects a character from being a separator, and joins lines. -/
def linePieces (raw : Bool) (current : List Cell) (n : Nat) : List Char → List Piece × Nat × Bool
  | [] => ([⟨.atSeparators, current.reverse⟩], n, false)
  | '\n' :: _ => ([⟨.atSeparators, current.reverse⟩], n + 1, true)
  | '\\' :: c :: rest =>
    if raw then linePieces raw (.char '\\' :: current) (n + 1) (c :: rest)
    else
      let (found, n, ended) := linePieces raw [] (n + 2) rest
      (⟨.atSeparators, current.reverse⟩ :: (if c = '\n' then found else ⟨.nowhere, [.escaped c]⟩ :: found), n, ended)
  | c :: rest =>
    if c = '\\' ∧ !raw then ([⟨.atSeparators, current.reverse⟩], n + 1, false)
    else linePieces raw (if c = '\x00' then current else .char c :: current) (n + 1) rest

def read : Utility := fun words => do
  let (o, names) ← optionsOf "p:r" words
  if names.isEmpty then giveUp "arg count"
  let rest := match ← toRead 0 with
    | .ok rest => rest
    | .error _ => []
  let (found, n, ended) := linePieces (o.any (·.1 = 'r')) [] 0 rest
  advance 0 n
  let values := Expansion.fieldsOf (← get).separators (some names.length) found
  for (name, i) in names.zipIdx do
    if !isName name.toList then giveUp (name ++ ": bad variable name")
    assign name (Cell.text (values.getD i []))
  return if ended then 0 else 1

/-! ### Options of scripts -/

/-- The next option of a script: its letter, its value, where the search goes on, and what is wrong. -/
structure Found where
  letter : Char := '?'
  value : Option String := none
  complaint : String := ""
  index : Nat
  done : Option Nat := none
  isEnd : Bool := false

/-- Looks for the next option from an argument on. In an argument some letters may be done. -/
def nextOption (letters : List Char) (arguments : List String) (index : Nat) (done : Option Nat) : Found :=
  let isQuiet : Bool := letters.head? = some ':'
  let current := if index ≤ 1 then none else
    done.bind fun n => (arguments[index - 2]?).bind fun word =>
      let rest := word.toList.drop n
      if rest.isEmpty then none else some (rest, index)
  let start := match current with
    | some found => some found
    | none =>
      match (arguments[index - 1]?).map String.toList with
      | some ('-' :: c :: cs) => some (c :: cs, index + 1)
      | _ => none
  match start with
  | none => { index, isEnd := true }
  | some (['-'], index) => { index, isEnd := true }
  | some ([], index) => { index, isEnd := true }
  | some (c :: rest, index) =>
    let length := ((arguments[index - 2]?).getD "").length
    let done := some (length - rest.length)
    match afterLetter c letters with
    | none =>
      if isQuiet then { value := some (String.singleton c), index, done }
      else { complaint := "Illegal option -" ++ String.singleton c ++ "\n", index, done }
    | some true =>
      if !rest.isEmpty then { letter := c, value := some (String.ofList rest), index }
      else
        match arguments[index - 1]? with
        | some value => { letter := c, value := some value, index := index + 1 }
        | none =>
          if isQuiet then { letter := ':', value := some (String.singleton c), index }
          else { complaint := "No arg for -" ++ String.singleton c ++ " option\n", index }
    | some false => { letter := c, value := some "", index, done }
where
  /-- Whether a letter takes a value, if it is one. -/
  afterLetter (c : Char) : List Char → Option Bool
    | d :: ':' :: rest => if c = d then some true else afterLetter c rest
    | d :: rest => if c = d then some false else afterLetter c rest
    | [] => none

def getopts : Utility := fun words => do
  let (_, words) ← optionsOf "" words
  match words with
  | letters :: name :: given =>
    let s ← get
    let arguments := if given.isEmpty then s.arguments else given
    let (index, done) := if arguments.length + 1 < s.optionIndex then (1, none) else (s.optionIndex, s.optionDone)
    let found := nextOption letters.toList arguments index done
    emit 2 found.complaint
    if found.complaint ≠ "" then assignAs "OPTARG" none false
    else if let some value := found.value then assign "OPTARG" value
    assign "OPTIND" (toString found.index)
    if !isName name.toList then giveUp (name ++ ": bad variable name")
    assign name (String.singleton found.letter)
    modify fun s => { s with optionIndex := found.index, optionDone := found.done }
    return if found.isEnd then 1 else 0
  | _ => giveUp "Usage: getopts optstring var [arg...]"

/-! ### Traps -/

def trap : Utility := fun words => do
  let (_, words) ← optionsOf "" words
  match words with
  | [] =>
    for (signal, action) in (← get).traps.mergeSort fun a b => Signal.number a.1 ≤ Signal.number b.1 do
      emit 1 ("trap -- " ++ quote action ++ " " ++ signal ++ "\n")
    return 0
  | first :: rest =>
    let (action, signals) := if rest.isEmpty ∨ first.toNat?.any (· < Signal.names.length) then ("-", words)
      else (first, rest)
    for word in signals do
      match Signal.ofWord? 0 word with
      | none =>
        emit 2 ("trap: " ++ word ++ ": bad trap\n")
        return 1
      | some signal =>
        modify fun s =>
          let others := s.traps.filter (·.1 ≠ signal)
          let unhandled := if s.isCopy then s.handled else s.handled.filter (· ≠ (s.process, signal))
          if action = "-" then { s with traps := others, handled := unhandled }
          else { s with
            traps := (signal, action) :: others
            handled := if s.isCopy then unhandled else (s.process, signal) :: unhandled }
    return 0

/-! ### Aliases -/

def aliasText (name text : String) : String := name ++ "=" ++ quote text ++ "\n"

def «alias» : Utility := fun words => do
  if words.isEmpty then
    for (name, text) in (← get).aliases.mergeSort fun a b => row a.1 ≤ row b.1 do emit 1 (aliasText name text)
    return 0
  let mut status := 0
  for word in words do
    let name := String.ofList (word.toList.take 1 ++ (word.toList.drop 1).takeWhile (· ≠ '='))
    if name.length < word.length then
      let text := String.ofList (word.toList.drop (name.length + 1))
      modify fun s =>
        if (s.aliases.lookup name).isSome then
          { s with aliases := s.aliases.map fun a => if a.1 = name then (name, text) else a }
        else { s with aliases := s.aliases ++ [(name, text)] }
    else
      match (← get).aliases.lookup name with
      | some text => emit 1 (aliasText name text)
      | none =>
        emit 2 ("alias: " ++ name ++ " not found\n")
        status := 1
  return status

def unalias : Utility := fun words => do
  let (o, names) ← optionsOf "a" words
  if !o.isEmpty then
    modify fun s => { s with aliases := [] }
    return 0
  let mut status := 0
  for name in names do
    if ((← get).aliases.lookup name).isNone then
      emit 2 ("unalias: " ++ name ++ " not found\n")
      status := 1
    modify fun s => { s with aliases := s.aliases.filter (·.1 ≠ name) }
  return status

/-! ### Limits -/

def octalText (n : Nat) : String :=
  let digits := String.ofList (Nat.toDigits 8 n)
  "".pushn '0' (4 - digits.length) ++ digits

/-- What a mask leaves to three kinds of users. -/
def maskText (mask : Nat) : String :=
  let left (shift : Nat) : String :=
    let bits := 7 - mask / shift % 8
    (if 4 ≤ bits then "r" else "") ++ (if 2 ≤ bits % 4 then "w" else "") ++ (if bits % 2 = 1 then "x" else "")
  "u=" ++ left 64 ++ ",g=" ++ left 8 ++ ",o=" ++ left 1

def modeAfter? (mode : Nat) (text : String) : Option Nat :=
  (text.splitOn ",").foldlM (fun mode clause =>
    let who := clause.toList.takeWhile (· ∈ ['u', 'g', 'o', 'a'])
    let shifts := if who.isEmpty ∨ 'a' ∈ who then [64, 8, 1]
      else who.filterMap fun c => [('u', 64), ('g', 8), ('o', 1)].lookup c
    match clause.toList.drop who.length with
    | sign :: letters =>
      if sign ∉ ['=', '+', '-'] ∨ !letters.all (· ∈ ['r', 'w', 'x']) then none
      else
        let bits := (if 'r' ∈ letters then 4 else 0) + (if 'w' ∈ letters then 2 else 0) + (if 'x' ∈ letters then 1 else 0)
        some (shifts.foldl (fun mode shift =>
          let old := mode / shift % 8
          let new := if sign = '=' then bits else if sign = '+' then old ||| bits else old - (old &&& bits)
          mode - old * shift + new * shift) mode)
    | [] => none) mode

def umask : Utility := fun words => do
  let (o, words) ← optionsOf "S" words
  let mask := (← get).mask
  match words with
  | [] => emit 1 ((if o.isEmpty then octalText mask else maskText mask) ++ "\n")
  | mode :: _ =>
    if mode.toList.head?.any Char.isDigit then
      match mode.toList.foldlM (fun n c => (Arithmetic.digit? c).bind fun d => if d < 8 then some (n * 8 + d) else none) 0 with
      | some mask => modify fun s => { s with mask := mask % 512 }
      | none => giveUp ("Illegal number: " ++ mode)
    else
      match modeAfter? (511 - mask) mode with
      | some mode => modify fun s => { s with mask := 511 - mode }
      | none => giveUp ("Illegal mode: " ++ mode)
  return 0

def ulimit : Utility := fun words => do
  if words.length ≤ 1 then emit 1 "unlimited\n"
  return 0

def times : Utility := fun _ => do
  emit 1 "0m0.000000s 0m0.000000s\n0m0.000000s 0m0.000000s\n"
  return 0

/-! ### Tables -/

/-- The commands that run no others, of which those of the first list are part of the language: they end the
script when they fail, and the assignments before them stay. -/
def special : List (String × Utility) :=
  [(":", fun _ => return 0), ("exit", exit), ("return", handBack), ("break", fun words => loops words .leave),
    ("continue", fun words => loops words .goOn), ("shift", shift), ("set", setOptions), ("unset", unset),
    ("export", exportNames), ("readonly", freezeNames), ("local", localNames), ("trap", trap), ("times", times)]

def table : List (String × Utility) :=
  [("cd", cd), ("chdir", cd), ("read", read), ("getopts", getopts), ("umask", umask), ("ulimit", ulimit),
    ("alias", «alias»), ("unalias", unalias), ("true", fun _ => return 0), ("false", fun _ => return 1),
    ("echo", Utility.echo), ("printf", Utility.printf), ("test", Utility.test), ("[", Utility.bracket),
    ("pwd", showDirectory), ("bg", fun _ => giveUp "No current job"), ("fg", fun _ => giveUp "No current job"),
    ("jobs", fun _ => return 0)]

end Builtin

end ProcessDiagram.Shell
