import ProcessDiagram.Shell.Edit
import ProcessDiagram.Shell.Program.Lines

/-! Lines edited by a script. -/
namespace ProcessDiagram.Shell.Utility

open ProcessDiagram.Shell.Action Edit

structure EditOutput where
  channel : Option Nat
  owes : Bool := false

/-- How far an editor has come. -/
structure Editing where
  /-- The lines that are left, each with whether it has ended. -/
  rest : List (List Char × Bool)
  /-- How many lines have been read of all files. -/
  read : Nat := 0
  number : Nat := 0
  file : String := "-"
  space : List Char := []
  ended : Bool := true
  hold : List Char := []
  /-- What is put out after the line: a text, or the lines of a file. -/
  appended : List (List Char ⊕ String) := []
  replaced : Bool := false
  /-- The ranges that are open, by their instructions, each with the line that ends it if that is known. -/
  ranges : List (Nat × Option Nat) := []
  lastExpression : Expression := none
  output : EditOutput
  targets : List (String × EditOutput) := []
  /-- How many lines of files that are put in line by line have been read. -/
  readLines : List (String × Nat) := []
  silent : Bool
  lineEnd : Char
  width : Nat

/-- Steps of an editor. -/
abbrev Edits := StateT Editing Action

inductive LineEnding where
  /-- The line is put out unless the editor is silent. -/
  | done
  | deleted
  /-- The instructions start again on what is left of the line. -/
  | again
  | quit (prints : Bool) (status : Nat)

namespace Edits

/-- Ends the editor. -/
def die (status : Nat) (text : String) : Edits α := do
  warnAtOnce text
  throw (.exit status)

def putTo (o : EditOutput) (text : List Char) (ended : Bool) (lineEnd : Char) : Action EditOutput := do
  let all := (if o.owes then [lineEnd] else []) ++ text ++ (if ended then [lineEnd] else [])
  let text := String.ofList all
  match o.channel with
  | none => emit 1 text
  | some i =>
    keepingStreams do
      connect 1 (some i)
      let _ ← write 1 text
  return { o with owes := !ended }

def put (text : List Char) (ended : Bool) : Edits Unit := do
  let e ← get
  let output ← putTo e.output text ended e.lineEnd
  modify fun e => { e with output }

def putWhole (text : List Char) : Edits Unit := do
  if text.isEmpty then return ()
  let e ← get
  let ended := text.getLast? = some '\n'
  if ended then
    let output ← putTo e.output text.dropLast false e.lineEnd
    let output ← putTo { output with owes := false } ['\n'] false e.lineEnd
    modify fun e => { e with output := { output with owes := false } }
  else
    let output ← putTo e.output text false e.lineEnd
    modify fun e => { e with output := { output with owes := false } }

def putToFile (name : String) (text : List Char) (ended : Bool) : Edits Unit := do
  let e ← get
  if name = "/dev/stdout" then put text ended
  else if name = "/dev/stderr" then
    emit 2 (String.ofList (text ++ if ended then [e.lineEnd] else []))
  else
    if let some o := e.targets.lookup name then
      let o ← putTo o text ended e.lineEnd
      modify fun e => { e with targets := e.targets.map fun t => if t.1 = name then (name, o) else t }

def putAppended : Edits Unit := do
  let appended := (← get).appended
  modify fun e => { e with appended := [] }
  for item in appended do
    match item with
    | .inl text => putWhole text
    | .inr name =>
      match ← contents takeAll (if name = "/dev/stdin" then "-" else name) with
      | .ok text => putWhole text.toList
      | .error _ => return ()

def putSpace : Edits Unit := do
  let e ← get
  put e.space e.ended

/-- The expression that is meant: the last one used for none. -/
def meant (x : Expression) : Edits (Regex × Regex.Manner) := do
  let last := (← get).lastExpression
  match x.orElse fun _ => last with
  | some found =>
    modify fun e => { e with lastExpression := some found }
    return found
  | none => die 1 "-e expression #1, char 0: no previous regular expression"

def isMatch (x : Expression) : Edits Bool := do
  let (r, m) ← meant x
  return Regex.isFound m r (← get).space

def holds (a : Address) : Edits Bool := do
  let e ← get
  match a with
  | .line n => return e.number = n
  | .step first every => return first ≤ e.number && (e.number - first) % every = 0
  | .last => return e.rest.isEmpty
  | .matching x => isMatch x

/-- Whether an instruction is about the line; ranges open and close on the way. -/
def applies (i : Nat) (instruction : Instruction) : Edits Bool := do
  let e ← get
  let close : Edits Unit := modify fun e => { e with ranges := e.ranges.filter (·.1 ≠ i) }
  let openTo (n : Option Nat) : Edits Unit := modify fun e => { e with ranges := (i, n) :: e.ranges }
  match instruction.first, instruction.last with
  | none, _ => return true
  | some a, none => holds a
  | some a, some stop =>
    match e.ranges.lookup i with
    | some (some n) =>
      if n ≤ e.number then close
      return e.number ≤ n
    | some none =>
      let isEnd ← match stop with
        | .last => pure e.rest.isEmpty
        | .matching x => isMatch x
        | _ => pure true
      if isEnd then close
      return true
    | none =>
      if !(← holds a) then return false
      match stop with
      | .line n => if e.number < n then openTo (some n)
      | .after n => if 0 < n then openTo (some (e.number + n))
      | .multiple n => if n ≠ 0 ∧ e.number % n ≠ 0 then openTo (some ((e.number + n - 1) / n * n))
      | .last => if !e.rest.isEmpty then openTo none
      | .matching _ => openTo none
      return true

def nextLine? : Edits (Option (List Char)) := do
  let e ← get
  match e.rest with
  | [] => return none
  | (line, ended) :: rest =>
    set { e with rest, ended, number := e.number + 1, read := e.read + 1 }
    return some line

/-- How a line is listed: what is not printed is written out. -/
def listed (width : Nat) (text : List Char) : List Char :=
  let shown (c : Char) : List Char :=
    if c = '\\' then ['\\', '\\'] else if Quoting.isShown c then [c] else '\\' :: Quoting.escape c
  let (lines, current) := text.foldl (fun (lines, current) c =>
    let item := shown c
    if 1 < width ∧ width - 1 < current.length + item.length then (lines ++ current ++ ['\\', '\n'], item)
    else (lines, current ++ item)) ([], [])
  lines ++ current ++ ['$']

def afterBlock (program : Array Instruction) : Nat → Nat → Nat → Nat
  | 0, _, i => i
  | n + 1, depth, i =>
    match program[i]? with
    | some instruction =>
      match instruction.deed with
      | .openBlock => afterBlock program n (depth + 1) (i + 1)
      | .closeBlock => if depth = 0 then i + 1 else afterBlock program n (depth - 1) (i + 1)
      | _ => afterBlock program n depth (i + 1)
    | none => i

def labelPlace (program : Array Instruction) (name : String) : Nat :=
  (program.findIdx? fun i => match i.deed with
    | .label l => l = name
    | _ => false).getD program.size

def substitute (s : Substitution) : Edits Unit := do
  let (r, m) ← meant s.expression
  if let some text := Edit.replace m r s (← get).space then
    modify fun e => { e with space := text, replaced := true }
    if s.prints then putSpace
    if let some name := s.target then putToFile name text (← get).ended

def perform (program : Array Instruction) : Nat → Nat → Edits LineEnding
  | 0, _ => throw .endless
  | n + 1, i => do
    match program[i]? with
    | none => return .done
    | some instruction =>
      if (← applies i instruction) = instruction.turned then
        match instruction.deed with
        | .openBlock => perform program n (afterBlock program program.size 0 (i + 1))
        | _ => perform program n (i + 1)
      else
        let go : Edits LineEnding := perform program n (i + 1)
        let e ← get
        match instruction.deed with
        | .openBlock => go
        | .closeBlock => go
        | .label _ => go
        | .branch onReplaced name =>
          let target := if name = "" then program.size else labelPlace program name
          match onReplaced with
          | none => perform program n target
          | some wanted =>
            modify fun e => { e with replaced := false }
            if e.replaced = wanted then perform program n target else go
        | .before text =>
          putWhole text
          go
        | .after text =>
          modify fun e => { e with appended := e.appended ++ [.inl text] }
          go
        | .instead text =>
          let isOpen : Bool := (e.ranges.lookup i).isSome && !instruction.turned
          if !isOpen then putWhole text
          return .deleted
        | .substitute s =>
          substitute s
          go
        | .translate pairs =>
          set { e with space := e.space.map fun c => (pairs.lookup c).getD c }
          go
        | .quit prints status => return .quit prints status
        | .list width =>
          put (listed (width.getD e.width) e.space) true
          go
        | .readFile name =>
          modify fun e => { e with appended := e.appended ++ [.inr name] }
          go
        | .readLine name =>
          let before := (e.readLines.lookup name).getD 0
          match ← contents takeAll name with
          | .ok text =>
            match (lines text)[before]? with
            | some line =>
              modify fun e => { e with
                appended := e.appended ++ [.inl (bare line ++ "\n").toList]
                readLines := (name, before + 1) :: e.readLines.filter (·.1 ≠ name) }
            | none => pure ()
          | .error _ => pure ()
          go
        | .writeFile name =>
          putToFile name e.space e.ended
          go
        | .writeLine name =>
          putToFile name (e.space.takeWhile (· ≠ '\n')) true
          go
        | .simple letter =>
          match letter with
          | '=' =>
            put (toString e.number).toList true
            go
          | 'd' => return .deleted
          | 'D' =>
            match e.space.dropWhile (· ≠ e.lineEnd) with
            | [] => return .deleted
            | _ :: rest =>
              set { e with space := rest }
              return .again
          | 'F' =>
            put e.file.toList true
            go
          | 'g' =>
            set { e with space := e.hold }
            go
          | 'G' =>
            set { e with space := e.space ++ e.lineEnd :: e.hold }
            go
          | 'h' =>
            set { e with hold := e.space }
            go
          | 'H' =>
            set { e with hold := e.hold ++ e.lineEnd :: e.space }
            go
          | 'x' =>
            set { e with space := e.hold, hold := e.space }
            go
          | 'n' =>
            if e.rest.isEmpty then return .quit true 0
            if !e.silent then putSpace
            putAppended
            if let some line ← nextLine? then modify fun e => { e with space := line }
            go
          | 'N' =>
            if e.rest.isEmpty then return .quit true 0
            putAppended
            if let some line ← nextLine? then modify fun e => { e with space := e.space ++ e.lineEnd :: line }
            go
          | 'p' =>
            putSpace
            go
          | 'P' =>
            put (e.space.takeWhile (· ≠ e.lineEnd)) true
            go
          | 'z' =>
            set { e with space := [] }
            go
          | _ => go

/-- Edits all lines; gives the status if a line ends it. The number bounds the lines. -/
def all (program : Array Instruction) : Nat → Bool → Edits (Option Nat)
  | 0, _ => throw .endless
  | n + 1, isFresh => do
    let isThere ← if !isFresh then pure true else do
      match ← nextLine? with
      | some line =>
        modify fun e => { e with space := line, replaced := false }
        pure true
      | none => pure false
    if !isThere then return none
    let finish : Edits Unit := do
      if !(← get).silent then putSpace
    match ← perform program 100000 0 with
    | .done =>
      finish
      putAppended
      all program n true
    | .deleted =>
      putAppended
      all program n true
    | .again =>
      putAppended
      all program n false
    | .quit prints status =>
      if prints then finish
      putAppended
      return some status

end Edits

def sedOptions : OptionTable where
  letters := "nErsuzi::e:f:l:bPφ"
  names := [("quiet", 'n'), ("silent", 'n'), ("expression", 'e'), ("file", 'f'), ("in-place", 'i'),
    ("line-length", 'l'), ("regexp-extended", 'E'), ("separate", 's'), ("unbuffered", 'u'), ("null-data", 'z'),
    ("posix", 'P'), ("binary", 'b'), ("follow-symlinks", 'φ')]

def linesToEdit (lineEnd : Char) (text : String) : List (List Char × Bool) :=
  let pieces := text.splitOn (String.singleton lineEnd)
  let last := pieces.getLastD ""
  pieces.dropLast.map (fun p => (p.toList, true)) ++ if last = "" then [] else [(last.toList, false)]

def faultPlace (place : Nat) : Nat → List String → Nat × Nat
  | i, [] => (i, place)
  | i, [_] => (i, place)
  | i, script :: rest =>
    if place ≤ script.length then (i, place) else faultPlace (place - script.length - 1) (i + 1) rest

def sedUsage : Action Nat := do
  emit 2 ("Usage: " ++ (← get).name ++ " [OPTION]... \x7bscript-only-if-no-other-script\x7d [input-file]...\n\n")
  return 1

/-- The pieces of a script: those of options, or the first word. -/
def sedScripts (o : Options) : Action (Option (List (Bool × String) × List String)) := do
  let given := o.options.filter fun (c, _) => c = 'e' || c = 'f'
  if given.isEmpty then
    match o.words with
    | script :: files => return some ([(false, script)], files)
    | [] => return none
  let mut pieces := []
  for (c, v) in given do
    if c = 'e' then pieces := pieces ++ [(false, v)]
    else
      match ← contents takeAll v with
      | .ok text => pieces := pieces ++ [(true, if text.endsWith "\n" then bare text else text)]
      | .error e =>
        warnAtOnce ("couldn't open file " ++ v ++ ": " ++ e.reason)
        throw (.exit 4)
  return some (pieces, o.words)

def sedTargets (program : Array Instruction) : Action (List (String × EditOutput)) := do
  let names := program.toList.filterMap fun i => match i.deed with
    | .writeFile name => some name
    | .writeLine name => some name
    | .substitute s => s.target
    | _ => none
  let mut targets := []
  for name in names.eraseDups do
    if name ≠ "/dev/stdout" ∧ name ≠ "/dev/stderr" then
      match ← openFile .write name with
      | .ok i => targets := (name, { channel := some i : EditOutput }) :: targets
      | .error e =>
        warnAtOnce ("couldn't open file " ++ name ++ ": " ++ e.reason)
        throw (.exit 4)
  return targets

def editEach (program : Array Instruction) (start : Editing) (o : Options) (files : List String) : Action Nat := do
  let mut e := start
  let mut status := 0
  for file in files do
    let isDirectory := (← get).tree.isDirectory (toText file)
    if o.has 'i' ∧ isDirectory then
      warnAtOnce ("couldn't edit " ++ file ++ ": not a regular file")
      status := 4
    else
      match ← contents takeAll file with
      | .error err =>
        if err = .isADirectory then
          warnAtOnce ("read error on " ++ file ++ ": Is a directory")
          return 4
        warnAtOnce ("can't read " ++ file ++ ": " ++ err.reason)
        status := 2
      | .ok text =>
        let i ← if o.has 'i' then some <$> addChannel (.collector none []) else pure none
        let output : EditOutput := if o.has 'i' then { channel := i } else e.output
        let (ending, after) ← (Edits.all program 1000000 true).run { e with
          rest := linesToEdit e.lineEnd text, number := 0, file, output }
        e := { after with output := if o.has 'i' then e.output else after.output }
        if let some i := i then
          let written := match (← get).channels[i]? with
            | some (.collector _ texts) => String.join texts.reverse
            | _ => ""
          let suffix := (o.value? 'i').getD ""
          let place := ((← get).tree.resolve (toText file)).toOption
          let unread := String.join (after.rest.map fun (line, ended) =>
            String.ofList line ++ (if ended then String.singleton e.lineEnd else ""))
          if suffix ≠ "" then
            let backup := if suffix.toList.contains '*' then suffix.replace "*" file else file ++ suffix
            let _ ← change (fun _ => "cannot rename " ++ file) fun t => t.writeFile (toText backup) (toBytes text)
          if place.isSome then
            let _ ← change (fun _ => "couldn't edit " ++ file) fun t =>
              t.writeFile (toText file) (toBytes (written ++ (if ending.isSome then unread else "")))
        if let some s := ending then return s
  return status

def editAll (program : Array Instruction) (start : Editing) (files : List String) : Action Nat := do
  let mut all : List (List Char × Bool) := []
  let mut status := 0
  let mut unreadable := false
  let mut ofInput := 0
  for file in files do
    if unreadable then continue
    let result ← if file = "-" then (·.map String.ofList) <$> toRead 0 else contents takeAll file
    match result with
    | .error e =>
      if e = .isADirectory ∨ file = "-" then
        warnAtOnce ("read error on " ++ (if file = "-" then "stdin" else file) ++ ": " ++ e.reason)
        unreadable := true
        status := 4
      else
        warnAtOnce ("can't read " ++ file ++ ": " ++ e.reason)
        status := 2
    | .ok text =>
      let found := linesToEdit start.lineEnd text
      if file = "-" then ofInput := all.length
      all := all ++ found
  let (ending, after) ← (Edits.all program 1000000 true).run { start with
    rest := all, file := files.headD "-" }
  if "-" ∈ files then
    let read := after.read - ofInput
    let _ ← takeBlocks 4096 (lengthOfLines read)
  return ending.getD status

def sed : Utility := fun words =>
  withOptions sedOptions sedUsage words fun o => do
    match ← sedScripts o with
    | none => sedUsage
    | some (pieces, files) =>
      let texts := pieces.map (·.2)
      match Edit.ofText (o.has 'E' || o.has 'r') ("\n".intercalate texts).toList with
      | .error fault =>
        match fault.place with
        | none =>
          if fault.text.startsWith "can't" then
            warnAtOnce fault.text
            return 4
          warnAtOnce ("-e expression #1, " ++ fault.text)
        | some place =>
          let (i, char) := faultPlace place 0 texts
          match pieces[i]? with
          | some (true, script) =>
            let file := (((o.options.filter fun (c, _) => c = 'e' || c = 'f')[i]?).map (·.2)).getD "-"
            let line := ((script.toList.take char).count '\n') + 1
            warnAtOnce ("file " ++ file ++ " line " ++ toString line ++ ": " ++ fault.text)
          | _ =>
            let number := ((pieces.take (i + 1)).filter (!·.1)).length
            if fault.text.startsWith "character class syntax" then warnAtOnce fault.text
            else warnAtOnce ("-e expression #" ++ toString number ++ ", char " ++ toString char ++ ": " ++ fault.text)
        return 1
      | .ok (program, isSilent) =>
        if o.has 'i' ∧ files.isEmpty then
          warnAtOnce "no input files"
          return 4
        let targets ← sedTargets program
        let ranges := program.toList.zipIdx.filterMap fun (i, n) => match i.first with
          | some (.line 0) => some (n, none)
          | _ => none
        let start : Editing := {
          rest := [], output := { channel := none }, targets, silent := o.has 'n' || isSilent, ranges
          lineEnd := if o.has 'z' then '\x00' else '\n', width := ((o.value? 'l').bind String.toNat?).getD 70 }
        let files := if files.isEmpty then ["-"] else files
        try
          if o.has 'i' ∨ o.has 's' then editEach program start o files else editAll program start files
        catch
        | .exit status => return status
        | stop => throw stop

end ProcessDiagram.Shell.Utility
