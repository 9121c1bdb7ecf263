import ProcessDiagram.Shell.Program.Lines

/-! Programs for which a file is so many bytes. -/
namespace ProcessDiagram.Shell.Utility

open ProcessDiagram.Shell.Action

def dd : Utility := fun words => do
  let pairs := words.map fun w =>
    let name := w.toList.takeWhile (· ≠ '=')
    (String.ofList name, String.ofList (w.toList.drop (name.length + 1)))
  let known := ["if", "of", "bs", "ibs", "obs", "cbs", "count", "skip", "seek", "conv", "status", "iflag", "oflag"]
  match pairs.find? fun (name, _) => name ∉ known with
  | some (name, value) => misused ("unrecognized operand " ++ Quoting.word (if value = "" then name else name ++ "=" ++ value))
  | none =>
    let number (name : String) (default : Nat) : Nat := ((pairs.lookup name).bind count?).getD default
    let size := number "bs" (number "ibs" 512)
    let conversions := ((pairs.lookup "conv").getD "").splitOn ","
    let source := pairs.lookup "if"
    let limit := (pairs.lookup "count").bind count?
    let skipped := number "skip" 0 * size
    let take := takeBlocks 1 fun rest => match limit with
      | some n => skipped + n * size
      | none => rest.length
    match ← contents take (source.getD "-") with
    | .error e =>
      warn (if e = .isADirectory then "error reading " ++ Quoting.path (source.getD "standard input") ++ ": " ++ e.reason
        else "failed to open " ++ Quoting.path (source.getD "standard input") ++ ": " ++ e.reason)
      return 1
    | .ok text =>
      let text := String.ofList ((text.toList.drop skipped).take ((limit.map (· * size)).getD text.length))
      let converted := text.map fun c => if "ucase" ∈ conversions then c.toUpper
        else if "lcase" ∈ conversions then c.toLower else c
      let mut status := 0
      match pairs.lookup "of" with
      | none => emit 1 converted
      | some file =>
        let seek := number "seek" 0 * number "bs" (number "obs" 512)
        let old := ((← get).tree.readFile (toText file)).toOption.getD []
        let keeps := "notrunc" ∈ conversions
        let bytes := overwrite (if keeps then old else old.take seek) seek (toBytes converted)
        status ← change (fun e => "failed to open " ++ Quoting.path file ++ ": " ++ e.reason) fun t =>
          t.writeFile (toText file) bytes
      let records := toString (text.length / size) ++ "+" ++ (if text.length % size = 0 then "0" else "1")
      if pairs.lookup "status" ≠ some "none" ∧ status = 0 then
        emit 2 (records ++ " records in\n" ++ records ++ " records out\n")
        if pairs.lookup "status" ≠ some "noxfer" then
          emit 2 (toString text.length ++ (if text.length = 1 then " byte" else " bytes") ++ " copied, 0.0001 s, 1.0 MB/s\n")
      return status

/-- A size that is given: the sign before a number, which says what it has to do with the size so far, and the number. -/
def sizeChange? (text : String) : Option (Option Char × Nat) :=
  match text.toList.dropWhile isSpace with
  | c :: cs =>
    if c ∈ ['+', '-', '<', '>', '/', '%'] then (count? (String.ofList cs)).map (some c, ·) else (count? text).map (none, ·)
  | [] => none

def changedSize (old : Nat) (change : Option Char × Nat) : Nat :=
  let n := change.2
  match change.1 with
  | some '+' => old + n
  | some '-' => old - n
  | some '<' => min old n
  | some '>' => max old n
  | some '/' => old / n * n
  | some _ => (old + n - 1) / n * n
  | none => n

def truncateOptions : OptionTable where
  letters := "cor:s:"
  names := [("no-create", 'c'), ("size", 's'), ("reference", 'r')]

def truncate : Utility := fun words =>
  withOptions truncateOptions (hint 1) words fun o => do
    let given := (o.value? 's').map fun text => (text, sizeChange? text)
    match given, o.value? 'r' with
    | none, none => misused "you must specify either '--size' or '--reference'"
    | some (text, none), _ =>
      warn ("Invalid number: " ++ Quoting.word text)
      return 1
    | some (_, some (none, _)), some _ => misused "you must specify a relative '--size' with '--reference'"
    | some (_, some (some c, 0)), _ =>
      if c = '/' ∨ c = '%' then
        warn "division by zero"
        return 1
      resize o (some (some c, 0)) none
    | _, reference => resize o (given.bind (·.2)) reference
where
  resize (o : Options) (size : Option (Option Char × Nat)) (reference : Option String) : Action Nat := do
    if o.words.isEmpty then return (← misused "missing file operand")
    let start ← match reference with
      | none => pure none
      | some file => match (← get).tree.readFile (toText file) with
        | .ok bytes => pure (some bytes.length)
        | .error e =>
          warn ("cannot stat " ++ Quoting.path file ++ ": " ++ e.reason)
          return 1
    forEach o.words fun path => do
      let t := (← get).tree
      if o.has 'c' ∧ (t.resolve (toText path)).toOption.isNone then return 0
      let old := (t.readFile (toText path)).toOption.getD []
      let base := start.getD old.length
      let size := (size.map (changedSize base)).getD base
      let bytes := old.take size ++ List.replicate (size - old.length) 0
      change (fun e => "cannot open " ++ Quoting.path path ++ " for writing: " ++ e.reason) fun t =>
        t.writeFile (toText path) bytes

end ProcessDiagram.Shell.Utility
