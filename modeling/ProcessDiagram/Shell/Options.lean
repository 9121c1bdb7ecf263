/-! Options among the words of a command. -/
namespace ProcessDiagram.Shell

inductive OptionKind where
  | flag
  | value
  /-- The value is part of the word, or there is none. -/
  | perhaps
deriving DecidableEq

/-- The options of a command: letters, of which those before a colon take a value and those before two may take
one, and long names for letters. -/
structure OptionTable where
  letters : String
  names : List (String × Char) := []
  /-- Options end at the first word that is none. -/
  inOrder : Bool := false

/-- What is wrong with an option. -/
inductive OptionError where
  | invalid (c : Char)
  | missing (c : Char)
  | unrecognized (word : String)
  | missingFor (name : String)
  | unwanted (name : String)
  | ambiguous (word : String) (names : List String)

def OptionError.message : OptionError → String
  | .invalid c => "invalid option -- '" ++ String.singleton c ++ "'"
  | .missing c => "option requires an argument -- '" ++ String.singleton c ++ "'"
  | .unrecognized word => "unrecognized option '" ++ word ++ "'"
  | .missingFor name => "option '--" ++ name ++ "' requires an argument"
  | .unwanted name => "option '--" ++ name ++ "' doesn't allow an argument"
  | .ambiguous word names =>
    "option '" ++ word ++ "' is ambiguous; possibilities:" ++ String.join (names.map fun n => " '--" ++ n ++ "'")

structure Options where
  options : List (Char × String) := []
  words : List String := []

namespace OptionTable

def kind? (t : OptionTable) (c : Char) : Option OptionKind :=
  if c = ':' then none
  else
    match t.letters.toList.dropWhile (· ≠ c) with
    | _ :: ':' :: ':' :: _ => some .perhaps
    | _ :: ':' :: _ => some .value
    | _ :: _ => some .flag
    | [] => none

end OptionTable

instance : Coe String OptionTable := ⟨fun letters => { letters }⟩

namespace Options

def has (o : Options) (c : Char) : Bool := o.options.any (·.1 = c)

def value? (o : Options) (c : Char) : Option String := o.options.reverse.lookup c

def values (o : Options) (c : Char) : List String := (o.options.filter (·.1 = c)).map (·.2)

def last? (o : Options) (cs : List Char) : Option Char := (o.options.reverse.find? fun (c, _) => c ∈ cs).map (·.1)

def ofLetters (t : OptionTable) :
    List Char → List String → Except OptionError (List (Char × String) × List String)
  | [], rest => .ok ([], rest)
  | c :: cs, rest =>
    match t.kind? c with
    | none => .error (.invalid c)
    | some .flag => (ofLetters t cs rest).map fun (found, rest) => ((c, "") :: found, rest)
    | some .perhaps => .ok ([(c, String.ofList cs)], rest)
    | some .value =>
      match cs, rest with
      | [], v :: rest => .ok ([(c, v)], rest)
      | [], [] => .error (.missing c)
      | _, _ => .ok ([(c, String.ofList cs)], rest)

def ofName (t : OptionTable) (text : List Char) (rest : List String) :
    Except OptionError ((Char × String) × List String) := do
  let name := String.ofList (text.takeWhile (· ≠ '='))
  let value? := match text.drop name.length with
    | _ :: value => some (String.ofList value)
    | [] => none
  let fitting := t.names.filter fun (n, _) => n.startsWith name
  let chosen := match fitting.filter fun (n, _) => n = name with
    | [] => fitting
    | exact => exact
  match chosen with
  | [] => .error (.unrecognized ("--" ++ String.ofList text))
  | (full, c) :: others =>
    if others.any fun (_, d) => d ≠ c then .error (.ambiguous ("--" ++ String.ofList text) (chosen.map (·.1)))
    else
      match t.kind? c, value?, rest with
      | some .value, some v, rest => return ((c, v), rest)
      | some .value, none, v :: rest => return ((c, v), rest)
      | some .value, none, [] => .error (.missingFor full)
      | some .perhaps, v, rest => return ((c, v.getD ""), rest)
      | _, some _, _ => .error (.unwanted full)
      | _, none, rest => return ((c, ""), rest)

def read (t : OptionTable) : Nat → List String → Except OptionError Options
  | 0, words => .ok { words }
  | _, [] => .ok {}
  | n + 1, word :: rest => do
    match word.toList with
    | ['-', '-'] => return { words := rest }
    | '-' :: '-' :: text =>
      let (found, rest) ← ofName t text rest
      let o ← read t n rest
      return { o with options := found :: o.options }
    | '-' :: c :: cs =>
      let (found, rest) ← ofLetters t (c :: cs) rest
      let o ← read t n rest
      return { o with options := found ++ o.options }
    | _ =>
      if t.inOrder then return { words := word :: rest }
      let o ← read t n rest
      return { o with words := word :: o.words }

def ofWords (t : OptionTable) (words : List String) : Except OptionError Options := read t words.length words

end Options

end ProcessDiagram.Shell
