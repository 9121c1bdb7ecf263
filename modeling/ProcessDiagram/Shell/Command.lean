import ProcessDiagram.Shell.Octets

/-! Commands of a shell, and the words that they are made of. -/
namespace ProcessDiagram.Shell

/-- What is done with the value of a parameter. -/
inductive Treatment where
  | plain
  | length
  | byDefault
  | assigned
  | required
  | alternative
  | withoutStart (longest : Bool)
  | withoutEnd (longest : Bool)
  /-- What stands in the braces means nothing. -/
  | senseless
deriving DecidableEq

inductive Opening where
  | read
  | write
  /-- Written to even if files are to be kept. -/
  | overwrite
  | append
  | readWrite
  /-- Another stream stands for this one. -/
  | duplicate
deriving DecidableEq

mutual

/-- A part of a word. -/
inductive Part where
  | char (c : Char)
  /-- A character that stands for itself. -/
  | escaped (c : Char)
  /-- Quotes begin or end. -/
  | mark
  | parameter (name : String) (t : Treatment) (emptyIsNone : Bool) (word : List Part)
  /-- The output of a command. -/
  | output (body : Command)
  /-- The value of an expression. -/
  | number (expression : List Part)

/-- Where a stream of a command leads. -/
inductive Redirection where
  | file (stream : Nat) (opening : Opening) (target : List Part)
  /-- The document of a number is read. -/
  | document (stream : Nat) (number : Nat)

/-- Lines are those on which a command starts. -/
inductive Command where
  | nothing
  | simple (line : Nat) (assignments words : List (List Part)) (redirections : List Redirection)
  | redirected (line : Nat) (body : Command) (redirections : List Redirection)
  | subshell (line : Nat) (body : Command) (redirections : List Redirection)
  | background (line : Nat) (body : Command) (redirections : List Redirection)
  /-- What one writes is what the next reads. -/
  | pipe (commands : List Command)
  | negated (body : Command)
  | both (first second : Command)
  | either (first second : Command)
  | sequence (first second : Command)
  | branch (test yes no : Command)
  /-- Repeated while its test succeeds, or while it fails. -/
  | loop (onSuccess : Bool) (test body : Command)
  /-- For each word; without words, for each argument. -/
  | each (line : Nat) (name : String) (words : Option (List (List Part))) (body : Command)
  /-- The first arm with a fitting pattern. -/
  | choose (line : Nat) (subject : List Part) (arms : List (List (List Part) × Command))
  | define (name : String) (body : Command)

end

abbrev Word := List Part

def Command.isNothing : Command → Bool
  | .nothing => true
  | _ => false

def isNameStart (c : Char) : Bool := c.isAlpha || c = '_'

def isNameChar (c : Char) : Bool := c.isAlphanum || c = '_'

/-- Letters, digits and underscores, and no digit first. -/
def isName (cs : List Char) : Bool :=
  match cs with
  | [] => false
  | c :: _ => isNameStart c && cs.all isNameChar

namespace Word

def plain? (word : Word) : Option String :=
  String.ofList <$> word.mapM fun
    | .char c => some c
    | _ => none

def characters (word : Word) : List Char :=
  word.filterMap fun
    | .char c => some c
    | .escaped c => some c
    | _ => none

def assignment? : Word → Option (String × Word) := go []
where
  go (name : List Char) : Word → Option (String × Word)
    | .char c :: rest =>
      if c = '=' then if isName name.reverse then some (String.ofList name.reverse, rest) else none
      else go (c :: name) rest
    | _ => none

end Word

end ProcessDiagram.Shell
