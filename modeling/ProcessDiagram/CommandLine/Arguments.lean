/-! The words of a command line: one command, with options before it and after it. -/
namespace ProcessDiagram.CommandLine

inductive Command where
  | render
  | dot
  | json
  | check
deriving DecidableEq, Repr

namespace Command

def all : List Command := [.render, .dot, .json, .check]

def word : Command → String
  | .render => "render"
  | .dot => "dot"
  | .json => "json"
  | .check => "check"

def ofWord? (s : String) : Option Command := all.find? (·.word = s)

end Command

structure Options where
  input : Option String := none
  outputDir : Option String := none
  name : Option String := none
  formats : Option String := none
  verbose : Bool := false
deriving DecidableEq, Repr

inductive Setting where
  | input
  | outputDir
  | name
  | formats
deriving DecidableEq, Repr

namespace Setting

def all : List Setting := [.input, .outputDir, .name, .formats]

def word : Setting → String
  | .input => "input"
  | .outputDir => "output-dir"
  | .name => "name"
  | .formats => "formats"

def letter : Setting → Char
  | .input => 'i'
  | .outputDir => 'o'
  | .name => 'n'
  | .formats => 'f'

end Setting

namespace Options

/-- Takes in a value; an option is given once, and a path is not empty. -/
def give? (o : Options) (s : Setting) (value : String) : Option Options :=
  match s with
  | .input => if o.input.isSome ∨ value = "" then none else some { o with input := value }
  | .outputDir => if o.outputDir.isSome ∨ value = "" then none else some { o with outputDir := value }
  | .name => if o.name.isSome then none else some { o with name := value }
  | .formats => if o.formats.isSome then none else some { o with formats := value }

def orElse (o other : Options) : Options where
  input := o.input <|> other.input
  outputDir := o.outputDir <|> other.outputDir
  name := o.name <|> other.name
  formats := o.formats <|> other.formats
  verbose := o.verbose || other.verbose

end Options

inductive Topic where
  | program
  | command (command : Command)
  | help
deriving DecidableEq, Repr

inductive Request where
  | version
  | help (topic : Topic)
  | run (command : Command) (options : Options)
  /-- The words do not fit. -/
  | misuse
deriving DecidableEq, Repr

namespace Request

/-- What one word leads to. -/
inductive Step where
  | taken (options : Options)
  /-- The next word is the value. -/
  | awaits (setting : Setting) (options : Options)
  | settled (request : Request)

private def ofOption : Option Options → Step
  | some o => .taken o
  | none => .settled .misuse

def verbose (o : Options) : Step :=
  if o.verbose then .settled .misuse else .taken { o with verbose := true }

/-- Help inside a command is about that command. -/
def helpAt : Option Command → Request
  | none => .help .program
  | some c => .help (.command c)

/-- The version can be asked for only before the command. -/
def versionAt : Option Command → Request
  | none => .version
  | some _ => .misuse

def long (level : Option Command) (o : Options) (word : String) (value : Option String) : Step :=
  match Setting.all.find? (·.word = word), word, value with
  | some s, _, some v => ofOption (o.give? s v)
  | some s, _, none => .awaits s o
  | none, "verbose", none => verbose o
  | none, "help", none => .settled (helpAt level)
  | none, "version", none => .settled (versionAt level)
  | _, _, _ => .settled .misuse

/-- Options by their letters. What follows the letter of a setting is its value, after an equals sign or at
once. -/
def letters (level : Option Command) (o : Options) : List Char → Step
  | [] => .taken o
  | c :: rest =>
    match Setting.all.find? (·.letter = c), rest with
    | some s, [] => .awaits s o
    | some s, '=' :: value => ofOption (o.give? s (String.ofList value))
    | some s, value => ofOption (o.give? s (String.ofList value))
    | none, _ =>
      if c = 'v' then
        match verbose o with
        | .taken o => letters level o rest
        | step => step
      else if c = 'h' then .settled (helpAt level)
      else if c = 'V' then .settled (versionAt level)
      else .settled .misuse

/-- A word that starts with a dash; a lone dash is a word like others. -/
def isOption (word : String) : Bool :=
  match word.toList with
  | '-' :: _ :: _ => true
  | _ => false

def option (level : Option Command) (o : Options) (word : String) : Step :=
  match word.toList with
  | '-' :: '-' :: rest =>
    let value := match rest.dropWhile (· ≠ '=') with
      | _ :: value => some (String.ofList value)
      | [] => none
    long level o (String.ofList (rest.takeWhile (· ≠ '='))) value
  | _ => letters level o (word.toList.drop 1)

def helpOn : List String → Request
  | [] => .help .program
  | ["help"] => .help .help
  | [word] => (Command.ofWord? word).elim .misuse fun c => .help (.command c)
  | _ => .misuse

/-- Reads the words, those before the command first. An option may stand once before the command and once
after it. -/
def read (level : Option Command) (outer o : Options) : List String → Request
  | [] => level.elim .misuse fun c => .run c (o.orElse outer)
  | word :: rest =>
    if word = "--" then
      if rest = [] then level.elim .misuse fun c => .run c (o.orElse outer) else .misuse
    else if isOption word then
      match option level o word with
      | .settled request => request
      | .taken o => read level outer o rest
      | .awaits s o =>
        match rest with
        | [] => .misuse
        | value :: rest =>
          if isOption value then .misuse
          else (o.give? s value).elim .misuse fun o => read level outer o rest
    else
      match level, Command.ofWord? word with
      | none, some c => read (some c) o {} rest
      | none, none => if word = "help" then helpOn rest else .misuse
      | some _, _ => .misuse

def ofWords (words : List String) : Request := read none {} {} words

end Request

end ProcessDiagram.CommandLine
