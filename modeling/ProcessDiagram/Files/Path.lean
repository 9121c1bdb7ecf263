import ProcessDiagram.Text.Blank

/-! File paths as text and as components. -/
namespace ProcessDiagram.Path

/-- A path starts at the root, or with an explicit dot, or with its first name. -/
inductive Component where
  | root
  | here
  | parent
  | name (text : String)
deriving DecidableEq, Repr

def isAbsolute (path : String) : Bool := path.toList.head? == some '/'

/-- Empty pieces are dropped, and so are dots after the start. -/
def componentsOf (pieces : List String) : List Component :=
  pieces.filterMap fun piece =>
    match piece with
    | "" => none
    | "." => none
    | ".." => some .parent
    | s => some (.name s)

def components (path : String) : List Component :=
  match Text.split '/' path with
  | "" :: rest => if isAbsolute path then .root :: componentsOf rest else []
  | "." :: rest => .here :: componentsOf rest
  | pieces => componentsOf pieces

def same (p q : String) : Bool := components p == components q

def isComponent (pieces : List String) (i : Nat) : Bool :=
  match pieces[i]? with
  | some "" => i = 0 && pieces.length > 1
  | some "." => i = 0
  | some _ => true
  | none => false

def upTo (pieces : List String) (i : Nat) : String :=
  match "/".intercalate (pieces.take (i + 1)) with
  | "" => "/"
  | text => text

/-- The texts of a path up to each of its components, the longest first. -/
def lineage (path : String) : List String :=
  let pieces := Text.split '/' path
  ((List.range pieces.length).reverse.filter (isComponent pieces)).map (upTo pieces)

/-- The directory that a path names before its last component, if it names one. -/
def parent? (path : String) : Option String := (lineage path).tail.head?

/-- A name under a directory; an absolute name stands for itself. -/
def join (dir name : String) : String :=
  if isAbsolute name then name
  else if dir = "" ∨ dir.toList.getLast? = some '/' then dir ++ name
  else dir ++ "/" ++ name

/-- An extension is added after whatever dots the stem has. -/
def withExtension (stem extension : String) : String := stem ++ "." ++ extension

end ProcessDiagram.Path
