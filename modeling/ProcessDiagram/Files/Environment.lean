/-! The variables that a program is given. -/
namespace ProcessDiagram

/-- Variables with their values. The first of a name counts. -/
abbrev Environment := List (String × String)

namespace Environment

def value? (env : Environment) (name : String) : Option String := env.lookup name

def assign (env : Environment) (name value : String) : Environment :=
  if (env.value? name).isSome then env.map fun v => if v.1 = name then (name, value) else v
  else env ++ [(name, value)]

def texts (env : Environment) : List String := env.map fun (name, value) => name ++ "=" ++ value

end Environment

end ProcessDiagram
