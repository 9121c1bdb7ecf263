import ProcessDiagram.Text.Alphanumeric

/-! Identifiers made from names and issued once. -/
namespace ProcessDiagram

/-- The ids in use, in the order of issue, and the last suffix number. The number counts for the
whole registry and not for each name, so an id depends on all calls before it. -/
structure Registry where
  issued : List String
  collisions : Nat
deriving DecidableEq, Repr

namespace Registry

def empty : Registry := ⟨[], 0⟩

def baseId (name : String) : String := String.ofList (name.toList.filter Text.isAlphanumeric)

def suffixed (base : String) (n : Nat) : String := base ++ "_" ++ toString n

/-- The least number above `n` whose id is not taken. An id found taken is struck out: no larger number
gives it again. -/
def nextFree (base : String) (n : Nat) (taken : List String) : Nat :=
  if suffixed base (n + 1) ∈ taken then nextFree base (n + 1) (taken.erase (suffixed base (n + 1)))
  else n + 1
termination_by taken.length
decreasing_by
  rename_i h
  have := List.length_pos_of_mem h
  rw [List.length_erase_of_mem h]
  omega

/-- Issues the base id of a name while it is free, and otherwise the base with a fresh suffix. -/
def allocate (r : Registry) (name : String) : String × Registry :=
  let base := baseId name
  if base ∈ r.issued then
    let n := nextFree base r.collisions r.issued
    (suffixed base n, ⟨r.issued ++ [suffixed base n], n⟩)
  else (base, ⟨r.issued ++ [base], r.collisions⟩)

/-- Takes an id as it is; false if it is in use. -/
def reserve (r : Registry) (id : String) : Bool × Registry :=
  if id ∈ r.issued then (false, r) else (true, ⟨r.issued ++ [id], r.collisions⟩)

def count (r : Registry) : Nat := r.issued.length

end Registry

end ProcessDiagram
