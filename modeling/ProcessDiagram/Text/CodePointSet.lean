/-! Sets of characters given by the code points at which membership changes. -/
namespace ProcessDiagram.Text

/-- A set of code points: increasing bounds, where the first enters the set, the second leaves it,
and so on. -/
structure CodePointSet where
  bounds : Array Nat

namespace CodePointSet

def countUpTo (bounds : Array Nat) (c lo hi : Nat) : Nat :=
  if lo < hi then
    let middle := (lo + hi) / 2
    if bounds[middle]?.any (· ≤ c) then countUpTo bounds c (middle + 1) hi
    else countUpTo bounds c lo middle
  else lo
termination_by hi - lo

/-- A code point belongs to the set when an odd number of bounds is at or below it. -/
def contains (s : CodePointSet) (c : Char) : Bool :=
  countUpTo s.bounds c.toNat 0 s.bounds.size % 2 == 1

end CodePointSet

end ProcessDiagram.Text
