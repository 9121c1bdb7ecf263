import ProcessDiagram.Proofs.Place
import ProcessDiagram.Proofs.TwoPasses

/-! The conditions of an element, and the edges that it draws at their nodes. -/
namespace ProcessDiagram

namespace Figure

def closing (decision merge : String) (joined : List String) (a : Arm) : List Edge :=
  if a.last decision ∈ joined then [] else [.flow (a.last decision) merge]

section arm
variable {decision merge c : String} (hd : decision ≠ c) (hm : merge ≠ c)

include hd

include hm

end arm

end Figure

end ProcessDiagram
