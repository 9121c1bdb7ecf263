import ProcessDiagram.Proofs.Clause
import ProcessDiagram.Proofs.Connected
import ProcessDiagram.Proofs.RankOrder
import ProcessDiagram.Proofs.References

/-! The edges of a whole diagram at a node that belongs to one element. Other elements draw nothing there, and flow
from and to the neighbours touches it only where the element begins or ends. -/
namespace ProcessDiagram.Diagram
open Drawing
variable {p : ProcessDescription}

section own
variable {i : Nat} {x : Figure} {id : String} (hx : (figures p)[i]? = some x) (ho : id ∈ x.own)
include hx ho

end own

end ProcessDiagram.Diagram
