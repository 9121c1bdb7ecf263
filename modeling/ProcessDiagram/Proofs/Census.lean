import Mathlib.Algebra.GroupWithZero.Nat
import Mathlib.Data.List.Dedup
import ProcessDiagram.Proofs.DotDiagram
import ProcessDiagram.Proofs.NodeIds
import ProcessDiagram.Proofs.TaskNodes

/-! How many nodes of each kind a flow is drawn with, and what they show. All but those of tasks belong to one element,
so that they can be counted element by element. -/
namespace ProcessDiagram
open Drawing

section kinds
variable (c d : EventClass) (k l : GatewayKind)

end kinds

def NodeKind.face (kind : NodeKind) (label : String) : String × NodeKind × NodeStyle := (label, kind, kind.style)

namespace FlowElement

/-- The nodes of an element in which its flow begins and ends. -/
def symbols : FlowElement → List (String × NodeKind × NodeStyle)
  | .event e => [(eventKind e.eventClass).face e.name]
  | .task _ => []
  | .gateway g => List.replicate 2 ((gatewayNode g.kind).face (gatewayNode g.kind).glyph)
  | .loop _ => List.replicate 2 (NodeKind.loopMarker.face "")

end FlowElement

/-! The drafts that are not of tasks. -/

namespace FlowElement
variable (e : FlowElement)

end FlowElement

namespace Diagram

end Diagram

end ProcessDiagram
