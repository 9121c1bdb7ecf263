import ProcessDiagram.Proofs.Incidence

/-! The nodes of conditions in a whole diagram. Each belongs to one loop, to one branch of an exclusive gateway or to
one event at an end, and no other element, joint or edge touches it. -/
namespace ProcessDiagram

namespace Diagram
open Drawing
variable {p : ProcessDescription}

section wiring
variable {i : Nat} {x : Figure} {id : String}

end wiring

def again : ProcessDescription :=
  .ofElements [
    .loop { name := "again", condition := some "done?", tasks := [.name "Try"] },
    .loop { name := "again", condition := some "done?", tasks := [.name "Try"] },
    .gateway { name := "again", branches := [
      { condition := some "done?" }, { condition := some "done?", tasks := [.name "Try"] }] },
    .gateway { name := "again", typeText := "AND", branches := [{ condition := some "done?" }] },
    .event { name := "fin", condition := some "" }]

end Diagram
end ProcessDiagram
