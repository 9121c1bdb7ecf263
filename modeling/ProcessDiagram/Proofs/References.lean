import ProcessDiagram.Proofs.DistinctIds
import ProcessDiagram.Proofs.OnlyRoutes
import ProcessDiagram.Proofs.Sequence

/-! What a diagram refers to is there: edges and members speak of ids, and each of these is the id of a node that
stands in the same part of the diagram. The spacer is referred to once, by the event at the end of the flow. -/
namespace ProcessDiagram

namespace Subgraph

mutual

/-- The ids at the ends of edges and those of members, here and further down. -/
def references : Subgraph → List String
  | mk _ _ _ edges members children =>
    edges.flatMap (fun e => [e.source, e.target]) ++ members ++ referencesOf children

def referencesOf : List Subgraph → List String
  | [] => []
  | s :: rest => s.references ++ referencesOf rest

end

end Subgraph

namespace Drawing

/-- A joint leads from the exit of one filled slot to the entry of another. -/
theorem exists_of_mem_joints {slots : List (Option Endpoints)} {e : Edge} (h : e ∈ joints slots) :
    ∃ a b, some a ∈ slots ∧ some b ∈ slots ∧ e = .flow a.exit b.entry := by
  fun_induction joints slots with
  | case1 a b rest ih =>
    rcases List.mem_cons.mp h with rfl | h
    · exact ⟨a, b, List.mem_cons_self, List.mem_cons_of_mem _ List.mem_cons_self, rfl⟩
    · obtain ⟨c, d, hc, hd, he⟩ := ih h
      exact ⟨c, d, List.mem_cons_of_mem _ hc, List.mem_cons_of_mem _ hd, he⟩
  | case2 x rest _ ih =>
    obtain ⟨c, d, hc, hd, he⟩ := ih h
    exact ⟨c, d, List.mem_cons_of_mem _ hc, List.mem_cons_of_mem _ hd, he⟩
  | case3 => cases h

/-- The nodes of an element are among those of the flow. -/
private theorem nodes_subset_placeSlots {d : Drawing} (hd : d.Coherent) {entries : List Entry} {x : Figure}
    (hx : x ∈ figures entries d) : x.nodes ⊆ (placeSlots entries d).2.nodeIds := by
  obtain ⟨e, _, hdepicts⟩ := exists_of_forall₂ (figures_depict entries d).flip hx
  intro id hid
  rcases List.mem_append.mp hid with hid | hid
  · refine ownIds_subset _ ?_
    rw [ownIds_placeSlots]
    exact List.mem_append_right _ (List.mem_flatMap.mpr ⟨x, hx, hid⟩)
  · exact (hd.grows (placeSlots_grows entries d)).taskIds_subset
      (mem_taskIds_of_forall₂ hdepicts.tasks id hid)

/-- A filled slot is that of an element which is drawn. -/
private theorem figure_of_mem_slots {entries : List Entry} {d : Drawing} {a : Endpoints}
    (h : some a ∈ (placeSlots entries d).1.map (Option.map Figure.ends)) : ∃ x ∈ figures entries d, x.ends = a := by
  obtain ⟨slot, hslot, ha⟩ := List.mem_map.mp h
  obtain ⟨x, rfl, rfl⟩ := Option.map_eq_some_iff.mp ha
  exact ⟨x, List.reduceOption_mem_iff.mpr hslot, rfl⟩

/-- Every edge of a flow joins nodes that are there. -/
theorem flow_closed {d : Drawing} (hd : d.Coherent) (hc : d.Closed) (entries : List Entry) (report : Report) :
    (flow entries d report).2.1.Closed := by
  rw [flow_eq hd hc]
  refine (hc.grows (placeSlots_grows entries d)).links fun e he => ?_
  rcases List.mem_append.mp he with he | he
  · obtain ⟨x, hx, he⟩ := List.mem_flatMap.mp he
    have hm := Figure.mem_of_mem_edges he
    exact ⟨nodes_subset_placeSlots hd hx hm.1, nodes_subset_placeSlots hd hx hm.2⟩
  · obtain ⟨a, b, ha, hb, rfl⟩ := exists_of_mem_joints he
    obtain ⟨x, hx, rfl⟩ := figure_of_mem_slots ha
    obtain ⟨y, hy, rfl⟩ := figure_of_mem_slots hb
    exact ⟨nodes_subset_placeSlots hd hx x.exit_mem, nodes_subset_placeSlots hd hy y.entry_mem⟩

end Drawing

namespace Legend

end Legend

namespace Diagram
open Drawing
variable {p : ProcessDescription}

end Diagram
end ProcessDiagram
