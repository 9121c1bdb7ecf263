import ProcessDiagram.Diagram.Assembly
import ProcessDiagram.Proofs.FirstMention
import ProcessDiagram.Proofs.TwoPasses

/-! The main flow of a diagram: the drawing that ends up as its main cluster. -/
namespace ProcessDiagram.Diagram
open Drawing

def start : Drawing := { Drawing.blank with canvas }

/-- Slots and nodes of the main flow; the edges come later. -/
def placed (p : ProcessDescription) : List (Option Figure) × Drawing := placeSlots p.entries start

def figures (p : ProcessDescription) : List Figure := Drawing.figures p.entries start

def ends (p : ProcessDescription) : List (Option Endpoints) := (placed p).1.map (Option.map Figure.ends)

def drawing (p : ProcessDescription) : Drawing := (Drawing.flow p.entries start {}).2.1

theorem start_coherent : start.Coherent := Coherent.blank rfl

theorem start_closed : start.Closed := by
  intro e he
  cases he

theorem slots_start (p : ProcessDescription) : Drawing.slots p.entries start =
    (ends p, (placed p).2.links ((figures p).flatMap Figure.edges)) :=
  slots_eq start_coherent start_closed p.entries

theorem drawing_eq (p : ProcessDescription) :
    drawing p = (placed p).2.links ((figures p).flatMap Figure.edges ++ joints (ends p)) :=
  flow_eq start_coherent start_closed p.entries {}

@[simp] theorem ledger_drawing (p : ProcessDescription) : (drawing p).ledger = (placed p).2.ledger := by
  rw [drawing_eq, ledger_links]

@[simp] theorem nodes_drawing (p : ProcessDescription) : (drawing p).canvas.nodes = (placed p).2.canvas.nodes := by
  rw [drawing_eq, nodes_links]

theorem placed_coherent (p : ProcessDescription) : (placed p).2.Coherent :=
  start_coherent.grows (placeSlots_grows _ _)

theorem drawing_coherent (p : ProcessDescription) : (drawing p).Coherent := by
  rw [drawing_eq]
  exact (placed_coherent p).links _

theorem placed_records (p : ProcessDescription) : (placed p).2.Records (taskMentions p.entries) := by
  have hs : start.Records [] := fun _ => .none
  exact hs.placeSlots p.entries

theorem ownIds_placed (p : ProcessDescription) : (placed p).2.ownIds = (figures p).flatMap Figure.own :=
  ownIds_placeSlots p.entries start

theorem depicts_of_mem {p : ProcessDescription} {x : Figure} (hx : x ∈ figures p) :
    ∃ e, Except.ok e ∈ p.entries ∧ (placed p).2.Depicts e x := by
  obtain ⟨e, he, hd⟩ := exists_of_forall₂ (figures_depict p.entries start).flip hx
  obtain ⟨entry, hm, hok⟩ := List.mem_filterMap.mp he
  cases entry with
  | ok f =>
    cases hok
    exact ⟨e, hm, hd⟩
  | error f => cases hok

theorem figure_of_mem {p : ProcessDescription} {e : FlowElement} (he : Except.ok e ∈ p.entries) :
    ∃ x ∈ figures p, (placed p).2.Depicts e x :=
  exists_of_forall₂ (figures_depict p.entries start) (List.mem_filterMap.mpr ⟨.ok e, he, rfl⟩)

/-- No node belongs to two elements. -/
theorem own_nodup (p : ProcessDescription) : ((figures p).flatMap Figure.own).Nodup :=
  ownIds_placed p ▸ (placed_coherent p).ownIds_nodup

/-- The edges of the main cluster: those of each element, and then the joints. -/
theorem drawing_edges (p : ProcessDescription) :
    (drawing p).canvas.edges = (figures p).flatMap Figure.edges ++ joints (ends p) := by
  have he : (placed p).2.canvas.edges = [] := (placeSlots_grows p.entries start).edges
  rw [drawing_eq, edges_links, he, List.nil_append]

/-- Entries without type leave no gap between their neighbours. -/
theorem ends_filled {p : ProcessDescription} (h : ∀ e, Except.error e ∈ p.entries → e = .missingType) :
    ends p = (figures p).map fun x => some x.ends := by
  rw [ends, placed, placeSlots_filled h, List.map_map]
  rfl

/-- The canvas keeps its name and its attributes and never gains children. -/
theorem drawing_frame (p : ProcessDescription) : (drawing p).canvas =
    .mk (some mainCluster) [("style", "invis")] (drawing p).canvas.nodes (drawing p).canvas.edges [] [] := by
  have hf := (placeSlots_grows p.entries start).frame
  rw [drawing_eq, canvas_links, placed, hf]
  rfl

/-- A diagram is its main cluster, the spacer and the legend; an event at the end of the flow pulls the spacer. -/
theorem graph_ofProcess (p : ProcessDescription) : (ofProcess p).graph =
    frame (.mk none [] [.ofKind spacerId "" .spacer]
      ((trailingEvent p.entries (ends p)).toList.map (Edge.invisible · spacerId)) [] [(drawing p).canvas, legend]) := by
  have hg : (ofProcess p).graph = frame (.mk none [] [.ofKind spacerId "" .spacer]
      ((trailingEvent p.entries (Drawing.slots p.entries start).1).toList.map (Edge.invisible · spacerId)) []
      [(drawing p).canvas, legend]) := rfl
  rw [hg, slots_start]

theorem main_of_ofProcess (p : ProcessDescription) :
    (ofProcess p).graph.subgraph? mainCluster = some (drawing p).canvas := by
  rw [graph_ofProcess, drawing_frame]
  rfl

theorem nodes_ofProcess (p : ProcessDescription) : (ofProcess p).graph.nodes =
    .ofKind spacerId "" .spacer :: ((drawing p).canvas.nodes ++ legend.allNodes) := by
  have hm : (drawing p).canvas.allNodes = (drawing p).canvas.nodes := by
    rw [drawing_frame]
    simp [Subgraph.allNodes, Subgraph.nodesOf, Subgraph.nodes]
  rw [graph_ofProcess]
  simp [Graph.nodes, frame, Subgraph.allNodes, Subgraph.nodesOf, hm]

theorem edges_ofProcess (p : ProcessDescription) : (ofProcess p).graph.edges =
    (trailingEvent p.entries (ends p)).toList.map (Edge.invisible · spacerId) ++
      ((drawing p).canvas.edges ++ legend.allEdges) := by
  have hm : (drawing p).canvas.allEdges = (drawing p).canvas.edges := by
    rw [drawing_frame]
    simp [Subgraph.allEdges, Subgraph.edgesOf, Subgraph.edges]
  rw [graph_ofProcess]
  simp [Graph.edges, frame, Subgraph.allEdges, Subgraph.edgesOf, hm]

/-- The report counts what is in the slots, the ledger and the registry. -/
theorem report_ofProcess (p : ProcessDescription) : (ofProcess p).report =
    { flowMissing := !p.hasFlow
      total := p.entries.length
      compiled := ((ends p).filter Option.isSome).length
      links := (joints (ends p)).length
      tasks := (drawing p).ledger.count
      ids := (drawing p).registry.count
      collisions := (drawing p).registry.collisions
      issues := (failingEntries p.entries).map fun (i, e) => ⟨i, e⟩ } := by
  have hs : (Drawing.slots p.entries start).1 = ends p := by rw [slots_start]
  rw [← hs]
  simp [ofProcess, drawing, Drawing.flow, start]

end ProcessDiagram.Diagram
