import ProcessDiagram.Proofs.Containment
import ProcessDiagram.Proofs.References
import ProcessDiagram.Proofs.TaskNodes

/-! A flow drawn in two parts, one after the other. The second part cannot tell which edges the first one left behind,
so it is drawn as if the flow had been drawn at once; only the edge between the parts is missing. -/
namespace ProcessDiagram.Drawing

/-- What any number of flows leave behind that are drawn one after another, first on an empty canvas. -/
inductive Reached : Drawing → Prop where
  | empty {canvas : Subgraph} (nodes : canvas.nodes = []) (edges : canvas.edges = []) :
    Reached { blank with canvas }
  | flow {d : Drawing} (h : Reached d) (entries : List Entry) (report : Report) :
    Reached (flow entries d report).2.1

private theorem flow_coherent {d : Drawing} (hd : d.Coherent) (hc : d.Closed) (entries : List Entry) (report : Report) :
    (flow entries d report).2.1.Coherent := by
  rw [flow_eq hd hc]
  exact (hd.grows (placeSlots_grows entries d)).links _

private theorem Reached.sound {d : Drawing} (h : d.Reached) : d.Coherent ∧ d.Closed := by
  induction h with
  | empty nodes edges => exact empty_sound nodes edges
  | flow h entries report ih => exact ⟨flow_coherent ih.1 ih.2 entries report, flow_closed ih.1 ih.2 entries report⟩

private theorem slots_sound {d : Drawing} (hd : d.Coherent) (hc : d.Closed) (entries : List Entry) :
    (slots entries d).2.Coherent ∧ (slots entries d).2.Closed := by
  have h := upTo_sound hd hc entries entries.length
  rwa [upTo, List.take_length, ← slots_snd] at h

private theorem joints_append (slots later : List (Option Endpoints)) : joints (slots ++ later) =
    joints slots ++ (joint slots.getLast?.join later.head?.join ++ joints later) := by
  induction slots with
  | nil => rfl
  | cons a rest ih =>
    cases rest with
    | nil =>
      cases later with
      | nil => cases a <;> rfl
      | cons b later =>
        rw [List.singleton_append, joints_cons_cons]
        cases a <;> rfl
    | cons b rest =>
      rw [List.cons_append, List.cons_append, joints_cons_cons, joints_cons_cons, ← List.cons_append, ih,
        List.append_assoc]
      rfl

/-- Edges that join nodes already there make no difference to the slots of a flow nor to what it adds. -/
private theorem slots_links {d : Drawing} {es : List Edge} (hd : d.Coherent) (hc : d.Closed) (he : (d.links es).Closed)
    (entries : List Entry) : ∃ edges, (slots entries (d.links es)).1 = (slots entries d).1 ∧
      (slots entries d).2 = (placeSlots entries d).2.links edges ∧
      (slots entries (d.links es)).2 = (placeSlots entries d).2.links (es ++ edges) := by
  refine ⟨(figures entries d).flatMap Figure.edges, ?_⟩
  rw [slots_eq hd hc, slots_eq (hd.links es) he, figures, figures, placeSlots_links, links_append]
  exact ⟨rfl, rfl, rfl⟩

/-- Two flows drawn one after the other, in any state that flows can lead to, against the same entries drawn as one
flow. The slots are those of the one flow, and so are nodes, ids, tasks and counts; the edge from the last slot of the
first part to the first slot of the second is there, and counted, in the one flow only, provided that both slots are
filled. What was drawn for the first part stays where it is. -/
theorem flow_append {d : Drawing} (h : d.Reached) (report : Report) (entries later : List Entry) :
    let first := flow entries d report
    let second := flow later first.2.1 first.2.2
    let whole := flow (entries ++ later) d report
    let seam := joint first.1.getLast?.join second.1.head?.join
    whole.1 = first.1 ++ second.1 ∧ Alike whole.2.1 second.2.1 ∧
    whole.2.1.canvas.edges.Perm (seam ++ second.2.1.canvas.edges) ∧
    whole.2.2.links = second.2.2.links + seam.length ∧
    whole.2.2.total = second.2.2.total ∧ whole.2.2.compiled = second.2.2.compiled ∧
    first.2.1.canvas.nodes <+: whole.2.1.canvas.nodes := by
  intro first second whole seam
  obtain ⟨hd, hc⟩ := h.sound
  obtain ⟨hd₁, hc₁⟩ := slots_sound hd hc entries
  have hclosed : ((slots entries d).2.links (joints (slots entries d).1)).Closed := flow_closed hd hc entries report
  obtain ⟨edges, hslots, hone, htwo⟩ := slots_links hd₁ hc₁ hclosed later
  have hfilled : whole.1 = first.1 ++ second.1 :=
    (congrArg Prod.fst (slots_fills.append entries later d)).trans (congrArg (first.1 ++ ·) hslots.symm)
  have hjoints : joints whole.1 = joints first.1 ++ (seam ++ joints second.1) := by rw [hfilled, joints_append]
  have hfirst : first.2.1 = (slots entries d).2.links (joints first.1) := rfl
  have hsecond : second.2.1 =
      (placeSlots later (slots entries d).2).2.links (joints first.1 ++ edges ++ joints second.1) := by
    rw [links_append]
    exact congrArg (links · (joints second.1)) htwo
  have hwhole : whole.2.1 = (placeSlots later (slots entries d).2).2.links (edges ++ joints whole.1) := by
    rw [links_append]
    have hs : (slots (entries ++ later) d).2 = (slots later (slots entries d).2).2 := by rw [slots_fills.append]
    exact congrArg (links · (joints whole.1)) (hs.trans hone)
  refine ⟨hfilled, ?_, ?_, ?_, ?_, ?_, ?_⟩
  · rw [hwhole, hsecond]
    constructor <;> simp
  · rw [hwhole, hsecond, edges_links, edges_links, hjoints, List.perm_iff_count]
    intro e
    simp only [List.count_append]
    omega
  · have hl : whole.2.2.links = report.links + (joints whole.1).length := rfl
    have hs : second.2.2.links = report.links + (joints first.1).length + (joints second.1).length := rfl
    rw [hl, hs, hjoints, List.length_append, List.length_append]
    omega
  · have hl : whole.2.2.total = report.total + (entries ++ later).length := rfl
    have hs : second.2.2.total = report.total + entries.length + later.length := rfl
    rw [hl, hs, List.length_append, Nat.add_assoc]
  · have hl : whole.2.2.compiled = report.compiled + (whole.1.filter Option.isSome).length := rfl
    have hs : second.2.2.compiled = report.compiled + (first.1.filter Option.isSome).length +
        (second.1.filter Option.isSome).length := rfl
    rw [hl, hs, hfilled, List.filter_append, List.length_append, Nat.add_assoc]
  · rw [hwhole, hfirst, nodes_links, nodes_links]
    exact (placeSlots_grows later _).nodes

def choice : List Entry := [
  .ok (.gateway { name := "Choose", branches := [{ tasks := [.name "Pack"] }, { tasks := [.name "Pack"] }] }),
  .error .missingType]

theorem choice_flow_append :
    let d := (flow patchy blank {}).2.1
    let second := flow choice (flow (patchy.drop 4) d {}).2.1 (flow (patchy.drop 4) d {}).2.2
    let whole := flow (patchy.drop 4 ++ choice) d {}
    d.Reached ∧ whole.1.length = 2 ∧ Alike whole.2.1 second.2.1 ∧ whole.2.2.links = second.2.2.links + 1 ∧
    whole.2.1.canvas.edges.Perm (.flow "Ship" "gatewayChoose" :: second.2.1.canvas.edges) := by
  intro d second whole
  have hreached : d.Reached := .flow (@Reached.empty .empty rfl rfl) patchy {}
  obtain ⟨hslots, halike, hedges, hlinks, _⟩ := flow_append hreached {} (patchy.drop 4) choice
  have hseam : joint (flow (patchy.drop 4) d {}).1.getLast?.join second.1.head?.join =
      [.flow "Ship" "gatewayChoose"] := by decide +kernel
  rw [hseam] at hedges hlinks
  have hlength : whole.1.length = 2 := by
    rw [hslots]
    decide +kernel
  exact ⟨hreached, hlength, halike, hlinks, hedges⟩

end ProcessDiagram.Drawing
