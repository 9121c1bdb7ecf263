import ProcessDiagram.Proofs.TaskNodes
import ProcessDiagram.Proofs.WalkRun

/-! The main cluster is one connected flow as long as every gateway has a branch: each node then lies on a way from
the entry of the first element to the exit of the last. A gateway without branches has a merge that nothing enters. -/
namespace ProcessDiagram

abbrev Reaches (edges : List Edge) : String → String → Prop := Relation.ReflTransGen (Joined edges)

/-- A node on a way is reached from its beginning and reaches its end. -/
private theorem reaches_of_mem {edges : List Edge} {walk : List String} (h : List.IsChain (Joined edges) walk)
    {a z id : String} (ha : walk.head? = some a) (hz : walk.getLast? = some z) (hid : id ∈ walk) :
    Reaches edges a id ∧ Reaches edges id z := by
  constructor
  · refine h.induction (Reaches edges a) walk (fun _ _ hstep hx => hx.tail hstep) (fun hne => ?_) id hid
    rw [List.head?_eq_some_head hne] at ha
    cases ha
    exact .refl
  · refine h.backwards_induction (Reaches edges · z) walk (fun _ _ hstep hy => hy.head hstep) (fun hne => ?_) id hid
    rw [List.getLast?_eq_some_getLast hne] at hz
    cases hz
    exact .refl

/-- A node that no edge leads to is reached from nowhere else. -/
private theorem eq_of_reaches {edges : List Edge} {a b : String} (h : Reaches edges a b)
    (hb : ∀ e ∈ edges, e.target ≠ b) : b = a := by
  rcases h.cases_tail with he | ⟨c, _, e, he, _, ht⟩
  · exact he
  · exact absurd ht (hb e he)

namespace Figure

/-- What is written beside an event; no way leads on from there. -/
def note? : Figure → Option String
  | event _ note => note
  | _ => none

def Branched : Figure → Prop
  | gateway _ _ arms => arms ≠ []
  | _ => True

private theorem exists_route {x : Figure} (hb : x.Branched) : ∃ w, x.Route w := by
  cases x with
  | event id note => exact ⟨_, .event id note⟩
  | task id => exact ⟨_, .task id⟩
  | gateway decision merge arms =>
    obtain ⟨a, ha⟩ := List.exists_mem_of_ne_nil arms hb
    exact ⟨_, .gateway decision merge ha⟩
  | loop start stop tasks test => exact ⟨_, .loop start stop tasks test 0⟩

/-- Each node of an element lies on one of its routes, unless it is a note. -/
private theorem exists_route_through {x : Figure} (hb : x.Branched) {id : String} (hid : id ∈ x.nodes)
    (hn : id ∉ x.note?) : ∃ w, x.Route w ∧ id ∈ w := by
  cases x with
  | event node note =>
    have hid : id ∈ node :: note.toList := by simpa [nodes, own, tasks, inner] using hid
    rcases List.mem_cons.mp hid with rfl | hid
    · exact ⟨[id], .event id note, List.mem_cons_self⟩
    · exact absurd (Option.mem_toList.mp hid) hn
  | task node => exact ⟨[node], .task node, hid⟩
  | gateway decision merge arms =>
    have within : ∃ a ∈ arms, id ∈ decision :: (a.stops ++ [merge]) := by
      obtain ⟨b, hba⟩ := List.exists_mem_of_ne_nil arms hb
      rcases List.mem_cons.mp ((perm_gateway decision merge arms).mem_iff.mp hid) with rfl | hid
      · exact ⟨b, hba, List.mem_cons_of_mem _ (List.mem_append_right _ List.mem_cons_self)⟩
      · rcases List.mem_cons.mp hid with rfl | hid
        · exact ⟨b, hba, List.mem_cons_self⟩
        · obtain ⟨a, ha, hid⟩ := List.mem_flatMap.mp hid
          exact ⟨a, ha, List.mem_cons_of_mem _ (List.mem_append_left _ hid)⟩
    obtain ⟨a, ha, hid⟩ := within
    exact ⟨_, .gateway decision merge ha, hid⟩
  | loop start stop tasks test =>
    have hid := (perm_loop start stop tasks test).mem_iff.mp hid
    refine ⟨_, .loop start stop tasks test 0, ?_⟩
    rw [List.replicate_one, List.flatten_singleton, List.mem_append, List.mem_singleton]
    exact (List.mem_cons.mp hid).symm

private theorem exists_routes {xs : List Figure} (hb : ∀ x ∈ xs, x.Branched) : ∃ w, Routes xs w := by
  induction xs with
  | nil => exact ⟨[], .nil⟩
  | cons x rest ih =>
    obtain ⟨hx, hr⟩ := List.forall_mem_cons.mp hb
    obtain ⟨v, hv⟩ := exists_route hx
    obtain ⟨w, hw⟩ := ih hr
    exact ⟨v ++ w, .cons hv hw⟩

private theorem exists_routes_through {xs : List Figure} (hb : ∀ x ∈ xs, x.Branched) {x : Figure} (hx : x ∈ xs)
    {id : String} (hid : id ∈ x.nodes) (hn : id ∉ x.note?) : ∃ w, Routes xs w ∧ id ∈ w := by
  induction xs with
  | nil => cases hx
  | cons y rest ih =>
    obtain ⟨hy, hr⟩ := List.forall_mem_cons.mp hb
    rcases List.mem_cons.mp hx with rfl | hx
    · obtain ⟨v, hv, hid⟩ := exists_route_through hy hid hn
      obtain ⟨w, hw⟩ := exists_routes hr
      exact ⟨v ++ w, .cons hv hw, List.mem_append_left _ hid⟩
    · obtain ⟨v, hv⟩ := exists_route hy
      obtain ⟨w, hw, hid⟩ := ih hr hx
      exact ⟨v ++ w, .cons hv hw, List.mem_append_right _ hid⟩

end Figure

namespace Diagram
open Drawing
variable {p : ProcessDescription}

/-- Every node of the main cluster belongs to an element. -/
private theorem mem_nodes_of_mem_nodeIds {id : String} (h : id ∈ (placed p).2.nodeIds) :
    ∃ x ∈ figures p, id ∈ x.nodes := by
  have hd := placed_coherent p
  rcases hd.mem_nodeIds h with ho | ht
  · rw [ownIds_placed] at ho
    obtain ⟨x, hx, hi⟩ := List.mem_flatMap.mp ho
    exact ⟨x, hx, List.mem_append_left _ hi⟩
  · obtain ⟨⟨name, id⟩, hl, hid⟩ := List.mem_map.mp ht
    obtain ⟨m, hm, rfl⟩ := List.mem_map.mp ((mem_names p name).mp (List.mem_map_of_mem hl))
    obtain ⟨id', hi, hg⟩ := exists_of_forall₂ (mentions_tasks p) hm
    rw [hd.get?_of_mem hl] at hg
    cases hg
    obtain ⟨x, hx, hi⟩ := List.mem_flatMap.mp hi
    exact ⟨x, hx, hid ▸ List.mem_append_right _ hi⟩

/-- A node of its own tells an element from all others. -/
theorem figure_unique {x y : Figure} (hx : x ∈ figures p) (hy : y ∈ figures p) {id : String} (ho : id ∈ x.own)
    (hi : id ∈ y.nodes) : y = x := by
  rcases List.mem_append.mp hi with hi | hi
  · exact mem_unique (own_nodup p) hy hx hi ho
  · have hm : id ∈ (placed p).2.ownIds := by
      rw [ownIds_placed]
      exact List.mem_flatMap.mpr ⟨x, hx, ho⟩
    have ht : id ∈ (placed p).2.taskIds :=
      mem_taskIds_of_forall₂ (mentions_tasks p) id (List.mem_flatMap.mpr ⟨y, hy, hi⟩)
    exact absurd ht ((placed_coherent p).disjoint hm)

private theorem branched_iff {e : FlowElement} {x : Figure} (h : (placed p).2.Depicts e x) :
    x.Branched ↔ ∀ g, e = .gateway g → g.branches ≠ [] := by
  cases h with
  | @gateway g _ _ arms _ _ between =>
    have hl := between.length_eq
    have hn : arms = [] ↔ g.branches = [] := by rw [← List.length_eq_zero_iff, ← hl, List.length_eq_zero_iff]
    simp [Figure.Branched, hn]
  | _ => simp [Figure.Branched]

def Annotation (main : Subgraph) (id : String) : Prop :=
  ∃ n ∈ main.nodes, n.kind = .endEvent ∧ Edge.note n.id id ∈ main.edges

/-- Only end events have text beside them. -/
private theorem annotation_of_note {event note : String} (h : Figure.event event (some note) ∈ figures p) :
    Edge.note event note ∈ (drawing p).canvas.edges ∧ Annotation (drawing p).canvas note := by
  have hm : Edge.note event note ∈ (drawing p).canvas.edges := by
    rw [drawing_edges]
    exact List.mem_append_left _ (List.mem_flatMap.mpr ⟨_, h, List.mem_singleton_self _⟩)
  refine ⟨hm, ?_⟩
  obtain ⟨_, _, hd⟩ := depicts_of_mem h
  cases hd with
  | @event e _ _ node beside =>
    have hn : noteText e ≠ none := fun hn => nomatch (rel_eq_none beside).mp hn
    have hc : e.eventClass = .final := by
      by_contra hc
      exact hn (if_neg hc)
    rw [hc] at node
    exact ⟨_, (nodes_drawing p).symm ▸ node, rfl, hm⟩

section filled
variable (herr : ∀ e, Except.error e ∈ p.entries → e = .missingType)
include herr

/-- A way along the elements is a way through the main cluster. -/
private theorem isChain_of_routes {w : List String} (h : Figure.Routes (figures p) w) :
    List.IsChain (Joined (drawing p).canvas.edges) w := by
  rw [edges_filled herr]
  refine h.isChain (fun e he => ?_) (List.subset_append_right _ _)
  obtain ⟨x, hx, he⟩ := List.mem_flatMap.mp he
  exact List.mem_append_left _ (List.mem_flatMap.mpr ⟨x, hx, (mem_solid.mp he).1⟩)

/-- Nothing leads to the merge of a gateway without branches, and nothing begins there. -/
private theorem merge_unreached {decision merge : String} (h : Figure.gateway decision merge [] ∈ figures p) :
    (∀ e ∈ (drawing p).canvas.edges, e.target ≠ merge) ∧ ∀ x ∈ figures p, x.ends.entry ≠ merge := by
  have hown : merge ∈ (Figure.gateway decision merge []).own := List.mem_cons_of_mem _ List.mem_cons_self
  have hentry : ∀ x ∈ figures p, x.ends.entry ≠ merge := by
    rintro x hx rfl
    have hne := (List.nodup_flatMap.mp (own_nodup p)).1 _ h
    have he := congrArg (·.ends.entry) (figure_unique h hx hown x.entry_mem)
    exact (List.nodup_cons.mp hne).1 (List.mem_cons.mpr (Or.inl he.symm))
  refine ⟨fun e he ht => ?_, hentry⟩
  rw [edges_filled herr] at he
  rcases List.mem_append.mp he with he | he
  · obtain ⟨x, hx, he⟩ := List.mem_flatMap.mp he
    have hu := figure_unique h hx hown (ht ▸ (Figure.mem_of_mem_edges he).2)
    rw [hu] at he
    cases he
  · obtain ⟨_, _, y, hy, rfl⟩ := Figure.exists_of_mem_links he
    exact hentry y hy ht

/-- With a branch at every gateway each node that is no annotation lies on a way from the first entry to the last
exit, and each annotation stands beside such a node. -/
private theorem reaches_of_branched (hb : ∀ x ∈ figures p, x.Branched) {first final : Figure}
    (hfirst : (figures p).head? = some first) (hfinal : (figures p).getLast? = some final) {id : String}
    (hid : id ∈ (drawing p).nodeIds) : Reaches (drawing p).canvas.edges first.ends.entry id ∧
      (¬ Annotation (drawing p).canvas id → Reaches (drawing p).canvas.edges id final.ends.exit) := by
  have through {x : Figure} (hx : x ∈ figures p) {i : String} (hi : i ∈ x.nodes) (hn : i ∉ x.note?) :
      Reaches (drawing p).canvas.edges first.ends.entry i ∧ Reaches (drawing p).canvas.edges i final.ends.exit := by
    obtain ⟨w, hw, hi⟩ := Figure.exists_routes_through hb hx hi hn
    exact reaches_of_mem (isChain_of_routes herr hw) (hw.head? hfirst) (hw.getLast? hfinal) hi
  have hid : id ∈ (placed p).2.nodeIds := by rwa [Drawing.nodeIds, nodes_drawing] at hid
  obtain ⟨x, hx, hi⟩ := mem_nodes_of_mem_nodeIds hid
  by_cases hn : id ∈ x.note?
  · cases x with
    | event node note =>
      cases hn
      obtain ⟨he, ha⟩ := annotation_of_note hx
      have hne : node ∉ [id] := (List.nodup_cons.mp ((List.nodup_flatMap.mp (own_nodup p)).1 _ hx)).1
      have hnode : node ∉ (Figure.event node (some id)).note? := fun h =>
        hne (List.mem_singleton.mpr (Option.some_inj.mp h).symm)
      obtain ⟨hl, _⟩ := through hx List.mem_cons_self hnode
      exact ⟨hl.tail ⟨_, he, rfl, rfl⟩, fun h => absurd ha h⟩
    | _ => cases hn
  · obtain ⟨hl, hr⟩ := through hx hi hn
    exact ⟨hl, fun _ => hr⟩

end filled

/-- A flow that nothing breaks is connected exactly if each of its gateways has a branch: a way then leads from the
entry of the first element to every node of the main cluster, and on to the exit of the last element from every node
that is no annotation. -/
theorem connected_iff_branched (p : ProcessDescription) (hok : ∃ e, Except.ok e ∈ p.entries)
    (herr : ∀ e, Except.error e ∈ p.entries → e = .missingType) :
    ∃ main first final, (ofProcess p).graph.subgraph? mainCluster = some main ∧
      (Drawing.slots p.entries start).1.head? = some (some first) ∧
      (Drawing.slots p.entries start).1.getLast? = some (some final) ∧
      ((∀ g, Except.ok (.gateway g) ∈ p.entries → g.branches ≠ []) ↔
        (∀ n ∈ main.nodes, Reaches main.edges first.entry n.id) ∧
        ∀ n ∈ main.nodes, ¬ Annotation main n.id → Reaches main.edges n.id final.exit) := by
  obtain ⟨x, z, hx, hz⟩ := exists_ends hok
  refine ⟨_, x.ends, z.ends, main_of_ofProcess p, ?_, ?_, ?_, ?_⟩
  · rw [slots_filled herr, List.head?_map, hx]
    rfl
  · rw [slots_filled herr, List.getLast?_map, hz]
    rfl
  · intro hb
    have branched : ∀ x ∈ figures p, x.Branched := by
      intro y hy
      obtain ⟨e, he, hd⟩ := depicts_of_mem hy
      exact (branched_iff hd).mpr fun g hg => hb g (hg ▸ he)
    have reached {n : Node} (hn : n ∈ (drawing p).canvas.nodes) :=
      reaches_of_branched herr branched hx hz (List.mem_map_of_mem hn)
    exact ⟨fun n hn => (reached hn).1, fun n hn => (reached hn).2⟩
  · rintro ⟨hreach, _⟩ g hg hnone
    obtain ⟨y, hy, hd⟩ := figure_of_mem hg
    cases hd with
    | gateway first final between =>
      rw [hnone] at between
      cases between
      obtain ⟨hedges, hentry⟩ := merge_unreached herr hy
      have hm := hreach _ ((nodes_drawing p).symm ▸ final)
      exact hentry x (List.mem_of_mem_head? hx) (eq_of_reaches hm hedges).symm

private theorem checkout_branched : ∀ g, Except.ok (.gateway g) ∈ checkout.entries → g.branches ≠ [] := by
  intro g hg
  have hs : g = stock := by simpa [checkout, ProcessDescription.entries] using hg
  rw [hs]
  exact List.cons_ne_nil _ _

theorem checkout_connected : (∃ e, Except.ok e ∈ checkout.entries) ∧
    (∀ e, Except.error e ∈ checkout.entries → e = .missingType) ∧
    ∃ main first final, (ofProcess checkout).graph.subgraph? mainCluster = some main ∧
      (Drawing.slots checkout.entries start).1.head? = some (some first) ∧
      (Drawing.slots checkout.entries start).1.getLast? = some (some final) ∧
      (∀ n ∈ main.nodes, Reaches main.edges first.entry n.id) ∧
      ∀ n ∈ main.nodes, ¬ Annotation main n.id → Reaches main.edges n.id final.exit := by
  obtain ⟨main, first, final, hmain, hfirst, hfinal, hiff⟩ :=
    connected_iff_branched checkout checkout_ok checkout_error
  exact ⟨checkout_ok, checkout_error, main, first, final, hmain, hfirst, hfinal, hiff.mp checkout_branched⟩

end Diagram
end ProcessDiagram
