import ProcessDiagram.Proofs.Depiction

/-! Drawing an element is placing its nodes and then adding its edges, and drawing a flow is placing all
nodes, then adding the edges of each element and the joints between neighbours. -/
namespace ProcessDiagram.Drawing

private theorem chain_eq (cursor : String) (refs : List TaskRef) (d : Drawing) :
    chain cursor refs d = ((placeTasks refs d).1.getLastD cursor,
      (placeTasks refs d).2.links (trail cursor (placeTasks refs d).1)) := by
  induction refs generalizing cursor d with
  | nil => rfl
  | cons t rest ih =>
    have h := ih (d.task t.taskName t.label).1
      ((d.task t.taskName t.label).2.links [.flow cursor (d.task t.taskName t.label).1])
    rw [placeTasks_links, ← links_append] at h
    simp only [placeTasks, List.getLastD_cons]
    exact h

theorem event_eq (d : Drawing) (e : Event) : d.event e =
    ((d.place (.event e)).1.ends, (d.place (.event e)).2.links (d.place (.event e)).1.edges) := by
  cases hc : e.eventClass <;> cases hr : e.condition <;> simp only [event, place, noteText, hc, hr] <;> rfl

private theorem loop_eq (d : Drawing) (l : Loop) : d.loop l =
    ((d.place (.loop l)).1.ends, (d.place (.loop l)).2.links (d.place (.loop l)).1.edges) := by
  simp only [loop, chain_eq, condition, draw_links, place, Figure.edges, trail_append, links_append]
  rfl

private theorem branch_eq (d : Drawing) (g : Gateway) (decision merge : String) (i : Nat) (b : Branch) :
    d.branch g decision merge i b =
      ((d.placeBranch g i b).2.links (trail decision (d.placeBranch g i b).1.stops)).close
        ((d.placeBranch g i b).1.last decision) merge := by
  cases h : branchCondition g b with
  | none => simp only [branch, placeBranch, h, chain_eq]; rfl
  | some text =>
    have hp := fun e d => placeTasks_links d [e] b.tasks
    simp only [links, List.foldl_cons, List.foldl_nil] at hp
    simp only [branch, placeBranch, h, chain_eq, hp, Arm.stops_some, Arm.last_some]
    rfl

private theorem close_of_joined {d : Drawing} {cursor merge : String} (h : Joined d.canvas.edges cursor merge) :
    d.close cursor merge = d := by
  rw [close, if_pos]
  simpa [Joined] using h

private theorem close_of_not_joined {d : Drawing} {cursor merge : String} (h : ¬ Joined d.canvas.edges cursor merge) :
    d.close cursor merge = d.link (.flow cursor merge) := by
  rw [close, if_neg]
  simpa [Joined] using h

/-- An id in use for no task is not met again inside a branch. -/
private theorem notMem_placeBranch_stops {d : Drawing} {id : String} (hi : id ∈ d.registry.issued) (ht : id ∉ d.taskIds)
    (g : Gateway) (i : Nat) (b : Branch) : id ∉ (d.placeBranch g i b).1.stops := by
  have hg := d.placeBranch_grows g i b
  have hn := (hg.notMem_taskIds hi ht).2
  rw [placeBranch] at hn ⊢
  cases hc : branchCondition g b with
  | none =>
    simp only [hc] at hn ⊢
    exact fun hm => hn (mem_taskIds_of_forall₂ (placeTasks_get? _ _) _ hm)
  | some text =>
    simp only [hc] at hn ⊢
    intro hm
    rcases List.mem_cons.mp hm with rfl | hm
    · exact Registry.allocate_notMem _ _ hi
    · exact hn (mem_taskIds_of_forall₂ (placeTasks_get? _ _) _ hm)

/-- The branches of a gateway whose merge is reached from the nodes `joined` so far. -/
private theorem branches_eq (g : Gateway) (decision merge : String) (bs : List Branch) (i : Nat) (d : Drawing)
    (joined : List String) (hi : merge ∈ d.registry.issued) (ht : merge ∉ d.taskIds)
    (hj : ∀ c, Joined d.canvas.edges c merge ↔ c ∈ joined) :
    branches g decision merge i bs d = (placeBranches g i bs d).2.links
      (Figure.armEdges decision merge joined (placeBranches g i bs d).1) := by
  induction bs generalizing i d joined with
  | nil => rfl
  | cons b rest ih =>
    have hg := d.placeBranch_grows g i b
    have hs := notMem_placeBranch_stops hi ht g i b
    have hb := d.branch_eq g decision merge i b
    rcases hp : d.placeBranch g i b with ⟨a, d₁⟩
    simp only [hp] at hg hs hb
    obtain ⟨hi₁, ht₁⟩ := hg.notMem_taskIds hi ht
    have hj₁ (c : String) : Joined (d₁.links (trail decision a.stops)).canvas.edges c merge ↔ c ∈ joined := by
      rw [edges_links, hg.edges, joined_append, hj c, or_iff_left]
      rintro ⟨e, he, _, htgt⟩
      exact hs (htgt ▸ (mem_of_mem_trail he).2)
    have hrest (es : List Edge) (js : List String) (h : ∀ c, Joined (d₁.links es).canvas.edges c merge ↔ c ∈ js) :
        branches g decision merge (i + 1) rest (d₁.links es) = (placeBranches g (i + 1) rest d₁).2.links
          (es ++ Figure.armEdges decision merge js (placeBranches g (i + 1) rest d₁).1) := by
      rw [ih (i + 1) _ js (by simpa using hi₁) (by simpa [taskIds] using ht₁) h, placeBranches_links, links_append]
    rw [branches, hb]
    by_cases hl : a.last decision ∈ joined
    · rw [close_of_joined ((hj₁ _).mpr hl), hrest _ _ hj₁]
      simp only [placeBranches, hp, Figure.armEdges, if_pos hl]
    · have hj₂ (c : String) :
          Joined (d₁.links (trail decision a.stops ++ [.flow (a.last decision) merge])).canvas.edges c merge ↔
            c ∈ a.last decision :: joined := by
        have hc := hj₁ c
        rw [edges_links] at hc ⊢
        rw [← List.append_assoc, joined_append, hc, List.mem_cons, or_comm, eq_comm]
        simp [Joined, Edge.flow]
      rw [close_of_not_joined fun h => hl ((hj₁ _).mp h)]
      have h := hrest _ _ hj₂
      rw [links_append, List.append_assoc] at h
      simp only [placeBranches, hp, Figure.armEdges, if_neg hl]
      exact h

def Closed (d : Drawing) : Prop := ∀ e ∈ d.canvas.edges, e.source ∈ d.nodeIds ∧ e.target ∈ d.nodeIds

theorem gateway_eq {d : Drawing} (hd : d.Coherent) (hc : d.Closed) (g : Gateway) : d.gateway g =
    ((d.place (.gateway g)).1.ends, (d.place (.gateway g)).2.links (d.place (.gateway g)).1.edges) := by
  let kind := gatewayNode g.kind
  let first := d.draw ("gateway_" ++ g.name) kind.glyph kind
  let final := first.2.draw ("merge_" ++ g.name) kind.glyph kind
  have hk : kind ≠ .task := gatewayNode_ne_task g.kind
  have hfirst : first.2.Coherent := hd.draw _ _ _ hk
  have hnew : final.1 ∉ first.2.registry.issued := Registry.allocate_notMem _ _
  have hold : ∀ id ∈ d.nodeIds, id ≠ final.1 := by
    rintro id hid rfl
    exact hnew (by simp [first, hd.issued, hid])
  have hi : final.1 ∈ final.2.registry.issued := by simp [final]
  have ht : final.1 ∉ final.2.taskIds := by
    intro hm
    refine hnew ?_
    rw [hfirst.issued]
    exact List.mem_cons_of_mem _ (hfirst.taskIds_subset hm)
  have hj (c : String) : Joined final.2.canvas.edges c final.1 ↔ c ∈ [] := by
    refine ⟨?_, fun h => by cases h⟩
    rintro ⟨e, he, _, htgt⟩
    exact absurd htgt (hold _ (hc e (by simpa [final, first] using he)).2)
  exact Prod.ext rfl (branches_eq g first.1 final.1 g.branches 0 final.2 [] hi ht hj)

/-- Drawing an element: its nodes first, and then the edges between them. -/
theorem element_eq {d : Drawing} (hd : d.Coherent) (hc : d.Closed) (e : FlowElement) :
    d.element e = ((d.place e).1.ends, (d.place e).2.links (d.place e).1.edges) := by
  cases e with
  | event e => exact d.event_eq e
  | task t => rfl
  | gateway g => exact gateway_eq hd hc g
  | loop l => exact d.loop_eq l

theorem Coherent.links {d : Drawing} (hd : d.Coherent) (es : List Edge) : (d.links es).Coherent where
  issued := by simpa [nodeIds] using hd.issued
  nodup := by simpa using hd.nodup
  identifiers := by simpa [nodeIds] using hd.identifiers
  tasks := by simpa [taskIds] using hd.tasks
  names := by simpa using hd.names

theorem Closed.grows {d d' : Drawing} (hc : d.Closed) (h : Grows d d') : d'.Closed := by
  have hsub : d.nodeIds ⊆ d'.nodeIds := List.map_subset _ h.nodes.subset
  intro e he
  rw [h.edges] at he
  exact ⟨hsub (hc e he).1, hsub (hc e he).2⟩

theorem Closed.links {d : Drawing} (hc : d.Closed) {es : List Edge}
    (h : ∀ e ∈ es, e.source ∈ d.nodeIds ∧ e.target ∈ d.nodeIds) : (d.links es).Closed := by
  intro e he
  simp only [edges_links, List.mem_append] at he
  simp only [nodeIds, nodes_links]
  exact he.elim (hc e) (h e)

/-- The nodes of an element that was just placed are all there. -/
private theorem place_nodes_subset {d : Drawing} (hd : d.Coherent) (e : FlowElement) :
    (d.place e).1.nodes ⊆ (d.place e).2.nodeIds := by
  intro id hid
  rcases List.mem_append.mp hid with hid | hid
  · exact ownIds_subset _ (by rw [ownIds_place]; exact List.mem_append_right _ hid)
  · exact (hd.grows (d.place_grows e)).taskIds_subset (mem_taskIds_of_forall₂ (d.place_depicts e).tasks id hid)

/-- An element keeps the registry, the ledger and the canvas in agreement, and its edges join nodes that are
there. -/
theorem place_links_sound {d : Drawing} (hd : d.Coherent) (hc : d.Closed) (e : FlowElement) :
    ((d.place e).2.links (d.place e).1.edges).Coherent ∧ ((d.place e).2.links (d.place e).1.edges).Closed := by
  have hsub := place_nodes_subset hd e
  refine ⟨(hd.grows (d.place_grows e)).links _, (hc.grows (d.place_grows e)).links fun edge he => ?_⟩
  have hm := Figure.mem_of_mem_edges he
  exact ⟨hsub hm.1, hsub hm.2⟩

theorem slots_eq {d : Drawing} (hd : d.Coherent) (hc : d.Closed) (entries : List Entry) :
    slots entries d = ((placeSlots entries d).1.map (Option.map Figure.ends),
      (placeSlots entries d).2.links ((figures entries d).flatMap Figure.edges)) := by
  induction entries generalizing d with
  | nil => rfl
  | cons entry rest ih =>
    cases entry with
    | ok e =>
      obtain ⟨hd₁, hc₁⟩ := place_links_sound hd hc e
      have h := ih hd₁ hc₁
      simp only [figures] at h ⊢
      rw [slots, element_eq hd hc e]
      simp only [h, placeSlots_links, ← links_append]
      simp [placeSlots, List.reduceOption_cons_of_some]
    | error e =>
      have h := ih hd hc
      simp only [figures] at h ⊢
      rw [slots, h]
      cases hu : e.isUntyped <;> simp [placeSlots, hu]

/-- A flow is its nodes, the edges of each element, and then the joints. -/
theorem flow_eq {d : Drawing} (hd : d.Coherent) (hc : d.Closed) (entries : List Entry) (report : Report) :
    (flow entries d report).2.1 = (placeSlots entries d).2.links ((figures entries d).flatMap Figure.edges ++
      joints ((placeSlots entries d).1.map (Option.map Figure.ends))) := by
  rw [flow, slots_eq hd hc, links_append]
  rfl

end ProcessDiagram.Drawing
