import ProcessDiagram.Proofs.OnlyRoutes
import ProcessDiagram.Proofs.RunWalk

/-! Where no task is mentioned twice nothing but the runs of the process is drawn. -/
namespace ProcessDiagram.Diagram
open Drawing

/-- The ledger leads from each mention, in order, to the node that is reached there. -/
theorem mentions_tasks (p : ProcessDescription) :
    List.Forall₂ (fun m id => (placed p).2.ledger.get? m.1 = some id) (taskMentions p.entries)
      ((figures p).flatMap Figure.tasks) :=
  List.rel_flatMap (figures_depict p.entries start) fun _ _ hx => hx.tasks

/-- Tasks that are mentioned once have nodes that are met once. -/
private theorem nodes_nodup {p : ProcessDescription} (hun : ((taskMentions p.entries).map (·.1)).Nodup) :
    ((figures p).flatMap Figure.nodes).Nodup := by
  have hd := placed_coherent p
  have htasks : ((figures p).flatMap Figure.tasks).Nodup := by
    have hu : Relator.BiUnique fun (name id : String) => (placed p).2.ledger.get? name = some id :=
      ⟨fun _ _ _ h h' => hd.get?_injective h h', fun _ _ _ h h' => Option.some_inj.mp (h.symm.trans h')⟩
    exact (List.rel_nodup hu (List.forall₂_map_left_iff.mpr (mentions_tasks p))).mp hun
  refine (List.flatMap_append_perm _ _ _).nodup_iff.mp (List.Nodup.append (own_nodup p) htasks ?_)
  intro id ho ht
  rw [← ownIds_placed] at ho
  exact hd.disjoint ho (mem_taskIds_of_forall₂ (mentions_tasks p) id ht)

/-- If no task is mentioned twice, each walk along solid edges from the entry of the first element to the exit of
the last visits the nodes of a run. -/
theorem walk_is_run (p : ProcessDescription) (hok : ∃ e, Except.ok e ∈ p.entries)
    (herr : ∀ e, Except.error e ∈ p.entries → e = .missingType)
    (hun : ((taskMentions p.entries).map (·.1)).Nodup) {main : Subgraph}
    (hmain : (ofProcess p).graph.subgraph? mainCluster = some main) {walk : List String} (h : Walk p main walk) :
    Charted p main ∧ ∃ visits, ProcessRun 0 (validElements p.entries) visits ∧ Shown p visits walk := by
  rw [main_of_ofProcess] at hmain
  cases hmain
  refine ⟨charted p, ?_⟩
  obtain ⟨x, z, hx, hz⟩ := exists_ends hok
  obtain ⟨first, hfirst, hhead⟩ := h.first
  obtain ⟨final, hfinal, hlast⟩ := h.final
  rw [slots_filled herr, List.head?_map, hx] at hfirst
  rw [slots_filled herr, List.getLast?_map, hz] at hfinal
  cases hfirst
  cases hfinal
  have hchain := h.chain
  rw [solid_drawing herr] at hchain
  have hroutes := Figure.routes_of_walk (nodes_nodup hun) (fun _ _ _ hj => hj) hchain hx hz hhead hlast
  exact run_of_routes hroutes (figures_depict p.entries start) rfl

def checkoutWalk : List String :=
  ["eventoInicio", "loopstartretry", "Pay", "conditionloopcondretry", "loopstartretry", "Pay",
    "conditionloopcondretry", "loopendretry", "gatewaystock", "conditionbranchstock0", "Ship", "mergestock"]

private theorem checkout_walk : Walk checkout (drawing checkout).canvas checkoutWalk where
  chain := by decide +kernel
  first := ⟨.single "eventoInicio", by decide +kernel, rfl⟩
  final := ⟨⟨"gatewaystock", "mergestock"⟩, by decide +kernel, rfl⟩

theorem checkout_unshared : ((taskMentions checkout.entries).map (·.1)).Nodup := by decide

theorem checkout_walk_is_run : (∃ e, Except.ok e ∈ checkout.entries) ∧
    (∀ e, Except.error e ∈ checkout.entries → e = .missingType) ∧
    ((taskMentions checkout.entries).map (·.1)).Nodup ∧
    (ofProcess checkout).graph.subgraph? mainCluster = some (drawing checkout).canvas ∧
    Walk checkout (drawing checkout).canvas checkoutWalk ∧ Charted checkout (drawing checkout).canvas ∧
    ∃ visits, ProcessRun 0 (validElements checkout.entries) visits ∧ Shown checkout visits checkoutWalk :=
  ⟨checkout_ok, checkout_error, checkout_unshared, main_of_ofProcess checkout, checkout_walk,
    walk_is_run checkout checkout_ok checkout_error checkout_unshared (main_of_ofProcess checkout) checkout_walk⟩

end ProcessDiagram.Diagram
