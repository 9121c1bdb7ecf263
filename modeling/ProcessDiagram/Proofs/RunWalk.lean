import ProcessDiagram.Proofs.Run

/-! Every run of a process is drawn: the nodes that it visits form a walk through the main cluster. -/
namespace ProcessDiagram.Diagram

/-- A walk along the solid edges of the main cluster, from the entry of the first element that is drawn to the
exit of the last. -/
structure Walk (p : ProcessDescription) (main : Subgraph) (walk : List String) : Prop where
  chain : List.IsChain (Joined (solid main.edges)) walk
  first : ∃ ends, (Drawing.slots p.entries start).1.head? = some (some ends) ∧ walk.head? = some ends.entry
  final : ∃ ends, (Drawing.slots p.entries start).1.getLast? = some (some ends) ∧ walk.getLast? = some ends.exit

private theorem joints_eq_links (xs : List Figure) :
    Drawing.joints (xs.map fun x => some x.ends) = Figure.links xs := by
  induction xs with
  | nil => rfl
  | cons x rest ih =>
    cases rest with
    | nil => rfl
    | cons y rest => exact congrArg _ ih

section
variable {p : ProcessDescription} (herr : ∀ e, Except.error e ∈ p.entries → e = .missingType)
include herr

theorem edges_filled : (drawing p).canvas.edges =
    (figures p).flatMap Figure.edges ++ Figure.links (figures p) := by
  rw [drawing_edges, ends_filled herr, joints_eq_links]

theorem solid_drawing : solid (drawing p).canvas.edges = Figure.flows (figures p) := by
  have hl : solid (Figure.links (figures p)) = Figure.links (figures p) := by
    refine List.filter_eq_self.mpr fun e he => ?_
    obtain ⟨_, _, _, _, rfl⟩ := Figure.exists_of_mem_links he
    rfl
  rw [edges_filled herr, solid_append, hl, solid, List.filter_flatMap]
  rfl

theorem slots_filled : (Drawing.slots p.entries start).1 = (figures p).map fun x => some x.ends := by
  rw [slots_start, ends_filled herr]

end

private theorem figures_ne_nil {p : ProcessDescription} (hok : ∃ e, Except.ok e ∈ p.entries) : figures p ≠ [] := by
  obtain ⟨e, he⟩ := hok
  obtain ⟨x, hx, _⟩ := figure_of_mem he
  exact List.ne_nil_of_mem hx

theorem exists_ends {p : ProcessDescription} (hok : ∃ e, Except.ok e ∈ p.entries) :
    ∃ x z, (figures p).head? = some x ∧ (figures p).getLast? = some z := by
  obtain ⟨x, rest, hx⟩ := List.exists_cons_of_ne_nil (figures_ne_nil hok)
  obtain ⟨z, hz⟩ := Option.ne_none_iff_exists'.mp (mt List.getLast?_eq_none_iff.mp (figures_ne_nil hok))
  exact ⟨x, z, by rw [hx]; rfl, hz⟩

private theorem walk_of_run {p : ProcessDescription} (hok : ∃ e, Except.ok e ∈ p.entries)
    (herr : ∀ e, Except.error e ∈ p.entries → e = .missingType) {visits : List Place}
    (h : ProcessRun 0 (validElements p.entries) visits) :
    ∃ walk, Shown p visits walk ∧ Walk p (drawing p).canvas walk := by
  obtain ⟨walk, hw, hs⟩ := routes_of_run h (Drawing.figures_depict p.entries start) rfl
  obtain ⟨x, z, hx, hz⟩ := exists_ends hok
  refine ⟨walk, hs, ?_, ⟨x.ends, ?_, hw.head? hx⟩, ⟨z.ends, ?_, hw.getLast? hz⟩⟩
  · rw [solid_drawing herr]
    exact hw.isChain (List.subset_append_left _ _) (List.subset_append_right _ _)
  · rw [slots_filled herr, List.head?_map, hx]
    rfl
  · rw [slots_filled herr, List.getLast?_map, hz]
    rfl

/-- Whatever branches a run takes and however often it repeats its loops, the nodes that it visits are those of
a walk from the entry of the first element to the exit of the last. -/
theorem run_is_walk (p : ProcessDescription) (hok : ∃ e, Except.ok e ∈ p.entries)
    (herr : ∀ e, Except.error e ∈ p.entries → e = .missingType) {visits : List Place}
    (h : ProcessRun 0 (validElements p.entries) visits) :
    ∃ main walk, (ofProcess p).graph.subgraph? mainCluster = some main ∧ Charted p main ∧
      Shown p visits walk ∧ Walk p main walk := by
  obtain ⟨walk, hs, hw⟩ := walk_of_run hok herr h
  exact ⟨_, walk, main_of_ofProcess p, charted p, hs, hw⟩

def stock : Gateway where
  name := "stock"
  branches := [{ condition := some "yes", tasks := [.name "Ship"] }, {}]

def checkout : ProcessDescription := ⟨some [
  .ok (.event { name := "Inicio" }),
  .ok (.loop { name := "retry", condition := some "paid?", tasks := [.name "Pay"] }),
  .error .missingType,
  .ok (.gateway stock)]⟩

def checkoutVisits : List Place :=
  [.spot 0 .event,
    .spot 1 .start, .task "Pay", .spot 1 .test, .spot 1 .start, .task "Pay", .spot 1 .test, .spot 1 .stop,
    .spot 2 .decision, .spot 2 (.condition 0), .task "Ship", .spot 2 .merge]

theorem checkout_ok : ∃ e, Except.ok e ∈ checkout.entries := ⟨_, List.mem_cons_self⟩

theorem checkout_error : ∀ e, Except.error e ∈ checkout.entries → e = .missingType := by
  intro e he
  simpa [checkout, ProcessDescription.entries] using he

private theorem checkout_run : ProcessRun 0 (validElements checkout.entries) checkoutVisits := by
  have hv : stock.branchVisits 2 0 { condition := some "yes", tasks := [.name "Ship"] } =
      [.spot 2 (.condition 0), .task "Ship"] := by decide
  have hg : FlowElement.Run 2 (.gateway stock)
      [.spot 2 .decision, .spot 2 (.condition 0), .task "Ship", .spot 2 .merge] := by
    have hr := @FlowElement.Run.gateway 2 stock 0 _ rfl
    rwa [hv] at hr
  refine @ProcessRun.cons 0 _ _ [_] _ (.event _) ?_
  refine @ProcessRun.cons 1 _ _ [_, _, _, _, _, _, _] _ (.loop _ 1) ?_
  exact @ProcessRun.cons 2 _ _ [_, _, _, _] _ hg (.nil 3)

theorem checkout_run_is_walk : (∃ e, Except.ok e ∈ checkout.entries) ∧
    (∀ e, Except.error e ∈ checkout.entries → e = .missingType) ∧
    ProcessRun 0 (validElements checkout.entries) checkoutVisits ∧
    ∃ main walk, (ofProcess checkout).graph.subgraph? mainCluster = some main ∧ Charted checkout main ∧
      Shown checkout checkoutVisits walk ∧ Walk checkout main walk :=
  ⟨checkout_ok, checkout_error, checkout_run, run_is_walk checkout checkout_ok checkout_error checkout_run⟩

end ProcessDiagram.Diagram
