import ProcessDiagram.Proofs.MainFlow

/-! The nodes of tasks: one for each name, and an edge into it for each mention that is reached from
somewhere. -/
namespace ProcessDiagram

section ledger
variable {d : Drawing} (hd : d.Coherent) {name id : String} (hid : d.ledger.get? name = some id)
include hd hid

private theorem node_eq_iff {other i : String} (h : d.ledger.get? other = some i) : i = id ↔ other = name := by
  refine ⟨fun he => hd.get?_injective h (he ▸ hid), fun he => ?_⟩
  rw [he, hid] at h
  exact (Option.some_inj.mp h).symm

/-- A name is mentioned as often as its node is reached. -/
theorem count_mentions {ms : List (String × String)} {ids : List String}
    (h : List.Forall₂ (fun m id => d.ledger.get? m.1 = some id) ms ids) :
    ids.count id = (ms.map (·.1)).count name := by
  induction h with
  | nil => rfl
  | cons hm _ ih => simp only [List.map_cons, List.count_cons, ih, beq_iff_eq, node_eq_iff hd hid hm]

end ledger

def entering (id : String) (edges : List Edge) : Nat := edges.countP (·.target = id)

section entering
variable {id : String}

private theorem entering_append (edges later : List Edge) :
    entering id (edges ++ later) = entering id edges + entering id later := List.countP_append

private theorem entering_eq_count (edges : List Edge) : entering id edges = (edges.map (·.target)).count id := by
  rw [List.count, List.countP_map]
  rfl

private theorem entering_eq_zero {edges : List Edge} (h : ∀ e ∈ edges, e.target ≠ id) : entering id edges = 0 :=
  List.countP_eq_zero.mpr fun e he => by simpa using h e he

private theorem entering_trail (cursor : String) (ids : List String) :
    entering id (trail cursor ids) = ids.count id := by
  rw [entering_eq_count, targets_trail]

namespace Figure

/-- Whether an edge to the merge is drawn or there already makes no difference to the nodes of tasks. -/
private theorem entering_armEdges {decision merge : String} (hm : merge ≠ id) {arms : List Arm}
    (hc : id ∉ arms.flatMap (·.condition.toList)) (joined : List String) :
    entering id (armEdges decision merge joined arms) = (arms.flatMap (·.tasks)).count id := by
  induction arms generalizing joined with
  | nil => rfl
  | cons a rest ih =>
    rw [List.flatMap_cons, List.mem_append, not_or] at hc
    have hstops : a.stops.count id = a.tasks.count id := by
      rw [Arm.stops, List.count_append, List.count_eq_zero.mpr hc.1, Nat.zero_add]
    have hclose : entering id [Edge.flow (a.last decision) merge] = 0 :=
      entering_eq_zero (by simpa [Edge.flow] using hm)
    rw [armEdges, entering_append, entering_trail, hstops, List.flatMap_cons, List.count_append]
    congr 1
    split
    · exact ih hc.2 _
    · rw [← List.singleton_append, entering_append, hclose, Nat.zero_add]
      exact ih hc.2 _

/-- An edge leads into the node of a task for each mention inside the element, and no other. -/
private theorem entering_edges {x : Figure} (h : id ∉ x.own) : entering id x.edges = x.inner.count id := by
  cases x with
  | event node note =>
    refine entering_eq_zero fun e he => ?_
    obtain ⟨n, hn, rfl⟩ := List.mem_map.mp he
    exact fun hne => h (List.mem_cons_of_mem _ (hne ▸ hn))
  | task => rfl
  | gateway decision merge arms =>
    simp only [own, List.mem_cons, not_or] at h
    exact entering_armEdges (Ne.symm h.2.1) h.2.2 []
  | loop start stop tasks test =>
    simp only [own, List.mem_cons, List.not_mem_nil, or_false, not_or] at h
    have hback : entering id [(Edge.flow test start).nonConstraining, .flow test stop] = 0 := by
      refine entering_eq_zero ?_
      simp [Edge.flow, Edge.nonConstraining, Ne.symm h.1, Ne.symm h.2.1]
    have htest : [test].count id = 0 := List.count_eq_zero.mpr (by simpa using h.2.2)
    rw [edges, entering_append, entering_trail, hback, List.count_append, htest]
    rfl

private theorem entering_flatMap {xs : List Figure} (h : id ∉ xs.flatMap own) :
    entering id (xs.flatMap Figure.edges) = (xs.flatMap inner).count id := by
  induction xs with
  | nil => rfl
  | cons x rest ih =>
    rw [List.flatMap_cons, List.mem_append, not_or] at h
    rw [List.flatMap_cons, entering_append, entering_edges h.1, ih h.2, List.flatMap_cons, List.count_append]

end Figure
end entering

def joint : Option Endpoints → Option Endpoints → List Edge
  | some a, some b => [.flow a.exit b.entry]
  | _, _ => []

theorem joints_cons_cons (a b : Option Endpoints) (rest : List (Option Endpoints)) :
    Drawing.joints (a :: b :: rest) = joint a b ++ Drawing.joints (b :: rest) := by
  cases a <;> cases b <;> rfl

section joints
variable {d : Drawing} (hd : d.Coherent) {name id : String} (hid : d.ledger.get? name = some id)
include hd hid

/-- An element is entered at the node of a task only if it is a task of that name. -/
private theorem entry_eq_iff {e : FlowElement} {x : Figure} (h : d.Depicts e x) (ho : id ∉ x.own) :
    x.ends.entry = id ↔ isTask name (.ok e) := by
  have other {own : List String} (hm : x.ends.entry ∈ own) (ho : id ∉ own) : ¬ x.ends.entry = id :=
    fun he => ho (he ▸ hm)
  cases h with
  | task node => exact (node_eq_iff hd hid node).trans decide_eq_true_iff.symm
  | _ => exact iff_of_false (other List.mem_cons_self ho) Bool.false_ne_true

private theorem entering_joint {before entry : Entry} {x y : Option Figure}
    (hx : Option.Rel d.Depicts before.toOption x) (hy : Option.Rel d.Depicts entry.toOption y)
    (ho : ∀ z ∈ y, id ∉ z.own) : entering id (joint (x.map Figure.ends) (y.map Figure.ends)) =
      if before.toBool && isTask name entry then 1 else 0 := by
  cases before with
  | error =>
    cases hx
    rfl
  | ok e =>
    cases hx
    cases entry with
    | error =>
      cases hy
      rfl
    | ok e =>
      cases hy with
      | some hy =>
        have hiff := entry_eq_iff hd hid hy (ho _ rfl)
        simp [joint, entering, Edge.flow, Except.toBool, hiff]

/-- A joint leads into the node of a task for each task of the name that comes right after a filled slot. -/
private theorem entering_joints {entries : List Entry} {slots : List (Option Figure)}
    (h : List.Forall₂ (fun entry x => Option.Rel d.Depicts entry.toOption x) entries slots)
    (ho : ∀ x ∈ slots, ∀ z ∈ x, id ∉ z.own) :
    entering id (Drawing.joints (slots.map (Option.map Figure.ends))) = entered name entries := by
  induction h with
  | nil => rfl
  | @cons before x _ _ hx hr ih =>
    obtain ⟨_, ho⟩ := List.forall_mem_cons.mp ho
    cases hr with
    | nil => cases x <;> rfl
    | @cons entry y _ _ hy hr =>
      rw [entered_cons, ← ih ho, ← entering_joint hd hid hx hy (ho y List.mem_cons_self), Nat.add_comm,
        ← entering_append]
      exact congrArg (entering id) (joints_cons_cons _ _ _)

end joints

namespace Diagram
open Drawing

/-- The ledger knows exactly the names that are mentioned. -/
theorem mem_names (p : ProcessDescription) (name : String) :
    name ∈ (placed p).2.ledger.entries.map (·.1) ↔ name ∈ (taskMentions p.entries).map (·.1) := by
  have hn := rel_eq_none (placed_records p name)
  rw [Ledger.get?_eq_none_iff] at hn
  exact (not_iff_comm.mp hn.symm).symm.trans (Option.isSome_iff_ne_none.symm.trans isSome_firstLabel)

/-- The nodes of tasks are those that the ledger lists, each with the label of the first mention. -/
theorem task_listing (p : ProcessDescription) :
    List.Forall₂ (fun t n => ∃ label, firstLabel (taskMentions p.entries) t.1 = some label ∧
        n = Node.ofKind t.2 label .task)
      (placed p).2.ledger.entries ((placed p).2.canvas.nodes.filter (·.kind = .task)) := by
  have hd := placed_coherent p
  have hids : List.Forall₂ (fun (t : String × String) (n : Node) => t.2 = n.id) (placed p).2.ledger.entries
      ((placed p).2.canvas.nodes.filter (·.kind = .task)) := by
    refine List.forall₂_map_left_iff.mp (List.forall₂_map_right_iff.mp ?_)
    rw [List.forall₂_eq_eq_eq]
    exact hd.tasks
  obtain ⟨hlen, hzip⟩ := List.forall₂_iff_zip.mp hids
  refine List.forall₂_iff_zip.mpr ⟨hlen, fun {t n} hz => ?_⟩
  obtain ⟨ht, hn⟩ := List.of_mem_zip hz
  have hr := placed_records p t.1
  rw [hd.get?_of_mem ht] at hr
  generalize hl : firstLabel (taskMentions p.entries) t.1 = label at hr
  cases hr with
  | some hm =>
    refine ⟨_, rfl, ?_⟩
    exact List.inj_on_of_nodup_map hd.nodeIds_nodup (List.mem_filter.mp hn).1 hm (hzip hz).symm

private theorem entering_main (p : ProcessDescription) {name id : String}
    (hid : (placed p).2.ledger.get? name = some id) : entering id (drawing p).canvas.edges =
      ((innerMentions p.entries).map (·.1)).count name + entered name (slotted p.entries) := by
  have hd := placed_coherent p
  have ho : id ∉ (figures p).flatMap Figure.own := by
    rw [← ownIds_placed]
    exact fun h => hd.disjoint h (Drawing.mem_taskIds hid)
  have hin : List.Forall₂ (fun m id => (placed p).2.ledger.get? m.1 = some id) (innerMentions p.entries)
      ((figures p).flatMap Figure.inner) :=
    List.rel_flatMap (figures_depict p.entries start) fun _ _ hx => hx.inner
  have hslots : ∀ x ∈ (placed p).1, ∀ z ∈ x, id ∉ z.own := by
    intro x hx z hz hm
    cases hz
    exact ho (List.mem_flatMap.mpr ⟨z, List.reduceOption_mem_iff.mpr hx, hm⟩)
  have hj := entering_joints hd hid (placeSlots_depicts p.entries start) hslots
  rw [drawing_edges, entering_append, Figure.entering_flatMap ho, count_mentions hd hid hin, ends]
  exact congrArg _ hj

theorem tasks_ofProcess (p : ProcessDescription) :
    (ofProcess p).report.tasks = ((drawing p).canvas.nodes.filter (·.kind = .task)).length := by
  have hcount : (ofProcess p).report.tasks = (drawing p).ledger.count := rfl
  rw [hcount, ledger_drawing, nodes_drawing]
  exact (task_listing p).length_eq

/-- Each name that is mentioned has one node of its own among the nodes of tasks, and there are no others. The
node has the label of the first mention; the edges into it are one for each mention in a branch or in a loop, and
one for each task of the flow that comes right after an element. -/
theorem task_nodes (p : ProcessDescription) : ∃ main, (ofProcess p).graph.subgraph? mainCluster = some main ∧
    (∀ name, name ∈ (drawing p).ledger.entries.map (·.1) ↔ name ∈ (taskMentions p.entries).map (·.1)) ∧
    ((drawing p).ledger.entries.map (·.1)).Nodup ∧ ((drawing p).ledger.entries.map (·.2)).Nodup ∧
    List.Forall₂ (fun t n => ∃ label, firstLabel (taskMentions p.entries) t.1 = some label ∧
        n = Node.ofKind t.2 label .task)
      (drawing p).ledger.entries (main.nodes.filter (·.kind = .task)) ∧
    (ofProcess p).report.tasks = (main.nodes.filter (·.kind = .task)).length ∧
    ∀ t ∈ (drawing p).ledger.entries, entering t.2 main.edges =
      ((innerMentions p.entries).map (·.1)).count t.1 + entered t.1 (slotted p.entries) := by
  have hd := placed_coherent p
  have hcount := tasks_ofProcess p
  refine ⟨_, main_of_ofProcess p, ?_⟩
  rw [nodes_drawing] at hcount
  rw [ledger_drawing, nodes_drawing]
  exact ⟨mem_names p, hd.names, hd.taskIds_nodup, task_listing p, hcount, fun t ht =>
    entering_main p (hd.get?_of_mem ht)⟩

def review : ProcessDescription := ⟨some [
  .ok (.task { name := "Review", description := some "First look" }),
  .error .elementNotAnObject,
  .ok (.task { name := "Review" }),
  .ok (.gateway { name := "both", typeText := "AND", branches := [
    { tasks := [.detailed { name := "Review", description := some "Again" }, .name "Review"] },
    { tasks := [.name "Review"] }] }),
  .error .missingType,
  .ok (.task { name := "Review" })]⟩

theorem review_task_nodes : ("Review", "Review") ∈ (drawing review).ledger.entries ∧
    (ofProcess review).report.tasks = 1 ∧
    List.Forall₂ (fun t n => ∃ label, firstLabel (taskMentions review.entries) t.1 = some label ∧
        n = Node.ofKind t.2 label .task)
      (drawing review).ledger.entries ((drawing review).canvas.nodes.filter (·.kind = .task)) ∧
    firstLabel (taskMentions review.entries) "Review" = some "First look" ∧
    entering "Review" (drawing review).canvas.edges = 4 := by
  obtain ⟨main, hmain, _, _, _, hlist, hcount, hedges⟩ := task_nodes review
  rw [main_of_ofProcess] at hmain
  cases hmain
  have hm : ("Review", "Review") ∈ (drawing review).ledger.entries := by decide +kernel
  have hnodes : ((drawing review).canvas.nodes.filter (·.kind = .task)).length = 1 := by decide +kernel
  have hmentions : ((innerMentions review.entries).map (·.1)).count "Review" +
      entered "Review" (slotted review.entries) = 4 := by decide
  exact ⟨hm, hcount.trans hnodes, hlist, by decide, (hedges _ hm).trans hmentions⟩

end Diagram

end ProcessDiagram
