import Mathlib.Data.List.Forall2
import Mathlib.Data.List.Nodup
import Mathlib.Logic.Relation
import ProcessDiagram.Proofs.Identifier
import ProcessDiagram.Diagram.Drawing

/-! How a drawing gains nodes. There are two ways, and whatever both keep holds of every drawing that
grows out of one for which it holds. -/
namespace ProcessDiagram.Drawing

def nodeIds (d : Drawing) : List String := d.canvas.nodes.map (·.id)

def taskIds (d : Drawing) : List String := d.ledger.entries.map (·.2)

def ownIds (d : Drawing) : List String := (d.canvas.nodes.filter (·.kind ≠ .task)).map (·.id)

theorem mem_taskIds {d : Drawing} {name id : String} (h : d.ledger.get? name = some id) : id ∈ d.taskIds :=
  List.mem_map.mpr ⟨_, Ledger.mem_of_get? h, rfl⟩

theorem mem_taskIds_of_forall₂ {d : Drawing} {α : Type} {name : α → String} {ms : List α} {ids : List String}
    (h : List.Forall₂ (fun m id => d.ledger.get? (name m) = some id) ms ids) : ∀ id ∈ ids, id ∈ d.taskIds := by
  induction h with
  | nil => exact fun _ h => nomatch h
  | cons hm _ ih => exact List.forall_mem_cons.mpr ⟨mem_taskIds hm, ih⟩

theorem ownIds_subset (d : Drawing) : d.ownIds ⊆ d.nodeIds := List.map_subset _ (List.filter_subset_self _)

/-- A node with a fresh id, or the node of a task that the ledger does not know. -/
inductive Adds : Drawing → Drawing → Prop where
  | node (d : Drawing) (key label : String) {kind : NodeKind} (style : NodeStyle) (h : kind ≠ .task) :
    Adds d (d.draw key label kind style).2
  | task (d : Drawing) {name : String} (label : String) (h : d.ledger.get? name = none) :
    Adds d (d.task name label).2

abbrev Grows : Drawing → Drawing → Prop := Relation.ReflTransGen Adds

section draw
variable (d : Drawing) (key label : String) (kind : NodeKind) (style : NodeStyle)

@[simp] theorem draw_fst : (d.draw key label kind style).1 = (d.registry.allocate key).1 := rfl

@[simp] theorem issued_draw : (d.draw key label kind style).2.registry.issued =
    d.registry.issued ++ [(d.registry.allocate key).1] := Registry.issued_allocate _ _

@[simp] theorem ledger_draw : (d.draw key label kind style).2.ledger = d.ledger := rfl

@[simp] theorem nodes_draw : (d.draw key label kind style).2.canvas.nodes =
    d.canvas.nodes ++ [⟨(d.registry.allocate key).1, label, kind, style⟩] := Subgraph.nodes_addNode _ _

@[simp] theorem edges_draw : (d.draw key label kind style).2.canvas.edges = d.canvas.edges :=
  Subgraph.edges_addNode _ _

end draw

/-- A known task changes nothing; an unknown one is drawn and recorded. -/
theorem task_cases (d : Drawing) (name label : String) :
    (∃ id, d.ledger.get? name = some id ∧ d.task name label = (id, d)) ∨
    (d.ledger.get? name = none ∧ d.task name label = ((d.draw name label .task).1,
      { (d.draw name label .task).2 with
        ledger := d.ledger.record name (d.draw name label .task).1 })) := by
  cases h : d.ledger.get? name with
  | some id => exact Or.inl ⟨id, rfl, by rw [task, h]⟩
  | none => exact Or.inr ⟨rfl, by rw [task, h]; rfl⟩

theorem task_new {d : Drawing} {name : String} (label : String) (h : d.ledger.get? name = none) :
    d.task name label = ((d.draw name label .task).1,
      { (d.draw name label .task).2 with
        ledger := d.ledger.record name (d.draw name label .task).1 }) := by
  obtain ⟨id, hs, _⟩ | ⟨_, he⟩ := d.task_cases name label
  · rw [h] at hs; cases hs
  · exact he

/-- However a task is met, the drawing grows and the ledger then leads to its node. -/
theorem task_grows (d : Drawing) (name label : String) : Grows d (d.task name label).2 := by
  obtain ⟨id, _, he⟩ | ⟨h, _⟩ := d.task_cases name label
  · rw [he]
  · exact .single (.task d label h)

theorem get?_task (d : Drawing) (name label : String) :
    (d.task name label).2.ledger.get? name = some (d.task name label).1 := by
  obtain ⟨id, h, he⟩ | ⟨h, he⟩ := d.task_cases name label
  · rw [he]; exact h
  · rw [he]
    simp [Ledger.get?_record _ _ h, h]

/-! What both ways of growing keep. -/

namespace Grows
variable {d d' : Drawing}

theorem edges (h : Grows d d') : d'.canvas.edges = d.canvas.edges := by
  induction h with
  | refl => rfl
  | tail _ hs ih =>
    cases hs with
    | node => simpa using ih
    | task label h => rw [task_new label h]; simpa using ih

theorem nodes (h : Grows d d') : d.canvas.nodes <+: d'.canvas.nodes := by
  induction h with
  | refl => exact List.prefix_refl _
  | tail _ hs ih =>
    cases hs with
    | node => exact ih.trans (by simp)
    | task label h => rw [task_new label h]; exact ih.trans (by simp)

/-- The ledger never forgets a task nor moves it. -/
theorem get? (h : Grows d d') {name id : String} (hn : d.ledger.get? name = some id) :
    d'.ledger.get? name = some id := by
  induction h with
  | refl => exact hn
  | tail _ hs ih =>
    cases hs with
    | node => exact ih
    | task label h =>
      rw [task_new label h]
      simp [Ledger.get?_record _ _ h, ih]

/-- Nothing but nodes and edges of the canvas ever changes. -/
theorem frame (h : Grows d d') : d'.canvas =
    .mk d.canvas.name d.canvas.attrs d'.canvas.nodes d'.canvas.edges d.canvas.members d.canvas.children := by
  have add (s : Subgraph) (n : Node) : s.addNode n =
      .mk s.name s.attrs (s.addNode n).nodes (s.addNode n).edges s.members s.children := by cases s; rfl
  induction h with
  | refl => cases d.canvas; rfl
  | @tail b c _ hs ih =>
    have hb : c.canvas = .mk b.canvas.name b.canvas.attrs c.canvas.nodes c.canvas.edges b.canvas.members
        b.canvas.children := by
      cases hs with
      | node => exact add _ _
      | task label h => rw [task_new label h]; exact add _ _
    rw [hb, ih]
    rfl

/-- An id that is in use for something else never becomes the id of a task. -/
theorem notMem_taskIds (h : Grows d d') {id : String} (hi : id ∈ d.registry.issued) (ht : id ∉ d.taskIds) :
    id ∈ d'.registry.issued ∧ id ∉ d'.taskIds := by
  induction h with
  | refl => exact ⟨hi, ht⟩
  | @tail b _ _ hs ih =>
    cases hs with
    | node => exact ⟨by simp [ih.1], ih.2⟩
    | @task name label h =>
      rw [task_new label h]
      refine ⟨by simp [ih.1], ?_⟩
      have hne : id ≠ (b.registry.allocate name).1 := fun he => Registry.allocate_notMem _ _ (he ▸ ih.1)
      simpa [taskIds, Ledger.entries_record _ h, hne] using ih.2

end Grows

/-- Registry, ledger and nodes agree: every id in use is the spacer's or that of one node, and the
ledger lists the nodes of tasks in their order. -/
structure Coherent (d : Drawing) : Prop where
  issued : d.registry.issued = spacerId :: d.nodeIds
  nodup : d.registry.issued.Nodup
  identifiers : ∀ id ∈ d.nodeIds, IsIdentifier id
  tasks : d.taskIds = (d.canvas.nodes.filter (·.kind = .task)).map (·.id)
  names : (d.ledger.entries.map (·.1)).Nodup

namespace Coherent
variable {d d' : Drawing}

theorem blank {canvas : Subgraph} (h : canvas.nodes = []) : Coherent { Drawing.blank with canvas } where
  issued := by simp [nodeIds, h, Drawing.blank, bare, Registry.reserve, Registry.empty]
  nodup := by simp [Drawing.blank, bare, Registry.reserve, Registry.empty]
  identifiers := by simp [nodeIds, h]
  tasks := by simp [taskIds, h, Drawing.blank, bare, Ledger.empty]
  names := by simp [Drawing.blank, bare, Ledger.empty]

theorem draw (hd : d.Coherent) (key label : String) {kind : NodeKind} (style : NodeStyle) (h : kind ≠ .task) :
    (d.draw key label kind style).2.Coherent where
  issued := by simp [hd.issued, nodeIds]
  nodup := by
    rw [issued_draw, ← List.concat_eq_append]
    exact List.Nodup.concat (Registry.allocate_notMem _ _) hd.nodup
  identifiers := by
    have hi := hd.identifiers
    have ha := d.registry.allocate_isIdentifier key
    simp only [nodeIds, nodes_draw, List.map_append, List.mem_append]
    rintro id (hm | hm)
    · exact hi id hm
    · rw [List.mem_singleton.mp hm]; exact ha
  tasks := by simpa [h, taskIds] using hd.tasks
  names := hd.names

private theorem task (hd : d.Coherent) {name : String} (label : String) (h : d.ledger.get? name = none) :
    (d.task name label).2.Coherent := by
  have hn := Ledger.get?_eq_none_iff.mp h
  rw [task_new label h]
  refine ⟨by simp [hd.issued, nodeIds], ?_, ?_, ?_, ?_⟩
  · simp only [issued_draw, ← List.concat_eq_append]
    exact List.Nodup.concat (Registry.allocate_notMem _ _) hd.nodup
  · have ha := d.registry.allocate_isIdentifier name
    simp only [nodeIds, nodes_draw, List.map_append, List.mem_append]
    rintro id (hm | hm)
    · exact hd.identifiers id hm
    · rw [List.mem_singleton.mp hm]; exact ha
  · have ht := hd.tasks
    simp only [taskIds] at ht
    simp [taskIds, Ledger.entries_record _ h, ht]
  · simpa [Ledger.entries_record _ h] using List.Nodup.concat hn hd.names

theorem grows (hd : d.Coherent) (h : Grows d d') : d'.Coherent := by
  induction h with
  | refl => exact hd
  | tail _ hs ih =>
    cases hs with
    | node key label style h => exact ih.draw key label style h
    | task label h => exact ih.task label h

theorem taskIds_subset (hd : d.Coherent) : d.taskIds ⊆ d.nodeIds := by
  rw [hd.tasks]
  exact List.map_subset _ (List.filter_subset_self _)

theorem nodeIds_nodup (hd : d.Coherent) : d.nodeIds.Nodup := by
  have hi := hd.nodup
  rw [hd.issued] at hi
  exact (List.nodup_cons.mp hi).2

theorem ownIds_nodup (hd : d.Coherent) : d.ownIds.Nodup :=
  hd.nodeIds_nodup.sublist (List.filter_sublist.map _)

theorem taskIds_nodup (hd : d.Coherent) : d.taskIds.Nodup := by
  rw [hd.tasks]
  exact hd.nodeIds_nodup.sublist (List.filter_sublist.map _)

theorem mem_nodeIds (hd : d.Coherent) {id : String} (h : id ∈ d.nodeIds) : id ∈ d.ownIds ∨ id ∈ d.taskIds := by
  obtain ⟨n, hn, rfl⟩ := List.mem_map.mp h
  rw [hd.tasks]
  by_cases hk : n.kind = .task
  · exact Or.inr (List.mem_map_of_mem (List.mem_filter.mpr ⟨hn, decide_eq_true hk⟩))
  · exact Or.inl (List.mem_map_of_mem (List.mem_filter.mpr ⟨hn, decide_eq_true hk⟩))

/-- No node of a task belongs to an element alone. -/
theorem disjoint (hd : d.Coherent) : List.Disjoint d.ownIds d.taskIds := by
  intro id ho ht
  rw [hd.tasks] at ht
  obtain ⟨m, hm, rfl⟩ := List.mem_map.mp ho
  obtain ⟨n, hn, he⟩ := List.mem_map.mp ht
  simp only [List.mem_filter, decide_eq_true_eq] at hm hn
  have hnm : n = m := List.inj_on_of_nodup_map hd.nodeIds_nodup hn.1 hm.1 he
  exact hm.2 (hnm ▸ hn.2)

theorem get?_of_mem (hd : d.Coherent) {name id : String} (h : (name, id) ∈ d.ledger.entries) :
    d.ledger.get? name = some id := by
  cases hg : d.ledger.get? name with
  | none => exact absurd (List.mem_map.mpr ⟨_, h, rfl⟩) (Ledger.get?_eq_none_iff.mp hg)
  | some i =>
    have he := List.inj_on_of_nodup_map hd.names (Ledger.mem_of_get? hg) h rfl
    exact congrArg some (congrArg Prod.snd he)

theorem get?_injective (hd : d.Coherent) {name other id : String} (h : d.ledger.get? name = some id)
    (ho : d.ledger.get? other = some id) : name = other :=
  congrArg Prod.fst
    (List.inj_on_of_nodup_map hd.taskIds_nodup (Ledger.mem_of_get? h) (Ledger.mem_of_get? ho) rfl)

end Coherent

end ProcessDiagram.Drawing
