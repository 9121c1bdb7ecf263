import Mathlib.Data.List.ReduceOption
import ProcessDiagram.Proofs.Lists
import ProcessDiagram.Proofs.Mention
import ProcessDiagram.Proofs.Placement

/-! Which nodes stand for which element. Placing an element puts up nodes of the right kinds with the
right texts, and they still stand for it in every drawing that grows out of that one. -/
namespace ProcessDiagram.Drawing

/-- Nodes of a branch: the condition has its text, and the ledger leads from each task to its node. -/
structure DepictsBranch (d : Drawing) (g : Gateway) (b : Branch) (a : Arm) : Prop where
  condition : Option.Rel (fun text id => Node.ofKind id text .condition ∈ d.canvas.nodes)
    (branchCondition g b) a.condition
  tasks : List.Forall₂ (fun t id => d.ledger.get? t.taskName = some id) b.tasks a.tasks

/-- Nodes of an element, of the kind and with the label that the element calls for. -/
inductive Depicts (d : Drawing) : FlowElement → Figure → Prop where
  | event {e : Event} {id : String} {note : Option String}
      (node : Node.ofKind id e.name (eventKind e.eventClass) ∈ d.canvas.nodes)
      (beside : Option.Rel (fun text id => ⟨id, text, .condition, noteStyle⟩ ∈ d.canvas.nodes) (noteText e) note) :
    Depicts d (.event e) (.event id note)
  | task {t : Task} {id : String} (node : d.ledger.get? t.name = some id) : Depicts d (.task t) (.task id)
  | gateway {g : Gateway} {decision merge : String} {arms : List Arm}
      (first : Node.ofKind decision (gatewayNode g.kind).glyph (gatewayNode g.kind) ∈ d.canvas.nodes)
      (final : Node.ofKind merge (gatewayNode g.kind).glyph (gatewayNode g.kind) ∈ d.canvas.nodes)
      (between : List.Forall₂ (d.DepictsBranch g) g.branches arms) :
    Depicts d (.gateway g) (.gateway decision merge arms)
  | loop {l : Loop} {start stop test : String} {tasks : List String}
      (first : Node.ofKind start "" .loopMarker ∈ d.canvas.nodes)
      (final : Node.ofKind stop "" .loopMarker ∈ d.canvas.nodes)
      (body : List.Forall₂ (fun t id => d.ledger.get? t.taskName = some id) l.tasks tasks)
      (condition : Node.ofKind test l.conditionText .condition ∈ d.canvas.nodes) :
    Depicts d (.loop l) (.loop start stop tasks test)

section monotone
variable {d d' : Drawing} (h : Grows d d')
include h

private theorem get?_grows {refs : List TaskRef} {ids : List String}
    (hf : List.Forall₂ (fun t id => d.ledger.get? t.taskName = some id) refs ids) :
    List.Forall₂ (fun t id => d'.ledger.get? t.taskName = some id) refs ids :=
  hf.imp fun _ _ hg => h.get? hg

private theorem DepictsBranch.grows {g : Gateway} {b : Branch} {a : Arm} (hb : d.DepictsBranch g b a) :
    d'.DepictsBranch g b a := ⟨rel_imp (fun _ _ hn => h.nodes.subset hn) hb.condition, get?_grows h hb.tasks⟩

theorem Depicts.grows {e : FlowElement} {x : Figure} (hx : d.Depicts e x) : d'.Depicts e x := by
  have hn := h.nodes.subset
  cases hx with
  | event node beside => exact .event (hn node) (rel_imp (fun _ _ hm => hn hm) beside)
  | task node => exact .task (h.get? node)
  | gateway first final between => exact .gateway (hn first) (hn final) (between.imp fun _ _ hb => hb.grows h)
  | loop first final body condition => exact .loop (hn first) (hn final) (get?_grows h body) (hn condition)

end monotone

/-- The ledger leads from each mention of a task to the node that is reached there. -/
theorem Depicts.inner {d : Drawing} {e : FlowElement} {x : Figure} (h : d.Depicts e x) :
    List.Forall₂ (fun m id => d.ledger.get? m.1 = some id) e.innerMentions x.inner := by
  have named {refs : List TaskRef} {ids : List String}
      (hf : List.Forall₂ (fun t id => d.ledger.get? t.taskName = some id) refs ids) :
      List.Forall₂ (fun m id => d.ledger.get? m.1 = some id) (refs.map TaskRef.mention) ids :=
    List.forall₂_map_left_iff.mpr hf
  cases h with
  | event => exact .nil
  | task node => exact .nil
  | gateway _ _ between => exact List.rel_flatMap between fun _ _ hb => named hb.tasks
  | loop _ _ body => exact named body

theorem Depicts.tasks {d : Drawing} {e : FlowElement} {x : Figure} (h : d.Depicts e x) :
    List.Forall₂ (fun m id => d.ledger.get? m.1 = some id) e.mentions x.tasks := by
  have hi := h.inner
  cases h with
  | task node => exact .cons node .nil
  | _ => exact hi

theorem draw_mem (d : Drawing) (key label : String) (kind : NodeKind) (style : NodeStyle) :
    ⟨(d.draw key label kind style).1, label, kind, style⟩ ∈ (d.draw key label kind style).2.canvas.nodes := by
  simp

theorem placeTasks_get? (refs : List TaskRef) (d : Drawing) :
    List.Forall₂ (fun t id => (placeTasks refs d).2.ledger.get? t.taskName = some id) refs (placeTasks refs d).1 := by
  induction refs generalizing d with
  | nil => exact .nil
  | cons t rest ih =>
    have hg := placeTasks_grows rest (d.task t.taskName t.label).2
    exact .cons (hg.get? (d.get?_task t.taskName t.label)) (ih _)

private theorem placeBranch_depicts (d : Drawing) (g : Gateway) (i : Nat) (b : Branch) :
    (d.placeBranch g i b).2.DepictsBranch g b (d.placeBranch g i b).1 := by
  cases h : branchCondition g b with
  | none =>
    rw [d.placeBranch_none i h]
    refine ⟨?_, placeTasks_get? _ _⟩
    rw [h]
    exact .none
  | some text =>
    rw [d.placeBranch_some i h]
    refine ⟨?_, placeTasks_get? _ _⟩
    rw [h]
    exact .some ((placeTasks_grows _ _).nodes.subset (d.draw_mem _ _ _ _))

private theorem placeBranches_depicts (g : Gateway) (bs : List Branch) (i : Nat) (d : Drawing) :
    List.Forall₂ ((placeBranches g i bs d).2.DepictsBranch g) bs (placeBranches g i bs d).1 := by
  induction bs generalizing i d with
  | nil => exact .nil
  | cons b rest ih =>
    exact .cons ((d.placeBranch_depicts g i b).grows (placeBranches_grows g rest (i + 1) _)) (ih _ _)

theorem place_depicts (d : Drawing) (e : FlowElement) : (d.place e).2.Depicts e (d.place e).1 := by
  cases e with
  | event e =>
    have hn := d.draw_mem ("evento_" ++ e.name) e.name (eventKind e.eventClass) (eventKind e.eventClass).style
    cases h : noteText e with
    | none =>
      rw [d.place_event_none h]
      refine .event hn ?_
      rw [h]
      exact .none
    | some reason =>
      rw [d.place_event_some h]
      have hg := draw_grows (d.draw ("evento_" ++ e.name) e.name (eventKind e.eventClass)).2 ("fin_label_" ++ e.name)
        reason noteStyle (show NodeKind.condition ≠ .task by decide)
      refine .event (hg.nodes.subset hn) ?_
      rw [h]
      exact .some (draw_mem _ _ _ _ _)
  | task t => exact .task (d.get?_task t.name t.label)
  | gateway g =>
    have hk := gatewayNode_ne_task g.kind
    have hb (d : Drawing) := (placeBranches_grows g g.branches 0 d).nodes.subset
    exact .gateway (hb _ ((draw_grows _ _ _ _ hk).nodes.subset (draw_mem _ _ _ _ _))) (hb _ (draw_mem _ _ _ _ _))
      (placeBranches_depicts _ _ _ _)
  | loop l =>
    have hk : NodeKind.loopMarker ≠ .task := by decide
    have ht (d : Drawing) := (placeTasks_grows l.tasks d).nodes.subset
    have hc (d : Drawing) := d.condition_grows l.conditionText ("loop_cond_" ++ l.name)
    exact .loop ((hc _).nodes.subset (ht _ ((draw_grows _ _ _ _ hk).nodes.subset (draw_mem _ _ _ _ _))))
      ((hc _).nodes.subset (ht _ (draw_mem _ _ _ _ _))) (get?_grows (hc _) (placeTasks_get? _ _)) (draw_mem _ _ _ _ _)

/-- A slot is filled for the entries that are elements, and for no others. -/
theorem placeSlots_depicts (entries : List Entry) (d : Drawing) :
    List.Forall₂ (fun entry x => Option.Rel (placeSlots entries d).2.Depicts entry.toOption x)
      (slotted entries) (placeSlots entries d).1 := by
  induction entries generalizing d with
  | nil => exact .nil
  | cons entry rest ih =>
    cases entry with
    | ok e => exact .cons (.some ((d.place_depicts e).grows (placeSlots_grows rest _))) (ih _)
    | error e =>
      simp only [slotted, placeSlots] at ih ⊢
      cases h : e.isUntyped with
      | true => simpa [h] using ih d
      | false => simpa [h] using List.Forall₂.cons .none (ih d)

def figures (entries : List Entry) (d : Drawing) : List Figure := (placeSlots entries d).1.reduceOption

theorem figures_depict (entries : List Entry) (d : Drawing) :
    List.Forall₂ (placeSlots entries d).2.Depicts (validElements entries) (figures entries d) := by
  have reduce {entries : List Entry} {slots : List (Option Figure)} {d : Drawing}
      (h : List.Forall₂ (fun entry x => Option.Rel d.Depicts entry.toOption x) entries slots) :
      List.Forall₂ d.Depicts (entries.filterMap Except.toOption) slots.reduceOption := by
    induction h with
    | nil => exact .nil
    | @cons entry x _ _ hx _ ih =>
      cases entry with
      | ok e =>
        cases hx with
        | some hx => exact .cons hx ih
      | error e =>
        cases hx
        exact ih
  rw [← filterMap_slotted]
  exact reduce (placeSlots_depicts entries d)

/-- If all failing entries are without type, every slot is filled. -/
theorem placeSlots_filled {entries : List Entry} (h : ∀ e, Except.error e ∈ entries → e = .missingType)
    (d : Drawing) : (placeSlots entries d).1 = (figures entries d).map some := by
  induction entries generalizing d with
  | nil => rfl
  | cons entry rest ih =>
    have hr := ih fun e he => h e (List.mem_cons_of_mem _ he)
    simp only [figures] at hr ⊢
    cases entry with
    | ok e => simp only [placeSlots, List.reduceOption_cons_of_some, List.map_cons, ← hr]
    | error e =>
      rw [h e List.mem_cons_self]
      exact hr d

/-! The nodes that are placed and are no tasks are exactly those that the figures call their own. -/

private theorem ownIds_draw (d : Drawing) (key label : String) {kind : NodeKind} (style : NodeStyle)
    (h : kind ≠ .task) : (d.draw key label kind style).2.ownIds = d.ownIds ++ [(d.draw key label kind style).1] := by
  simp [ownIds, h]

private theorem ownIds_task (d : Drawing) (name label : String) : (d.task name label).2.ownIds = d.ownIds := by
  obtain ⟨id, _, he⟩ | ⟨_, he⟩ := d.task_cases name label
  · rw [he]
  · rw [he]
    simp [ownIds]

private theorem ownIds_placeTasks (refs : List TaskRef) (d : Drawing) : (placeTasks refs d).2.ownIds = d.ownIds := by
  induction refs generalizing d with
  | nil => rfl
  | cons t rest ih => exact (ih _).trans (d.ownIds_task t.taskName t.label)

private theorem ownIds_placeBranch (d : Drawing) (g : Gateway) (i : Nat) (b : Branch) :
    (d.placeBranch g i b).2.ownIds = d.ownIds ++ (d.placeBranch g i b).1.condition.toList := by
  cases h : branchCondition g b with
  | none =>
    rw [d.placeBranch_none i h, ownIds_placeTasks]
    simp
  | some text =>
    rw [d.placeBranch_some i h, ownIds_placeTasks]
    exact d.ownIds_draw _ _ _ (by decide)

private theorem ownIds_placeBranches (g : Gateway) (bs : List Branch) (i : Nat) (d : Drawing) :
    (placeBranches g i bs d).2.ownIds =
      d.ownIds ++ (placeBranches g i bs d).1.flatMap (·.condition.toList) := by
  induction bs generalizing i d with
  | nil => simp [placeBranches]
  | cons b rest ih => simp [placeBranches, ih, ownIds_placeBranch]

theorem ownIds_place (d : Drawing) (e : FlowElement) : (d.place e).2.ownIds = d.ownIds ++ (d.place e).1.own := by
  cases e with
  | event e =>
    have hk := eventKind_ne_task e.eventClass
    cases h : noteText e with
    | none =>
      rw [d.place_event_none h]
      exact d.ownIds_draw _ _ _ hk
    | some reason =>
      rw [d.place_event_some h]
      simp [ownIds_draw, hk, Figure.own]
  | task t => simp [place, ownIds_task, Figure.own]
  | gateway g => simp [place, ownIds_placeBranches, ownIds_draw, gatewayNode_ne_task, Figure.own]
  | loop l => simp [place, condition, ownIds_placeTasks, ownIds_draw, Figure.own]

theorem ownIds_placeSlots (entries : List Entry) (d : Drawing) :
    (placeSlots entries d).2.ownIds = d.ownIds ++ (figures entries d).flatMap Figure.own := by
  induction entries generalizing d with
  | nil => simp [placeSlots, figures]
  | cons entry rest ih =>
    simp only [figures] at ih ⊢
    cases entry with
    | ok e => simp [placeSlots, ih, ownIds_place]
    | error e => cases h : e.isUntyped <;> simp [placeSlots, ih, h]

end ProcessDiagram.Drawing
