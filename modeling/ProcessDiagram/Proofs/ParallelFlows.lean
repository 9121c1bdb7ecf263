import ProcessDiagram.Proofs.MainFlow
import ProcessDiagram.Proofs.Outline
import ProcessDiagram.Proofs.Place

/-! Parallel flows drawn side by side. Their ids may differ, and collide in one flow and not in the other; node by node
and edge by edge the drawings are the same. -/
namespace ProcessDiagram

/-! Figures and edges under a correspondence of ids. -/

section corresponding
variable (ρ : String → String → Prop)

structure Arm.Matches (a b : Arm) : Prop where
  condition : Option.Rel ρ a.condition b.condition
  tasks : List.Forall₂ ρ a.tasks b.tasks

inductive Figure.Matches : Figure → Figure → Prop where
  | event {a b : String} {n m : Option String} (node : ρ a b) (note : Option.Rel ρ n m) :
    Matches (.event a n) (.event b m)
  | task {a b : String} (node : ρ a b) : Matches (.task a) (.task b)
  | gateway {a b c d : String} {xs ys : List Arm} (decision : ρ a b) (merge : ρ c d)
    (arms : List.Forall₂ (Arm.Matches ρ) xs ys) : Matches (.gateway a c xs) (.gateway b d ys)
  | loop {a b c d u v : String} {xs ys : List String} (start : ρ a b) (stop : ρ c d) (tasks : List.Forall₂ ρ xs ys)
    (test : ρ u v) : Matches (.loop a c xs u) (.loop b d ys v)

structure Endpoints.Matches (a b : Endpoints) : Prop where
  entry : ρ a.entry b.entry
  exit : ρ a.exit b.exit

structure Edge.Matches (e f : Edge) : Prop where
  source : ρ e.source f.source
  target : ρ e.target f.target
  style : e.style = f.style
  constraint : e.constraint = f.constraint
  arrowhead : e.arrowhead = f.arrowhead
  penWidth : e.penWidth = f.penWidth

end corresponding

section matching
variable {ρ ρ' : String → String → Prop}

private theorem Arm.Matches.imp (hρ : ∀ a b, ρ a b → ρ' a b) {a b : Arm} (h : a.Matches ρ b) : a.Matches ρ' b :=
  ⟨rel_imp hρ h.condition, h.tasks.imp hρ⟩

private theorem Figure.Matches.imp (hρ : ∀ a b, ρ a b → ρ' a b) {x y : Figure} (h : x.Matches ρ y) :
    x.Matches ρ' y := by
  cases h with
  | event node note => exact .event (hρ _ _ node) (rel_imp hρ note)
  | task node => exact .task (hρ _ _ node)
  | gateway decision merge arms =>
    exact .gateway (hρ _ _ decision) (hρ _ _ merge) (arms.imp fun _ _ ha => ha.imp hρ)
  | loop start stop tasks test => exact .loop (hρ _ _ start) (hρ _ _ stop) (tasks.imp hρ) (hρ _ _ test)

private theorem Figure.Matches.ends {x y : Figure} (h : x.Matches ρ y) : x.ends.Matches ρ y.ends := by
  cases h with
  | event node _ => exact ⟨node, node⟩
  | task node => exact ⟨node, node⟩
  | gateway decision merge _ => exact ⟨decision, merge⟩
  | loop start stop _ _ => exact ⟨start, stop⟩

private theorem Edge.Matches.flow {a b c d : String} (hs : ρ a b) (ht : ρ c d) :
    (Edge.flow a c).Matches ρ (.flow b d) :=
  ⟨hs, ht, rfl, rfl, rfl, rfl⟩

private theorem matches_trail {ids others : List String} (h : List.Forall₂ ρ ids others) {a b : String} (hs : ρ a b) :
    List.Forall₂ (Edge.Matches ρ) (trail a ids) (trail b others) := by
  induction h generalizing a b with
  | nil => exact .nil
  | cons ht _ ih => exact .cons (.flow hs ht) (ih ht)

private theorem Arm.Matches.stops {a b : Arm} (h : a.Matches ρ b) : List.Forall₂ ρ a.stops b.stops :=
  List.rel_append (rel_toList h.condition) h.tasks

/-- The same branches are joined to the merge already, since an id corresponds to one id only. -/
private theorem matches_armEdges (hρ : Relator.BiUnique ρ) {decision merge decision' merge' : String}
    (hd : ρ decision decision') (hm : ρ merge merge') {arms arms' : List Arm}
    (h : List.Forall₂ (Arm.Matches ρ) arms arms') {joined joined' : List String} (hj : List.Forall₂ ρ joined joined') :
    List.Forall₂ (Edge.Matches ρ) (Figure.armEdges decision merge joined arms)
      (Figure.armEdges decision' merge' joined' arms') := by
  induction h generalizing joined joined' with
  | nil => exact .nil
  | @cons a b _ _ ha _ ih =>
    have hlast : ρ (a.last decision) (b.last decision') := rel_getLastD ha.stops hd
    have hmem : a.last decision ∈ joined ↔ b.last decision' ∈ joined' := List.rel_mem hρ hlast hj
    refine List.rel_append (matches_trail ha.stops hd) ?_
    by_cases hin : a.last decision ∈ joined
    · rw [if_pos hin, if_pos (hmem.mp hin)]
      exact ih hj
    · rw [if_neg hin, if_neg fun hin' => hin (hmem.mpr hin')]
      exact .cons (.flow hlast hm) (ih (.cons hlast hj))

private theorem Figure.Matches.edges (hρ : Relator.BiUnique ρ) {x y : Figure} (h : x.Matches ρ y) :
    List.Forall₂ (Edge.Matches ρ) x.edges y.edges := by
  cases h with
  | event node note =>
    exact List.rel_map (fun _ _ hn => ⟨node, hn, rfl, rfl, rfl, rfl⟩) (rel_toList note)
  | task => exact .nil
  | gateway decision merge arms => exact matches_armEdges hρ decision merge arms .nil
  | loop start stop tasks test =>
    have hback : (Edge.flow _ _).nonConstraining.Matches ρ (Edge.flow _ _).nonConstraining :=
      ⟨test, start, rfl, rfl, rfl, rfl⟩
    exact List.rel_append (matches_trail (List.rel_append tasks (.cons test .nil)) start)
      (.cons hback (.cons (.flow test stop) .nil))

private theorem matches_joints {slots others : List (Option Endpoints)}
    (h : List.Forall₂ (Option.Rel (Endpoints.Matches ρ)) slots others) :
    List.Forall₂ (Edge.Matches ρ) (Drawing.joints slots) (Drawing.joints others) := by
  induction h with
  | nil => exact .nil
  | cons ha hrest ih =>
    cases ha with
    | none => exact ih
    | some ha =>
      cases hrest with
      | nil => exact ih
      | cons hb _ =>
        cases hb with
        | none => exact ih
        | some hb => exact .cons (.flow ha.exit hb.entry) ih

end matching

namespace Drawing

/-- Two drawings with nodes of the same kinds, whose ledgers list corresponding tasks with the same nodes. -/
structure Abreast (r : String → String → Prop) (d d' : Drawing) : Prop where
  kinds : d.canvas.nodes.map (·.kind) = d'.canvas.nodes.map (·.kind)
  ledgers : List.Forall₂ (fun t t' => r t.1 t'.1 ∧ Paired d.nodeIds d'.nodeIds t.2 t'.2) d.ledger.entries d'.ledger.entries

private theorem nodeIds_draw (d : Drawing) (key label : String) (kind : NodeKind) (style : NodeStyle) :
    (d.draw key label kind style).2.nodeIds = d.nodeIds ++ [(d.draw key label kind style).1] := by
  simp [nodeIds]

section paired
variable {d d' : Drawing} {a b : String} (h : Paired d.nodeIds d'.nodeIds a b)
include h

private theorem paired_grows {e e' : Drawing} (hg : Grows d e) (hg' : Grows d' e') : Paired e.nodeIds e'.nodeIds a b :=
  h.mono (hg.nodes.map _) (hg'.nodes.map _)

private theorem paired_draw {key label key' label' : String} {kind kind' : NodeKind} {style style' : NodeStyle} :
    Paired (d.draw key label kind style).2.nodeIds (d'.draw key' label' kind' style').2.nodeIds a b := by
  rw [nodeIds_draw, nodeIds_draw]
  exact h.mono (List.prefix_append _ _) (List.prefix_append _ _)

private theorem paired_placeTasks {refs refs' : List TaskRef} :
    Paired (placeTasks refs d).2.nodeIds (placeTasks refs' d').2.nodeIds a b :=
  paired_grows h (placeTasks_grows _ _) (placeTasks_grows _ _)

private theorem paired_placeBranches {g g' : Gateway} {i i' : Nat} {bs bs' : List Branch} :
    Paired (placeBranches g i bs d).2.nodeIds (placeBranches g' i' bs' d').2.nodeIds a b :=
  paired_grows h (placeBranches_grows _ _ _ _) (placeBranches_grows _ _ _ _)

end paired

section abreast
variable {r : String → String → Prop} {d d' : Drawing} (h : Abreast r d d')
include h

private theorem Abreast.length_eq : d.nodeIds.length = d'.nodeIds.length := by
  have hl := congrArg List.length h.kinds
  simpa [nodeIds] using hl

variable {key label key' label' : String} {kind : NodeKind} {style style' : NodeStyle}

private theorem draw_paired : Paired (d.draw key label kind style).2.nodeIds (d'.draw key' label' kind style').2.nodeIds
    (d.draw key label kind style).1 (d'.draw key' label' kind style').1 := by
  rw [nodeIds_draw, nodeIds_draw]
  exact paired_concat h.length_eq

private theorem draw_abreast : Abreast r (d.draw key label kind style).2 (d'.draw key' label' kind style').2 where
  kinds := by simp [h.kinds]
  ledgers := by
    rw [nodeIds_draw, nodeIds_draw]
    exact h.ledgers.imp fun _ _ ht => ⟨ht.1, ht.2.mono (List.prefix_append _ _) (List.prefix_append _ _)⟩

/-- Corresponding tasks are both known, as corresponding nodes, or both unknown. -/
private theorem get?_abreast (hr : Relator.BiUnique r) {name name' : String} (hn : r name name') :
    Option.Rel (Paired d.nodeIds d'.nodeIds) (d.ledger.get? name) (d'.ledger.get? name') := by
  have hl := h.ledgers
  simp only [Ledger.get?]
  generalize d.ledger.entries = ts at hl ⊢
  generalize d'.ledger.entries = ts' at hl ⊢
  induction hl with
  | nil => exact .none
  | @cons t t' _ _ ht _ ih =>
    have hiff : t.1 = name ↔ t'.1 = name' := ⟨fun he => hr.2 ht.1 (he ▸ hn), fun he => hr.1 ht.1 (he ▸ hn)⟩
    by_cases he : t.1 = name
    · rw [List.find?_cons_of_pos (by simpa using he), List.find?_cons_of_pos (by simpa using hiff.mp he)]
      exact .some ht.2
    · rw [List.find?_cons_of_neg (by simpa using he), List.find?_cons_of_neg (by simpa using fun h => he (hiff.mpr h))]
      exact ih

private theorem task_abreast (hr : Relator.BiUnique r) {name name' : String} (hn : r name name')
    (label label' : String) : Abreast r (d.task name label).2 (d'.task name' label').2 ∧
    Paired (d.task name label).2.nodeIds (d'.task name' label').2.nodeIds (d.task name label).1
      (d'.task name' label').1 := by
  have hget := get?_abreast h hr hn
  cases hk : d.ledger.get? name with
  | some id =>
    cases hk' : d'.ledger.get? name' with
    | some id' =>
      rw [hk, hk'] at hget
      rw [task, hk, task, hk']
      cases hget with
      | some hp => exact ⟨h, hp⟩
    | none =>
      rw [hk, hk'] at hget
      cases hget
  | none =>
    have hk' := (rel_eq_none hget).mp hk
    rw [task_new label hk, task_new label' hk']
    refine ⟨⟨(draw_abreast h).kinds, ?_⟩, draw_paired h⟩
    rw [Ledger.entries_record _ hk, Ledger.entries_record _ hk']
    exact List.rel_append (draw_abreast h).ledgers (.cons ⟨hn, draw_paired h⟩ .nil)

end abreast

section place
variable {r : String → String → Prop} (hr : Relator.BiUnique r)
include hr

private theorem placeTasks_abreast {refs refs' : List TaskRef} (ht : AlikeTasks r refs refs') {d d' : Drawing}
    (h : Abreast r d d') : Abreast r (placeTasks refs d).2 (placeTasks refs' d').2 ∧
      List.Forall₂ (Paired (placeTasks refs d).2.nodeIds (placeTasks refs' d').2.nodeIds)
        (placeTasks refs d).1 (placeTasks refs' d').1 := by
  induction ht generalizing d d' with
  | nil => exact ⟨h, .nil⟩
  | @cons t t' rest rest' hn _ ih =>
    obtain ⟨hfirst, hp⟩ := task_abreast h hr hn t.label t'.label
    obtain ⟨hlater, hps⟩ := ih hfirst
    exact ⟨hlater, .cons (paired_placeTasks hp) hps⟩

private theorem placeBranch_abreast {g g' : Gateway} {b b' : Branch} (hb : AlikeBranches r g g' b b') (i : Nat)
    {d d' : Drawing} (h : Abreast r d d') : Abreast r (d.placeBranch g i b).2 (d'.placeBranch g' i b').2 ∧
      (d.placeBranch g i b).1.Matches (Paired (d.placeBranch g i b).2.nodeIds (d'.placeBranch g' i b').2.nodeIds)
        (d'.placeBranch g' i b').1 := by
  have hguarded := hb.guarded
  cases hc : branchCondition g b with
  | none =>
    cases hc' : branchCondition g' b' with
    | none =>
      rw [d.placeBranch_none i hc, d'.placeBranch_none i hc']
      obtain ⟨hlater, hps⟩ := placeTasks_abreast hr hb.tasks h
      exact ⟨hlater, .none, hps⟩
    | some text' =>
      rw [hc, hc'] at hguarded
      cases hguarded
  | some text =>
    cases hc' : branchCondition g' b' with
    | none =>
      rw [hc, hc'] at hguarded
      cases hguarded
    | some text' =>
      rw [d.placeBranch_some i hc, d'.placeBranch_some i hc']
      exact (placeTasks_abreast hr hb.tasks (draw_abreast h)).imp_right
        fun hps => ⟨.some (paired_placeTasks (draw_paired h)), hps⟩

private theorem placeBranches_abreast {g g' : Gateway} {bs bs' : List Branch}
    (hbs : List.Forall₂ (AlikeBranches r g g') bs bs') (i : Nat) {d d' : Drawing} (h : Abreast r d d') :
    Abreast r (placeBranches g i bs d).2 (placeBranches g' i bs' d').2 ∧
      List.Forall₂ (Arm.Matches (Paired (placeBranches g i bs d).2.nodeIds (placeBranches g' i bs' d').2.nodeIds))
        (placeBranches g i bs d).1 (placeBranches g' i bs' d').1 := by
  induction hbs generalizing i d d' with
  | nil => exact ⟨h, .nil⟩
  | cons hb _ ih =>
    obtain ⟨hfirst, ha⟩ := placeBranch_abreast hr hb i h
    exact (ih (i + 1) hfirst).imp_right fun has => .cons (ha.imp fun _ _ hp => paired_placeBranches hp) has

private theorem place_abreast {e e' : FlowElement} (he : AlikeElements r e e') {d d' : Drawing} (h : Abreast r d d') :
    Abreast r (d.place e).2 (d'.place e').2 ∧
      (d.place e).1.Matches (Paired (d.place e).2.nodeIds (d'.place e').2.nodeIds) (d'.place e').1 := by
  cases he with
  | @event e e' hclass hnoted =>
    cases hn : noteText e with
    | none =>
      cases hn' : noteText e' with
      | none =>
        rw [d.place_event_none hn, d'.place_event_none hn', ← hclass]
        exact ⟨draw_abreast h, .event (draw_paired h) .none⟩
      | some reason' =>
        rw [hn, hn'] at hnoted
        cases hnoted
    | some reason =>
      cases hn' : noteText e' with
      | none =>
        rw [hn, hn'] at hnoted
        cases hnoted
      | some reason' =>
        rw [d.place_event_some hn, d'.place_event_some hn', ← hclass]
        exact ⟨draw_abreast (draw_abreast h),
          .event (paired_draw (draw_paired h)) (.some (draw_paired (draw_abreast h)))⟩
  | @task t t' hn => exact (task_abreast h hr hn t.label t'.label).imp_right .task
  | @gateway g g' hkind hbs =>
    simp only [place]
    rw [← hkind]
    exact (placeBranches_abreast hr hbs 0 (draw_abreast (draw_abreast h))).imp_right fun harms =>
      .gateway (paired_placeBranches (paired_draw (draw_paired h)))
        (paired_placeBranches (draw_paired (draw_abreast h))) harms
  | @loop l l' ht =>
    simp only [place, condition]
    have body {d d' : Drawing} (h : Abreast r d d') := placeTasks_abreast hr ht h
    exact ⟨draw_abreast (body (draw_abreast (draw_abreast h))).1,
      .loop (paired_draw (paired_placeTasks (paired_draw (draw_paired h))))
        (paired_draw (paired_placeTasks (draw_paired (draw_abreast h))))
        ((body (draw_abreast (draw_abreast h))).2.imp fun _ _ hp => paired_draw hp)
        (draw_paired (body (draw_abreast (draw_abreast h))).1)⟩

/-- Slots are filled at the same places, with figures that match. -/
private theorem placeSlots_abreast {entries others : List Entry} (he : List.Forall₂ (AlikeEntries r) entries others)
    {d d' : Drawing} (h : Abreast r d d') : Abreast r (placeSlots entries d).2 (placeSlots others d').2 ∧
      List.Forall₂ (Option.Rel (Figure.Matches
          (Paired (placeSlots entries d).2.nodeIds (placeSlots others d').2.nodeIds)))
        (placeSlots entries d).1 (placeSlots others d').1 := by
  induction he generalizing d d' with
  | nil => exact ⟨h, .nil⟩
  | cons hentry _ ih =>
    cases hentry with
    | ok he =>
      obtain ⟨hfirst, hx⟩ := place_abreast hr he h
      refine (ih hfirst).imp_right fun hxs => .cons (.some (hx.imp fun _ _ hp => ?_)) hxs
      exact paired_grows hp (placeSlots_grows _ _) (placeSlots_grows _ _)
    | @error e e' hu =>
      obtain ⟨hlater, hxs⟩ := ih h
      simp only [placeSlots, hu]
      refine ⟨hlater, ?_⟩
      cases e'.isUntyped with
      | true => exact hxs
      | false => exact .cons .none hxs

end place

end Drawing

namespace Diagram
open Drawing
variable {p q : ProcessDescription}

section parallel
variable {p q : ProcessDescription} (h : Parallel p.entries q.entries)
include h

private theorem placed_abreast :
    Abreast (Paired (taskNames p.entries) (taskNames q.entries)) (placed p).2 (placed q).2 ∧
    List.Forall₂ (Option.Rel (Figure.Matches (Paired (placed p).2.nodeIds (placed q).2.nodeIds)))
      (placed p).1 (placed q).1 :=
  placeSlots_abreast (biUnique_of_pattern h.tasks) h.alike ⟨rfl, .nil⟩

private theorem ends_match :
    List.Forall₂ (Option.Rel (Endpoints.Matches (Paired (placed p).2.nodeIds (placed q).2.nodeIds)))
    (ends p) (ends q) := by
  refine List.rel_map (fun x y hx => ?_) (placed_abreast h).2
  cases hx with
  | none => exact .none
  | some hx => exact .some hx.ends

private theorem edges_match : List.Forall₂ (Edge.Matches (Paired (placed p).2.nodeIds (placed q).2.nodeIds))
    (drawing p).canvas.edges (drawing q).canvas.edges := by
  have hunique := biUnique_of_nodup (placed_coherent p).nodeIds_nodup (placed_coherent q).nodeIds_nodup
  have hfigures : List.Forall₂ (Figure.Matches (Paired (placed p).2.nodeIds (placed q).2.nodeIds)) (figures p)
      (figures q) := List.rel_filterMap (fun _ _ hx => hx) (placed_abreast h).2
  rw [drawing_edges, drawing_edges]
  exact List.rel_append (List.rel_flatMap hfigures fun _ _ hx => hx.edges hunique) (matches_joints (ends_match h))

/-- A drawing depends on the names in it only so far as they tell tasks apart. Flows that are parallel give main
clusters with nodes of the same kinds in the same order and with the same edges between them, position by position,
and reports with the same counts. -/
theorem drawn_up_to_names : ∃ main other,
    (ofProcess p).graph.subgraph? mainCluster = some main ∧
    (ofProcess q).graph.subgraph? mainCluster = some other ∧
    (main.nodes.map (·.id)).Nodup ∧ (other.nodes.map (·.id)).Nodup ∧
    main.nodes.map (·.kind) = other.nodes.map (·.kind) ∧
    List.Forall₂ (Edge.Matches (Paired (main.nodes.map (·.id)) (other.nodes.map (·.id)))) main.edges other.edges ∧
    (ofProcess p).report.total = (ofProcess q).report.total ∧
    (ofProcess p).report.compiled = (ofProcess q).report.compiled ∧
    (ofProcess p).report.links = (ofProcess q).report.links ∧
    (ofProcess p).report.tasks = (ofProcess q).report.tasks ∧
    (ofProcess p).report.ids = (ofProcess q).report.ids := by
  have habreast := (placed_abreast h).1
  have hfilled : List.Forall₂ (Option.Rel (Endpoints.Matches (Paired (placed p).2.nodeIds (placed q).2.nodeIds)))
      ((ends p).filter Option.isSome) ((ends q).filter Option.isSome) :=
    List.rel_filter (fun _ _ hx => by cases hx <;> simp) (ends_match h)
  have hids (p : ProcessDescription) : (drawing p).registry.count = (placed p).2.nodeIds.length + 1 := by
    have hi := (drawing_coherent p).issued
    rw [Registry.count, hi, nodeIds, nodes_drawing]
    rfl
  refine ⟨_, _, main_of_ofProcess p, main_of_ofProcess q, (drawing_coherent p).nodeIds_nodup,
    (drawing_coherent q).nodeIds_nodup, ?_, ?_, ?_⟩
  · rw [nodes_drawing, nodes_drawing]
    exact habreast.kinds
  · rw [nodes_drawing, nodes_drawing]
    exact edges_match h
  · rw [report_ofProcess, report_ofProcess]
    refine ⟨h.length_eq, hfilled.length_eq, (matches_joints (ends_match h)).length_eq, ?_, ?_⟩
    · rw [ledger_drawing, ledger_drawing]
      exact habreast.ledgers.length_eq
    · exact (hids p).trans (habreast.length_eq ▸ (hids q).symm)

end parallel

/-- Two parallel flows. No id collides in the first; in the second those of the event and of both tasks do. -/
def plain : ProcessDescription :=
  .ofElements [.event { name := "Start" }, .task { name := "Pack" }, .task { name := "Ship" },
    .gateway { name := "g", branches := [{ condition := some "late?", tasks := [.name "Pack"] }, {}] }]

def colliding : ProcessDescription :=
  .ofElements [.event { name := "START" }, .task { name := "evento START" }, .task { name := "eventoSTART" },
    .gateway { name := "", branches := [{ condition := some "-", tasks := [.name "evento START"] }, {}] }]

theorem collisions_drawn_alike : (ofProcess plain).report.collisions = 0 ∧ (ofProcess colliding).report.collisions = 2 ∧
    (ofProcess plain).report.ids = (ofProcess colliding).report.ids ∧
    ∃ main other, (ofProcess plain).graph.subgraph? mainCluster = some main ∧
      (ofProcess colliding).graph.subgraph? mainCluster = some other ∧
      main.nodes.map (·.kind) = other.nodes.map (·.kind) ∧
      List.Forall₂ (Edge.Matches (Paired (main.nodes.map (·.id)) (other.nodes.map (·.id)))) main.edges other.edges := by
  have h : Parallel plain.entries colliding.entries := by
    have hp : taskNames plain.entries = ["Pack", "Ship", "Pack"] := by decide +kernel
    have hc : taskNames colliding.entries = ["evento START", "eventoSTART", "evento START"] := by decide +kernel
    refine ⟨by decide +kernel, fun i j => ?_⟩
    rw [hp, hc]
    rcases i with _ | _ | _ | i <;> rcases j with _ | _ | _ | j <;> simp
  obtain ⟨main, other, hmain, hother, _, _, hkinds, hedges, _, _, _, _, hids⟩ := drawn_up_to_names h
  exact ⟨by decide +kernel, by decide +kernel, hids, main, other, hmain, hother, hkinds, hedges⟩

end Diagram

end ProcessDiagram
