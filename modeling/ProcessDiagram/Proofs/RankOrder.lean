import Mathlib.Data.List.Flatten
import ProcessDiagram.Proofs.DistinctIds
import ProcessDiagram.Proofs.TaskNodes
import ProcessDiagram.Proofs.WalkRun

/-! The ranking of nodes. All nodes of a diagram are lined up along the flow, with the node of a task once for each
mention, and no edge that takes part in the ranking goes backwards: only a task that is mentioned twice closes a
cycle. -/
namespace ProcessDiagram

def constraining (edges : List Edge) : List Edge := edges.filter (·.constraint)

private theorem mem_constraining {edges : List Edge} {e : Edge} : e ∈ constraining edges ↔ e ∈ edges ∧ e.constraint :=
  List.mem_filter

structure Cycle (edges : List Edge) (walk : List String) : Prop where
  chain : List.IsChain (Joined edges) walk
  moves : 2 ≤ walk.length
  closed : walk.head? = walk.getLast?

/-- Whatever the heights of the nodes, some step of a cycle does not go up. -/
private theorem Cycle.exists_not_lt {edges : List Edge} {walk : List String} (h : Cycle edges walk)
    (height : String → Nat) : ∃ e ∈ edges, e.target ∈ walk ∧ ¬ height e.source < height e.target := by
  by_contra hup
  push Not at hup
  have hchain : List.IsChain (· < ·) (walk.map height) := by
    refine (List.isChain_map height).mpr (h.chain.imp_of_mem_imp ?_)
    rintro _ _ _ hb ⟨e, he, rfl, rfl⟩
    exact hup e he hb
  match walk, h with
  | a :: b :: rest, h =>
    have hlast : (b :: rest).getLast? = some a := by
      rw [← List.getLast?_cons_cons]
      exact h.closed.symm
    have hpair := (List.pairwise_cons.mp (List.isChain_iff_pairwise.mp hchain)).1
    exact Nat.lt_irrefl _ (hpair _ (List.mem_map_of_mem (List.mem_of_getLast? hlast)))
  | [a], h => exact Nat.lt_irrefl 1 h.moves
  | [], h => exact Nat.not_succ_le_zero 1 h.moves

private theorem sublist_trail {cursor : String} {ids : List String} {e : Edge} (h : e ∈ trail cursor ids) :
    [e.source, e.target].Sublist (cursor :: ids) := by
  induction ids generalizing cursor with
  | nil => cases h
  | cons id rest ih =>
    rcases List.mem_cons.mp h with rfl | h
    · exact ((List.nil_sublist rest).cons_cons id).cons_cons cursor
    · exact (ih h).cons cursor

namespace Figure

/-- The nodes of an element from its entry to its exit, whatever the order in which they are drawn. -/
def order : Figure → List String
  | event id note => id :: note.toList
  | task id => [id]
  | gateway decision merge arms => decision :: (arms.flatMap Arm.stops ++ [merge])
  | loop start stop tasks test => pass start test tasks ++ [stop]

private theorem order_perm (x : Figure) : x.order.Perm x.nodes := by
  cases x with
  | event id note => exact .of_eq (List.append_nil _).symm
  | task id => rfl
  | gateway decision merge arms =>
    exact (List.perm_append_singleton merge (decision :: arms.flatMap Arm.stops)).trans (perm_gateway _ _ _).symm
  | loop start stop tasks test => exact (List.perm_append_singleton stop _).trans (perm_loop _ _ _ _).symm

/-- The edge back to the start of a loop is the only one against the order, and it takes no part in the ranking. -/
private theorem sublist_order {x : Figure} {e : Edge} (he : e ∈ x.edges) (hc : e.constraint) :
    [e.source, e.target].Sublist x.order := by
  cases x with
  | event id note =>
    obtain ⟨n, hn, rfl⟩ := List.mem_map.mp he
    exact (List.singleton_sublist.mpr hn).cons_cons id
  | task => cases he
  | gateway decision merge arms =>
    obtain ⟨a, ha, he⟩ := mem_gateway_edges.mp he
    have hs : a.stops.Sublist (arms.flatMap Arm.stops) := List.sublist_flatten_of_mem (List.mem_map_of_mem ha)
    exact (sublist_trail he).trans ((hs.append_right [merge]).cons_cons decision)
  | loop start stop tasks test =>
    rcases mem_loop_edges.mp he with he | rfl | rfl
    · exact (sublist_trail he).trans (List.sublist_append_left _ _)
    · cases hc
    · exact (List.sublist_append_right (start :: tasks) [test]).append_right [stop]

private theorem entry_mem_order (x : Figure) : x.ends.entry ∈ x.order := x.order_perm.mem_iff.mpr x.entry_mem

private theorem exit_mem_order (x : Figure) : x.ends.exit ∈ x.order := x.order_perm.mem_iff.mpr x.exit_mem

/-- Joints lead onwards. -/
private theorem sublist_joints {slots : List (Option Figure)} {e : Edge}
    (h : e ∈ Drawing.joints (slots.map (Option.map ends))) :
    [e.source, e.target].Sublist (slots.reduceOption.flatMap order) := by
  induction slots with
  | nil => cases h
  | cons x rest ih =>
    have later (h : e ∈ Drawing.joints (rest.map (Option.map ends))) :
        [e.source, e.target].Sublist ((x :: rest).reduceOption.flatMap order) :=
      (ih h).trans (((List.sublist_cons_self x rest).filterMap id).flatMap order)
    cases rest with
    | nil => cases x <;> cases h
    | cons y rest =>
      rw [List.map_cons, List.map_cons, joints_cons_cons, List.mem_append] at h
      rcases h with h | h
      · cases x with
        | none => cases h
        | some x =>
          cases y with
          | none => cases h
          | some y =>
            obtain rfl := List.mem_singleton.mp h
            have hy : y.ends.entry ∈ (some y :: rest).reduceOption.flatMap order :=
              List.mem_append_left (rest.reduceOption.flatMap order) y.entry_mem_order
            exact (List.singleton_sublist.mpr x.exit_mem_order).append (List.singleton_sublist.mpr hy)
      · exact later h

end Figure

theorem mem_of_trailingEvent {entries : List Entry} {slots : List (Option Endpoints)} {exit : String}
    (h : exit ∈ trailingEvent entries slots) : ∃ ends, some ends ∈ slots ∧ ends.exit = exit := by
  unfold trailingEvent at h
  split at h
  · rename_i hs
    cases h
    exact ⟨_, List.mem_of_getLast? hs, rfl⟩
  · cases h

namespace Diagram
open Drawing

def lineUp (p : ProcessDescription) : List String :=
  (figures p).flatMap Figure.order ++ spacerId :: legend.allNodes.map (·.id)

private theorem sublist_legend : ∀ e ∈ constraining legend.allEdges,
    [e.source, e.target].Sublist (legend.allNodes.map (·.id)) := by decide +kernel

/-- No edge that takes part in the ranking goes backwards. -/
private theorem sublist_lineUp {p : ProcessDescription} {e : Edge} (h : e ∈ constraining (ofProcess p).graph.edges) :
    [e.source, e.target].Sublist (lineUp p) := by
  obtain ⟨he, hc⟩ := mem_constraining.mp h
  have within {l : List String} (hl : l.Sublist ((figures p).flatMap Figure.order)) : l.Sublist (lineUp p) :=
    hl.trans (List.sublist_append_left _ _)
  rw [edges_ofProcess, drawing_edges] at he
  simp only [List.mem_append] at he
  rcases he with he | (he | he) | he
  -- to the spacer
  · obtain ⟨exit, hexit, rfl⟩ := List.mem_map.mp he
    obtain ⟨ends, hends, rfl⟩ := mem_of_trailingEvent (Option.mem_toList.mp hexit)
    obtain ⟨slot, hslot, hx⟩ := List.mem_map.mp hends
    obtain ⟨x, rfl, rfl⟩ := Option.map_eq_some_iff.mp hx
    have hm : x.ends.exit ∈ (figures p).flatMap Figure.order :=
      List.mem_flatMap.mpr ⟨x, List.reduceOption_mem_iff.mpr hslot, x.exit_mem_order⟩
    exact (List.singleton_sublist.mpr hm).append ((List.nil_sublist _).cons_cons spacerId)
  -- within an element
  · obtain ⟨x, hx, he⟩ := List.mem_flatMap.mp he
    exact within ((Figure.sublist_order he hc).trans (List.sublist_flatten_of_mem (List.mem_map_of_mem hx)))
  -- between elements
  · exact within (Figure.sublist_joints he)
  -- in the legend
  · have hl := sublist_legend e (mem_constraining.mpr ⟨he, hc⟩)
    exact (hl.cons spacerId).trans (List.sublist_append_right _ _)

/-- Only the node of a task that is mentioned twice has two places in the line. -/
private theorem mentioned_twice {p : ProcessDescription} {id : String} (h : 2 ≤ (lineUp p).count id) :
    ∃ name, (placed p).2.ledger.get? name = some id ∧ 2 ≤ ((taskMentions p.entries).map (·.1)).count name := by
  have hd := placed_coherent p
  let others := (figures p).flatMap Figure.own ++ spacerId :: legend.allNodes.map (·.id)
  have hnodup : others.Nodup := by
    have hown : ((figures p).flatMap Figure.own).Sublist (placed p).2.nodeIds :=
      ownIds_placed p ▸ List.filter_sublist.map _
    exact (ids_apart p).sublist (hown.append_right _)
  have hcount : (lineUp p).count id = others.count id + ((figures p).flatMap Figure.tasks).count id := by
    have hp : ((figures p).flatMap Figure.order).Perm
        ((figures p).flatMap Figure.own ++ (figures p).flatMap Figure.tasks) :=
      (List.Perm.flatMap_left _ fun x _ => x.order_perm).trans (List.flatMap_append_perm _ _ _).symm
    simp only [lineUp, others, List.count_append, hp.count_eq]
    omega
  have hothers := List.nodup_iff_count_le_one.mp hnodup id
  have hid : id ∈ (figures p).flatMap Figure.tasks := List.count_pos_iff.mp (by omega)
  obtain ⟨m, _, hm⟩ := exists_of_forall₂ (mentions_tasks p).flip hid
  have ht : id ∈ (placed p).2.taskIds := mem_taskIds hm
  have ho : id ∉ others := by
    intro ho
    rcases List.mem_append.mp ho with ho | ho
    · exact hd.disjoint (ownIds_placed p ▸ ho) ht
    · exact List.disjoint_of_nodup_append (ids_apart p) (hd.taskIds_subset ht) ho
  have hmentions := count_mentions hd hm (mentions_tasks p)
  rw [List.count_eq_zero.mpr ho] at hcount
  exact ⟨m.1, hm, by omega⟩

private theorem shared_of_cycle {p : ProcessDescription} {walk : List String}
    (h : Cycle (constraining (ofProcess p).graph.edges) walk) : ∃ id ∈ walk, ∃ name,
      (placed p).2.ledger.get? name = some id ∧ 2 ≤ ((taskMentions p.entries).map (·.1)).count name := by
  obtain ⟨e, he, hwalk, hup⟩ := h.exists_not_lt (lineUp p).idxOf
  refine ⟨e.target, hwalk, mentioned_twice ?_⟩
  by_contra hc
  exact hup (idxOf_lt_idxOf (sublist_lineUp he) (by omega))

/-- Every cycle of edges that take part in the ranking passes through the node of a task that is mentioned at least
twice; where no task is, there are no such cycles. -/
theorem cycle_meets_shared_task (p : ProcessDescription) :
    ∃ main, (ofProcess p).graph.subgraph? mainCluster = some main ∧
      (∀ walk, Cycle (constraining (ofProcess p).graph.edges) walk →
        ∃ n ∈ main.nodes, n.kind = .task ∧ n.id ∈ walk ∧ ∃ name, (drawing p).ledger.get? name = some n.id ∧
          2 ≤ ((taskMentions p.entries).map (·.1)).count name) ∧
      (((taskMentions p.entries).map (·.1)).Nodup →
        ∀ walk, ¬ Cycle (constraining (ofProcess p).graph.edges) walk) := by
  refine ⟨_, main_of_ofProcess p, fun walk h => ?_, fun hun walk h => ?_⟩
  · obtain ⟨id, hwalk, name, hid, hcount⟩ := shared_of_cycle h
    have ht := mem_taskIds hid
    rw [(placed_coherent p).tasks] at ht
    obtain ⟨n, hn, rfl⟩ := List.mem_map.mp ht
    obtain ⟨hn, hk⟩ := List.mem_filter.mp hn
    rw [nodes_drawing, ledger_drawing]
    exact ⟨n, hn, of_decide_eq_true hk, hwalk, name, hid, hcount⟩
  · obtain ⟨_, _, name, _, hcount⟩ := shared_of_cycle h
    have := List.nodup_iff_count_le_one.mp hun name
    omega

def rework : ProcessDescription :=
  .ofElements [.task { name := "Pack" }, .task { name := "Check" }, .task { name := "Pack" }]

private theorem rework_cycle : Cycle (constraining (ofProcess rework).graph.edges) ["Pack", "Check", "Pack"] where
  chain := by decide +kernel
  moves := by decide
  closed := rfl

theorem rework_meets_shared_task :
    Cycle (constraining (ofProcess rework).graph.edges) ["Pack", "Check", "Pack"] ∧
    (∃ n ∈ (drawing rework).canvas.nodes, n.kind = .task ∧ n.id ∈ ["Pack", "Check", "Pack"] ∧
      ∃ name, (drawing rework).ledger.get? name = some n.id ∧
        2 ≤ ((taskMentions rework.entries).map (·.1)).count name) ∧
    ((taskMentions checkout.entries).map (·.1)).Nodup ∧
    ∀ walk, ¬ Cycle (constraining (ofProcess checkout).graph.edges) walk := by
  obtain ⟨main, hmain, hcycle, _⟩ := cycle_meets_shared_task rework
  rw [main_of_ofProcess] at hmain
  cases hmain
  obtain ⟨_, _, _, hacyclic⟩ := cycle_meets_shared_task checkout
  exact ⟨rework_cycle, hcycle _ rework_cycle, checkout_unshared, hacyclic checkout_unshared⟩

end Diagram
end ProcessDiagram
