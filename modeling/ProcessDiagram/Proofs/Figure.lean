import Mathlib.Data.List.Nodup
import ProcessDiagram.Diagram.Drawing
import ProcessDiagram.Proofs.Lists

/-! The nodes that stand for an element of a process, and the edges between them. -/
namespace ProcessDiagram

def Joined (edges : List Edge) (a b : String) : Prop := ∃ e ∈ edges, e.source = a ∧ e.target = b

instance (edges : List Edge) (a b : String) : Decidable (Joined edges a b) :=
  inferInstanceAs (Decidable (∃ e ∈ edges, e.source = a ∧ e.target = b))

theorem Joined.mono {edges later : List Edge} {a b : String} (h : Joined edges a b) (hs : edges ⊆ later) :
    Joined later a b := h.imp fun _ he => ⟨hs he.1, he.2⟩

theorem joined_append {edges later : List Edge} {a b : String} :
    Joined (edges ++ later) a b ↔ Joined edges a b ∨ Joined later a b := by
  simp only [Joined, List.mem_append, or_and_right, exists_or]

def solid (edges : List Edge) : List Edge := edges.filter (·.style = .solid)

theorem mem_solid {edges : List Edge} {e : Edge} : e ∈ solid edges ↔ e ∈ edges ∧ e.style = .solid := by
  simp [solid]

theorem solid_append (edges later : List Edge) : solid (edges ++ later) = solid edges ++ solid later :=
  List.filter_append _ _

def trail (cursor : String) : List String → List Edge
  | [] => []
  | id :: rest => .flow cursor id :: trail id rest

theorem trail_append (cursor : String) (ids later : List String) :
    trail cursor (ids ++ later) = trail cursor ids ++ trail (ids.getLastD cursor) later := by
  induction ids generalizing cursor with
  | nil => rfl
  | cons id rest ih =>
    simp only [List.cons_append, trail, List.getLastD_cons, ih]

@[simp] theorem sources_trail (cursor : String) (ids : List String) :
    (trail cursor ids).map (·.source) = (cursor :: ids).dropLast := by
  induction ids generalizing cursor with
  | nil => rfl
  | cons id rest ih =>
    rw [trail, List.map_cons, ih]
    rfl

@[simp] theorem targets_trail (cursor : String) (ids : List String) : (trail cursor ids).map (·.target) = ids := by
  induction ids generalizing cursor with
  | nil => rfl
  | cons id rest ih =>
    rw [trail, List.map_cons, ih]
    rfl

theorem mem_of_mem_trail {cursor : String} {ids : List String} {e : Edge} (h : e ∈ trail cursor ids) :
    e.source ∈ (cursor :: ids).dropLast ∧ e.target ∈ ids := by
  refine ⟨?_, ?_⟩
  · rw [← sources_trail]
    exact List.mem_map_of_mem h
  · rw [← targets_trail cursor ids]
    exact List.mem_map_of_mem h

/-- The last node of a trail leads nowhere. -/
theorem source_of_mem_trail {cursor last : String} {ids : List String} {e : Edge}
    (h : e ∈ trail cursor (ids ++ [last])) : e.source ∈ cursor :: ids := by
  have hs := (mem_of_mem_trail h).1
  rwa [← List.cons_append, List.dropLast_concat] at hs

theorem flow_of_mem_trail {cursor : String} {ids : List String} {e : Edge} (h : e ∈ trail cursor ids) :
    ∃ a b, e = .flow a b := by
  induction ids generalizing cursor with
  | nil => cases h
  | cons id rest ih =>
    rcases List.mem_cons.mp h with rfl | h
    · exact ⟨cursor, id, rfl⟩
    · exact ih h

theorem style_of_mem_trail {cursor : String} {ids : List String} {e : Edge} (h : e ∈ trail cursor ids) :
    e.style = .solid := by
  obtain ⟨_, _, rfl⟩ := flow_of_mem_trail h
  rfl

structure Arm where
  condition : Option String
  tasks : List String
deriving DecidableEq, Repr

namespace Arm

def stops (a : Arm) : List String := a.condition.toList ++ a.tasks

/-- The node before the merge, which is the decision itself for a branch without nodes. -/
def last (decision : String) (a : Arm) : String := a.stops.getLastD decision

@[simp] theorem stops_some (c : String) (ts : List String) : stops ⟨some c, ts⟩ = c :: ts := rfl

@[simp] theorem last_some (decision c : String) (ts : List String) : last decision ⟨some c, ts⟩ = ts.getLastD c :=
  List.getLastD_cons

end Arm

inductive Figure where
  | event (node : String) (note : Option String)
  | task (node : String)
  | gateway (decision merge : String) (arms : List Arm)
  | loop (start stop : String) (tasks : List String) (test : String)
deriving Repr

namespace Figure

def ends : Figure → Endpoints
  | event id _ => .single id
  | task id => .single id
  | gateway decision merge _ => ⟨decision, merge⟩
  | loop start stop _ _ => ⟨start, stop⟩

/-- Nodes that no other element shares. -/
def own : Figure → List String
  | event id note => id :: note.toList
  | task _ => []
  | gateway decision merge arms => decision :: merge :: arms.flatMap (·.condition.toList)
  | loop start stop _ test => [start, stop, test]

/-- Task nodes reached inside a branch or a loop, once for each mention. -/
def inner : Figure → List String
  | event _ _ => []
  | task _ => []
  | gateway _ _ arms => arms.flatMap (·.tasks)
  | loop _ _ tasks _ => tasks

def tasks : Figure → List String
  | task id => [id]
  | x => x.inner

/-- Branch after branch; a node that is joined to the merge already is not joined again. -/
def armEdges (decision merge : String) : List String → List Arm → List Edge
  | _, [] => []
  | joined, a :: rest =>
    trail decision a.stops ++
      if a.last decision ∈ joined then armEdges decision merge joined rest
      else .flow (a.last decision) merge :: armEdges decision merge (a.last decision :: joined) rest

def edges : Figure → List Edge
  | event id note => note.toList.map (.note id)
  | task _ => []
  | gateway decision merge arms => armEdges decision merge [] arms
  | loop start stop tasks test =>
    trail start (tasks ++ [test]) ++ [(Edge.flow test start).nonConstraining, .flow test stop]

private theorem mem_armEdges {decision merge : String} {joined : List String} {arms : List Arm} {e : Edge} :
    e ∈ armEdges decision merge joined arms ↔ ∃ a ∈ arms, e ∈ trail decision a.stops ∨
      e = .flow (a.last decision) merge ∧ a.last decision ∉ joined := by
  induction arms generalizing joined with
  | nil => simp [armEdges]
  | cons a rest ih =>
    simp only [armEdges, List.mem_append, List.exists_mem_cons_iff, or_assoc]
    refine or_congr_right ?_
    by_cases hl : a.last decision ∈ joined
    · simp [hl, ih]
    · simp only [hl, if_false, List.mem_cons, ih, not_false_eq_true, and_true]
      refine or_congr_right' fun he => exists_congr fun b => and_congr_right fun _ => or_congr_right ?_
      refine and_congr_right fun hb => ?_
      -- a second edge from the same node would be the first one
      have hne : b.last decision ≠ a.last decision := fun h => he (h ▸ hb)
      simp [hne]

/-- Taken together, the branches are drawn in full: what is left out is there already. -/
theorem mem_gateway_edges {decision merge : String} {arms : List Arm} {e : Edge} :
    e ∈ (gateway decision merge arms).edges ↔ ∃ a ∈ arms, e ∈ trail decision (a.stops ++ [merge]) := by
  simp [edges, mem_armEdges, trail_append, trail, Arm.last]

theorem mem_loop_edges {start stop test : String} {tasks : List String} {e : Edge} :
    e ∈ (loop start stop tasks test).edges ↔ e ∈ trail start (tasks ++ [test]) ∨
      e = (Edge.flow test start).nonConstraining ∨ e = .flow test stop := by
  simp [edges]

def nodes (x : Figure) : List String := x.own ++ x.tasks

/-- An element's edges stay among its nodes. -/
theorem mem_of_mem_edges {x : Figure} {e : Edge} (h : e ∈ x.edges) : e.source ∈ x.nodes ∧ e.target ∈ x.nodes := by
  cases x with
  | event id note =>
    obtain ⟨n, hn, rfl⟩ := List.mem_map.mp h
    exact ⟨by simp [nodes, own, Edge.note], by simpa [nodes, own, Edge.note, tasks, inner] using Or.inr hn⟩
  | task id => cases h
  | gateway decision merge arms =>
    obtain ⟨a, ha, he⟩ := mem_gateway_edges.mp h
    have hsub : a.stops ⊆ (gateway decision merge arms).nodes := by
      intro id hid
      simp only [Arm.stops, List.mem_append] at hid
      simp only [nodes, own, tasks, inner, List.mem_append, List.mem_cons, List.mem_flatMap]
      exact hid.elim (fun h => Or.inl (Or.inr (Or.inr ⟨a, ha, h⟩))) fun h => Or.inr ⟨a, ha, h⟩
    have hmem : ∀ id ∈ decision :: (a.stops ++ [merge]), id ∈ (gateway decision merge arms).nodes := by
      intro id hid
      simp only [List.mem_cons, List.mem_append, List.not_mem_nil, or_false] at hid
      rcases hid with rfl | hid | rfl
      · simp [nodes, own]
      · exact hsub hid
      · simp [nodes, own]
    obtain ⟨hs, ht⟩ := mem_of_mem_trail he
    exact ⟨hmem _ (List.dropLast_subset _ hs), hmem _ (List.mem_cons_of_mem _ ht)⟩
  | loop start stop body test =>
    have hmem : ∀ id ∈ start :: (body ++ [test]), id ∈ (loop start stop body test).nodes := by
      intro id hid
      simp only [List.mem_cons, List.mem_append, List.not_mem_nil, or_false] at hid
      simp only [nodes, own, tasks, inner, List.mem_append, List.mem_cons]
      tauto
    rcases mem_loop_edges.mp h with he | rfl | rfl
    · obtain ⟨hs, ht⟩ := mem_of_mem_trail he
      exact ⟨hmem _ (List.dropLast_subset _ hs), hmem _ (List.mem_cons_of_mem _ ht)⟩
    · simp [nodes, own, Edge.flow, Edge.nonConstraining]
    · simp [nodes, own, Edge.flow]

end Figure

end ProcessDiagram
