import ProcessDiagram.Proofs.Place
import ProcessDiagram.Proofs.Route

/-! The runs of a process: what they visit, and the routes through the figures that show them. -/
namespace ProcessDiagram

def Gateway.branchVisits (g : Gateway) (i j : Nat) (b : Branch) : List Place :=
  (if g.kind = .xor ∧ b.condition.getD "" ≠ "" then [.spot i (.condition j)] else []) ++
    b.tasks.map fun t => .task t.taskName

def Loop.passVisits (l : Loop) (i : Nat) : List Place :=
  .spot i .start :: ((l.tasks.map fun t => .task t.taskName) ++ [.spot i .test])

inductive FlowElement.Run (i : Nat) : FlowElement → List Place → Prop where
  | event (e : Event) : Run i (.event e) [.spot i .event]
  | task (t : Task) : Run i (.task t) [.task t.name]
  | gateway {g : Gateway} {j : Nat} {b : Branch} (h : g.branches[j]? = some b) :
    Run i (.gateway g) (.spot i .decision :: (g.branchVisits i j b ++ [.spot i .merge]))
  | loop (l : Loop) (n : Nat) :
    Run i (.loop l) ((List.replicate (n + 1) (l.passVisits i)).flatten ++ [.spot i .stop])

/-- The runs of the elements from a position on. -/
inductive ProcessRun : Nat → List FlowElement → List Place → Prop where
  | nil (i : Nat) : ProcessRun i [] []
  | cons {i : Nat} {e : FlowElement} {rest : List FlowElement} {v w : List Place} (first : e.Run i v)
    (later : ProcessRun (i + 1) rest w) : ProcessRun i (e :: rest) (v ++ w)

private theorem branchCondition_eq_none {g : Gateway} {b : Branch} :
    Drawing.branchCondition g b = none ↔ ¬ (g.kind = .xor ∧ b.condition.getD "" ≠ "") := by
  cases hb : b.condition <;> simp [Drawing.branchCondition, Branch.conditionText, hb]

namespace Diagram
variable {p : ProcessDescription} {i : Nat}

abbrev Shown (p : ProcessDescription) (visits : List Place) (walk : List String) : Prop :=
  List.Forall₂ (fun place id => node? p place = some id) visits walk

private theorem shown_tasks {refs : List TaskRef} {ids : List String}
    (h : List.Forall₂ (fun t id => (placed p).2.ledger.get? t.taskName = some id) refs ids) :
    Shown p (refs.map fun t => .task t.taskName) ids :=
  List.forall₂_map_left_iff.mpr (by simpa [node?] using h)

private theorem shown_branch {g : Gateway} {decision merge : String} {arms : List Arm} {j : Nat} {b : Branch} {a : Arm}
    (hx : (figures p)[i]? = some (.gateway decision merge arms)) (ha : arms[j]? = some a)
    (hb : (placed p).2.DepictsBranch g b a) : Shown p (g.branchVisits i j b) a.stops := by
  refine List.rel_append ?_ (shown_tasks hb.tasks)
  have hn : ¬ (g.kind = .xor ∧ b.condition.getD "" ≠ "") ↔ a.condition = none :=
    branchCondition_eq_none.symm.trans (rel_eq_none hb.condition)
  cases hc : a.condition with
  | none =>
    rw [if_neg (hn.mpr hc)]
    exact .nil
  | some c =>
    rw [if_pos (by_contra fun h => by simp [hn.mp h] at hc)]
    refine .cons ?_ .nil
    rw [node?_spot hx, Figure.spot?, ha]
    exact hc

private theorem shown_gateway {g : Gateway} {decision merge : String} {arms : List Arm} {j : Nat} {b : Branch} {a : Arm}
    (hx : (figures p)[i]? = some (.gateway decision merge arms)) (ha : arms[j]? = some a)
    (hb : (placed p).2.DepictsBranch g b a) :
    Shown p (.spot i .decision :: (g.branchVisits i j b ++ [.spot i .merge])) (decision :: (a.stops ++ [merge])) :=
  .cons (node?_spot hx _) (List.rel_append (shown_branch hx ha hb) (.cons (node?_spot hx _) .nil))

private theorem shown_passes {visits : List Place} {walk : List String} (h : Shown p visits walk) (n : Nat) :
    Shown p (List.replicate n visits).flatten (List.replicate n walk).flatten := by
  induction n with
  | zero => exact .nil
  | succ n ih => exact List.rel_append h ih

private theorem shown_loop {l : Loop} {start stop test : String} {tasks : List String}
    (hx : (figures p)[i]? = some (.loop start stop tasks test))
    (hb : List.Forall₂ (fun t id => (placed p).2.ledger.get? t.taskName = some id) l.tasks tasks) (n : Nat) :
    Shown p ((List.replicate n (l.passVisits i)).flatten ++ [.spot i .stop])
      ((List.replicate n (Figure.pass start test tasks)).flatten ++ [stop]) := by
  have hpass : Shown p (l.passVisits i) (Figure.pass start test tasks) :=
    .cons (node?_spot hx _) (List.rel_append (shown_tasks hb) (.cons (node?_spot hx _) .nil))
  exact List.rel_append (shown_passes hpass n) (.cons (node?_spot hx _) .nil)

section element
variable {e : FlowElement} {x : Figure} (hd : (placed p).2.Depicts e x) (hx : (figures p)[i]? = some x)
include hd hx

/-- A run of an element takes one of the routes through its figure. -/
private theorem route_of_run {visits : List Place} (h : e.Run i visits) : ∃ w, x.Route w ∧ Shown p visits w := by
  cases h with
  | event =>
    cases hd with
    | event => exact ⟨_, .event _ _, .cons (node?_spot hx _) .nil⟩
  | task t =>
    cases hd with
    | task node => exact ⟨_, .task _, .cons (by simpa [node?] using node) .nil⟩
  | @gateway g j b hj =>
    cases hd with
    | @gateway _ decision merge arms _ _ between =>
      have hr := rel_getElem? between j
      rw [hj] at hr
      generalize ha : arms[j]? = arm at hr
      cases hr with
      | some hb => exact ⟨_, .gateway decision merge (List.mem_of_getElem? ha), shown_gateway hx ha hb⟩
  | loop l n =>
    cases hd with
    | loop _ _ body => exact ⟨_, .loop _ _ _ _ n, shown_loop hx body (n + 1)⟩

/-- Each route through the figure of an element shows a run of it. -/
private theorem run_of_route {w : List String} (h : x.Route w) : ∃ visits, e.Run i visits ∧ Shown p visits w := by
  cases h with
  | event =>
    cases hd with
    | event => exact ⟨_, .event _, .cons (node?_spot hx _) .nil⟩
  | task =>
    cases hd with
    | task node => exact ⟨_, .task _, .cons (by simpa [node?] using node) .nil⟩
  | @gateway decision merge arms a ha =>
    cases hd with
    | @gateway g _ _ _ _ _ between =>
      obtain ⟨j, hj⟩ := List.getElem?_of_mem ha
      have hr := rel_getElem? between j
      rw [hj] at hr
      generalize hg : g.branches[j]? = branch at hr
      cases hr with
      | some hb => exact ⟨_, .gateway hg, shown_gateway hx hj hb⟩
  | loop start stop tasks test n =>
    cases hd with
    | loop _ _ body => exact ⟨_, .loop _ n, shown_loop hx body (n + 1)⟩

end element

section flow
variable {es : List FlowElement} {xs : List Figure}

theorem routes_of_run {visits : List Place} (h : ProcessRun i es visits)
    (hd : List.Forall₂ (placed p).2.Depicts es xs) (hx : (figures p).drop i = xs) :
    ∃ w, Figure.Routes xs w ∧ Shown p visits w := by
  induction h generalizing xs with
  | nil =>
    cases hd
    exact ⟨_, .nil, .nil⟩
  | cons first later ih =>
    cases hd with
    | cons he hr =>
      obtain ⟨hi, hx⟩ := drop_succ hx
      obtain ⟨v, hv, hsv⟩ := route_of_run he hi first
      obtain ⟨w, hw, hsw⟩ := ih hr hx
      exact ⟨v ++ w, .cons hv hw, List.rel_append hsv hsw⟩

theorem run_of_routes {w : List String} (h : Figure.Routes xs w)
    (hd : List.Forall₂ (placed p).2.Depicts es xs) (hx : (figures p).drop i = xs) :
    ∃ visits, ProcessRun i es visits ∧ Shown p visits w := by
  induction h generalizing es i with
  | nil =>
    cases hd
    exact ⟨_, .nil i, .nil⟩
  | cons first later ih =>
    cases hd with
    | cons he hr =>
      obtain ⟨hi, hx⟩ := drop_succ hx
      obtain ⟨v, hv, hsv⟩ := run_of_route he hi first
      obtain ⟨w, hw, hsw⟩ := ih hr hx
      exact ⟨v ++ w, .cons hv hw, List.rel_append hsv hsw⟩

end flow

end Diagram
end ProcessDiagram
