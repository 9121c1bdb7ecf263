import ProcessDiagram.Proofs.MainFlow

/-! What the nodes of the main flow stand for. -/
namespace ProcessDiagram

inductive Spot where
  | event
  | decision
  | condition (branch : Nat)
  | merge
  | start
  | test
  | stop
deriving DecidableEq, Repr

/-- A task is one place however often it is mentioned; any other place is a part of the element at a
position. -/
inductive Place where
  | task (name : String)
  | spot (element : Nat) (part : Spot)
deriving DecidableEq, Repr

namespace FlowElement

def entryPlace (i : Nat) : FlowElement → Place
  | .event _ => .spot i .event
  | .task t => .task t.name
  | .gateway _ => .spot i .decision
  | .loop _ => .spot i .start

def exitPlace (i : Nat) : FlowElement → Place
  | .event _ => .spot i .event
  | .task t => .task t.name
  | .gateway _ => .spot i .merge
  | .loop _ => .spot i .stop

def caption : FlowElement → Spot → Option (String × NodeKind)
  | .event e, .event => some (e.name, Drawing.eventKind e.eventClass)
  | .gateway g, .decision => some ((Drawing.gatewayNode g.kind).glyph, Drawing.gatewayNode g.kind)
  | .gateway g, .merge => some ((Drawing.gatewayNode g.kind).glyph, Drawing.gatewayNode g.kind)
  | .gateway g, .condition j => (g.branches[j]?.bind (Drawing.branchCondition g)).map (·, .condition)
  | .loop _, .start => some ("", .loopMarker)
  | .loop _, .stop => some ("", .loopMarker)
  | .loop l, .test => some (l.conditionText, .condition)
  | _, _ => none

end FlowElement

/-- The label and the kind of a place; a task has the label of its first mention. -/
def Place.caption (elements : List FlowElement) : Place → Option (String × NodeKind)
  | task name => (firstLabel (elements.flatMap FlowElement.mentions) name).map (·, .task)
  | spot i part => elements[i]?.bind (·.caption part)

namespace Figure

def spot? : Figure → Spot → Option String
  | event id _, .event => some id
  | gateway decision _ _, .decision => some decision
  | gateway _ merge _, .merge => some merge
  | gateway _ _ arms, .condition j => arms[j]?.bind Arm.condition
  | loop start _ _ _, .start => some start
  | loop _ stop _ _, .stop => some stop
  | loop _ _ _ test, .test => some test
  | _, _ => none

private theorem spot?_gateway {decision merge id : String} {arms : List Arm} {part : Spot}
    (h : (gateway decision merge arms).spot? part = some id) :
    (part = .decision ∧ decision = id) ∨ (part = .merge ∧ merge = id) ∨
      ∃ j a, part = .condition j ∧ arms[j]? = some a ∧ id ∈ a.condition.toList := by
  cases part with
  | decision => exact Or.inl ⟨rfl, Option.some_inj.mp h⟩
  | merge => exact Or.inr (Or.inl ⟨rfl, Option.some_inj.mp h⟩)
  | condition j =>
    obtain ⟨a, ha, hc⟩ := Option.bind_eq_some_iff.mp h
    exact Or.inr (Or.inr ⟨j, a, rfl, ha, Option.mem_toList.mpr hc⟩)
  | _ => cases h

private theorem mem_own_of_spot? {x : Figure} {part : Spot} {id : String} (h : x.spot? part = some id) :
    id ∈ x.own := by
  cases x with
  | event => cases part <;> simp_all [spot?, own]
  | task => cases part <;> cases h
  | gateway decision merge arms =>
    obtain ⟨_, rfl⟩ | ⟨_, rfl⟩ | ⟨j, a, _, ha, hc⟩ := spot?_gateway h
    · exact List.mem_cons_self
    · exact List.mem_cons_of_mem _ List.mem_cons_self
    · have hm : id ∈ arms.flatMap (·.condition.toList) := List.mem_flatMap.mpr ⟨a, List.mem_of_getElem? ha, hc⟩
      exact List.mem_cons_of_mem _ (List.mem_cons_of_mem _ hm)
  | loop => cases part <;> simp_all [spot?, own]

end Figure

private theorem Figure.spot?_injective {x : Figure} (hn : x.own.Nodup) {s t : Spot} {id : String}
    (hs : x.spot? s = some id) (ht : x.spot? t = some id) : s = t := by
  cases x with
  | event => cases s <;> cases t <;> simp_all [spot?]
  | task => cases s <;> cases hs
  | gateway decision merge arms =>
    obtain ⟨hd, hn⟩ := List.nodup_cons.mp hn
    obtain ⟨hm, hn⟩ := List.nodup_cons.mp hn
    have hc {a : Arm} {j : Nat} (ha : arms[j]? = some a) {id : String} (hi : id ∈ a.condition.toList) :
        id ∈ arms.flatMap (·.condition.toList) := List.mem_flatMap.mpr ⟨a, List.mem_of_getElem? ha, hi⟩
    obtain ⟨rfl, rfl⟩ | ⟨rfl, rfl⟩ | ⟨j, a, rfl, ha, hi⟩ := spot?_gateway hs <;>
      obtain ⟨rfl, he⟩ | ⟨rfl, he⟩ | ⟨k, b, rfl, hb, hk⟩ := spot?_gateway ht
    · rfl
    · exact absurd (he ▸ List.mem_cons_self) hd
    · exact absurd (List.mem_cons_of_mem _ (hc hb hk)) hd
    · exact absurd (he ▸ List.mem_cons_self) hd
    · rfl
    · exact absurd (hc hb hk) hm
    · exact absurd (List.mem_cons_of_mem _ (he ▸ hc ha hi)) hd
    · exact absurd (he ▸ hc ha hi) hm
    · rw [index_unique hn ha hb hi hk]
  | loop => cases s <;> cases t <;> simp_all [spot?, own]

/-! Both ways of looking at a place agree. -/

private theorem Drawing.Depicts.caption {d : Drawing} {e : FlowElement} {x : Figure} (h : d.Depicts e x) (part : Spot) :
    Option.Rel (fun caption id => Node.ofKind id caption.1 caption.2 ∈ d.canvas.nodes)
      (e.caption part) (x.spot? part) := by
  cases h with
  | event node =>
    cases part with
    | event => exact .some node
    | _ => exact .none
  | task => cases part <;> exact .none
  | gateway first final between =>
    cases part with
    | decision => exact .some first
    | merge => exact .some final
    | condition j =>
      exact rel_map_left (rel_bind (rel_getElem? between j) fun _ _ hb => hb.condition)
    | _ => exact .none
  | loop first final body condition =>
    cases part with
    | start => exact .some first
    | stop => exact .some final
    | test => exact .some condition
    | _ => exact .none

namespace Diagram

def node? (p : ProcessDescription) : Place → Option String
  | .task name => (drawing p).ledger.get? name
  | .spot i part => (figures p)[i]?.bind (·.spot? part)

theorem node?_spot {p : ProcessDescription} {i : Nat} {x : Figure} (hx : (figures p)[i]? = some x) (part : Spot) :
    node? p (.spot i part) = x.spot? part := by
  rw [node?, hx]
  rfl

/-- There is a node for exactly the places that the process has, with their labels and kinds; no two places share
one; and each element that is drawn begins and ends at the nodes of its places. -/
structure Charted (p : ProcessDescription) (main : Subgraph) : Prop where
  captions : ∀ place : Place, Option.Rel (fun caption id => Node.ofKind id caption.1 caption.2 ∈ main.nodes)
    (place.caption (validElements p.entries)) (node? p place)
  injective : ∀ a b : Place, ∀ id, node? p a = some id → node? p b = some id → a = b
  ends : ∀ i, Option.Rel (fun (e : FlowElement) (ends : Endpoints) =>
      node? p (e.entryPlace i) = some ends.entry ∧ node? p (e.exitPlace i) = some ends.exit)
    (validElements p.entries)[i]? (Drawing.slots p.entries start).1.reduceOption[i]?

private theorem node?_caption (p : ProcessDescription) (place : Place) :
    Option.Rel (fun caption id => Node.ofKind id caption.1 caption.2 ∈ (drawing p).canvas.nodes)
      (place.caption (validElements p.entries)) (node? p place) := by
  rw [nodes_drawing]
  cases place with
  | task name =>
    rw [node?, ledger_drawing]
    exact rel_map_left (placed_records p name)
  | spot i part =>
    exact rel_bind (rel_getElem? (Drawing.figures_depict p.entries start) i) fun _ _ hx => hx.caption part

private theorem node?_injective {p : ProcessDescription} {a b : Place} {id : String} (ha : node? p a = some id)
    (hb : node? p b = some id) : a = b := by
  have hd := placed_coherent p
  have hn : ((figures p).flatMap Figure.own).Nodup := ownIds_placed p ▸ hd.ownIds_nodup
  have task {name : String} (h : node? p (.task name) = some id) : id ∈ (placed p).2.taskIds := by
    rw [node?, ledger_drawing] at h
    exact Drawing.mem_taskIds h
  have spot {i : Nat} {part : Spot} (h : node? p (.spot i part) = some id) :
      ∃ x, (figures p)[i]? = some x ∧ x.spot? part = some id ∧ id ∈ (placed p).2.ownIds := by
    obtain ⟨x, hx, hs⟩ := Option.bind_eq_some_iff.mp h
    refine ⟨x, hx, hs, ?_⟩
    rw [ownIds_placed]
    exact List.mem_flatMap.mpr ⟨x, List.mem_of_getElem? hx, Figure.mem_own_of_spot? hs⟩
  cases a with
  | task name =>
    cases b with
    | task other =>
      rw [node?, ledger_drawing] at ha hb
      rw [hd.get?_injective ha hb]
    | spot j t =>
      obtain ⟨_, _, _, hm⟩ := spot hb
      exact absurd (task ha) (hd.disjoint hm)
  | spot i s =>
    obtain ⟨x, hx, hs, hm⟩ := spot ha
    cases b with
    | task other => exact absurd (task hb) (hd.disjoint hm)
    | spot j t =>
      obtain ⟨y, hy, ht, _⟩ := spot hb
      have hij := index_unique hn hx hy (Figure.mem_own_of_spot? hs) (Figure.mem_own_of_spot? ht)
      subst hij
      cases hx.symm.trans hy
      have ho : x.own.Nodup := (List.nodup_flatMap.mp hn).1 x (List.mem_of_getElem? hx)
      rw [Figure.spot?_injective ho hs ht]

private theorem node?_ends {p : ProcessDescription} {i : Nat} {e : FlowElement} {x : Figure}
    (h : (placed p).2.Depicts e x) (hx : (figures p)[i]? = some x) :
    node? p (e.entryPlace i) = some x.ends.entry ∧ node? p (e.exitPlace i) = some x.ends.exit := by
  cases h with
  | task node =>
    rw [FlowElement.entryPlace, FlowElement.exitPlace, node?, ledger_drawing]
    exact ⟨node, node⟩
  | _ => exact ⟨node?_spot hx _, node?_spot hx _⟩

theorem charted (p : ProcessDescription) : Charted p (drawing p).canvas where
  captions := node?_caption p
  injective _ _ _ := node?_injective
  ends i := by
    have hends : (Drawing.slots p.entries start).1.reduceOption = (figures p).map Figure.ends := by
      rw [slots_start, ends, List.reduceOption_map]
      rfl
    have hr : Option.Rel (placed p).2.Depicts (validElements p.entries)[i]? (figures p)[i]? :=
      rel_getElem? (Drawing.figures_depict p.entries start) i
    rw [hends, List.getElem?_map]
    generalize hx : (figures p)[i]? = x at hr ⊢
    generalize (validElements p.entries)[i]? = e at hr ⊢
    cases hr with
    | none => exact .none
    | some h => exact .some (node?_ends h hx)

end Diagram

end ProcessDiagram
