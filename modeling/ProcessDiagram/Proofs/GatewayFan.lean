import Mathlib.Algebra.GroupWithZero.Nat
import ProcessDiagram.Proofs.Incidence
import ProcessDiagram.Proofs.Sequence

/-! The edges that a gateway draws: the chain of every branch in full, and from each node at which branches end one edge
to the merge. -/
namespace ProcessDiagram

namespace Figure
variable {decision merge : String}

end Figure

namespace Drawing
variable {d : Drawing}

private theorem DepictsBranch.links {g : Gateway} {b : Branch} {a : Arm} (h : d.DepictsBranch g b a) (es : List Edge) :
    (d.links es).DepictsBranch g b a where
  condition := by simpa using h.condition
  tasks := by simpa using h.tasks

section fans
variable (hd : d.Coherent) {g : Gateway} {arms : List Arm}
  (hx : (d.place (.gateway g)).1 = .gateway (d.gateway g).1.entry (d.gateway g).1.exit arms)
include hd hx

end fans

/-- What elements add up to, one after another, from an empty drawing on. -/
inductive Built : Drawing → Prop where
  | empty {canvas : Subgraph} (nodes : canvas.nodes = []) (edges : canvas.edges = []) : Built { blank with canvas }
  | element {d : Drawing} (h : Built d) (e : FlowElement) : Built (d.element e).2

private theorem Built.sound (h : d.Built) : d.Coherent ∧ d.Closed := by
  induction h with
  | empty nodes edges => exact empty_sound nodes edges
  | element _ e ih =>
    obtain ⟨hd, hc, -⟩ := read_sound ih.1 ih.2 (.ok e)
    exact ⟨hd, hc⟩

private theorem Built.upTo (h : d.Built) (entries : List Entry) (i : Nat) : (upTo entries d i).Built := by
  induction i with
  | zero => exact h
  | succ i ih =>
    cases he : entries[i]? with
    | none =>
      rw [upTo_succ_none he]
      exact ih
    | some entry =>
      rw [upTo_succ he]
      cases entry with
      | ok e => exact ih.element e
      | error e => exact ih

end Drawing

namespace Diagram
open Drawing

theorem split_at {entries : List Entry} {i : Nat} {entry : Entry} (h : entries[i]? = some entry) :
    entries = entries.take i ++ entry :: entries.drop (i + 1) := by
  obtain ⟨hi, he⟩ := List.getElem?_eq_some_iff.mp h
  rw [← he, ← List.drop_eq_getElem_cons hi, List.take_append_drop]

/-- The edges drawn so far make no difference to the nodes of an element. -/
theorem place_upTo (p : ProcessDescription) (i : Nat) (e : FlowElement) :
    ((upTo p.entries start i).place e).1 = ((placeSlots (p.entries.take i) start).2.place e).1 := by
  rw [upTo, ← slots_snd, slots_eq start_coherent start_closed, place_links]

end Diagram

end ProcessDiagram
