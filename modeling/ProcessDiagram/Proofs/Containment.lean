import ProcessDiagram.Proofs.Sequence

/-! Failing entries are contained. Everything is drawn as if they were not there, and the only trace that they can
leave is a missing edge between the elements on either side. -/
namespace ProcessDiagram

/-- How many elements come before a position. -/
def rank (entries : List Entry) (i : Nat) : Nat := (validElements (entries.take i)).length

private theorem validElements_take (entries : List Entry) (i : Nat) :
    validElements (entries.take i) ++ validElements (entries.drop i) = validElements entries := by
  simp only [validElements]
  rw [← List.filterMap_append, List.take_append_drop]

private theorem purged_take (entries : List Entry) (i : Nat) :
    (purged entries).take (rank entries i) = purged (entries.take i) := by
  rw [purged, ← validElements_take entries i, List.map_append, rank, List.take_left' (List.length_map _)]
  rfl

private theorem getElem?_purged {entries : List Entry} {i : Nat} {e : FlowElement} (h : entries[i]? = some (.ok e)) :
    (purged entries)[rank entries i]? = some (.ok e) := by
  obtain ⟨hi, hget⟩ := List.getElem?_eq_some_iff.mp h
  have hd : validElements (entries.drop i) = e :: validElements (entries.drop (i + 1)) := by
    rw [← List.getElem_cons_drop hi, hget]
    rfl
  rw [purged, ← validElements_take entries i, hd, rank, List.getElem?_map, List.getElem?_append_right (Nat.le_refl _),
    Nat.sub_self]
  rfl

namespace Drawing

private theorem foldl_read_purged (entries : List Entry) (d : Drawing) :
    (purged entries).foldl read d = entries.foldl read d := by
  rw [purged, validElements, List.foldl_map, List.foldl_filterMap]
  congr 1
  funext d entry
  cases entry <;> rfl

section positions
variable (entries : List Entry) (d : Drawing) {i : Nat}

/-- What is drawn before a position is what the elements before it draw. -/
private theorem upTo_purged (i : Nat) : upTo (purged entries) d (rank entries i) = upTo entries d i := by
  rw [upTo, purged_take, foldl_read_purged]
  rfl

variable {entries} {e : FlowElement} (h : entries[i]? = some (.ok e))
include h

private theorem endsAt_purged : endsAt (purged entries) d (rank entries i) = endsAt entries d i := by
  rw [endsAt_ok (getElem?_purged h), endsAt_ok h, upTo_purged]

private theorem edgesAt_purged : edgesAt (purged entries) d (rank entries i) = edgesAt entries d i := by
  rw [edgesAt, edgesAt, upTo_succ (getElem?_purged h), upTo_succ h, upTo_purged]

end positions

private theorem seam_loosen (entries : List Entry) (d : Drawing) : seam (entries.map loosen) d = seam entries d := by
  have hread : (fun d entry => read d (loosen entry)) = read := by
    funext d entry
    cases entry <;> rfl
  have hends (i : Nat) : endsAt (entries.map loosen) d i = endsAt entries d i := by
    rw [endsAt, endsAt, upTo, upTo, ← List.map_take, List.foldl_map, hread, List.getElem?_map]
    cases entries[i]? with
    | none => rfl
    | some entry => cases entry <;> rfl
  funext pair
  rw [seam, seam, hends, hends]

/-- Without the failing entries every element is joined to the next. -/
private theorem joints_purged (entries : List Entry) (d : Drawing) :
    joints (slots (purged entries) d).1 = (consecutives entries).filterMap (seam entries d) := by
  rw [← slots_loosen, joints_slots, seam_loosen]
  rfl

/-- Two drawings that differ in no more than edges. -/
structure Alike (d d' : Drawing) : Prop where
  nodes : d.canvas.nodes = d'.canvas.nodes
  registry : d.registry = d'.registry
  ledger : d.ledger = d'.ledger

def alone (entries : List Entry) : Drawing := (flow entries blank {}).2.1

private theorem alone_eq (entries : List Entry) :
    alone entries = (entries.foldl read blank).links (joints (slots entries blank).1) := by
  rw [← slots_snd]
  rfl

/-- Drawn with its failing entries and without them, a flow has the same nodes, the same ids in use and the same
tasks, and each element has the same ends and edges of its own. Of the edges between elements that follow each other
those are missing, and no others, where an error other than a missing type stands between the two. -/
theorem failures_contained (entries : List Entry) :
    Alike (alone entries) (alone (purged entries)) ∧
    (∀ i e, entries[i]? = some (.ok e) → (purged entries)[rank entries i]? = some (.ok e) ∧
      upTo entries blank i = upTo (purged entries) blank (rank entries i) ∧
      endsAt entries blank i = endsAt (purged entries) blank (rank entries i) ∧
      edgesAt entries blank i = edgesAt (purged entries) blank (rank entries i)) ∧
    (∃ (inner seams : List Edge) (pairs : List (Nat × Nat)),
      inner = (List.range entries.length).flatMap (edgesAt entries blank) ∧
      inner = (List.range (purged entries).length).flatMap (edgesAt (purged entries) blank) ∧
      pairs.Pairwise (fun p q => p.1 < q.1) ∧ (∀ i j, (i, j) ∈ pairs ↔ Consecutive entries i j) ∧
      seams.map some = pairs.map (seam entries blank) ∧
      (alone (purged entries)).canvas.edges = inner ++ seams ∧
      (alone entries).canvas.edges =
        inner ++ ((pairs.zip seams).filter fun s => !separated entries s.1.1 s.1.2).map (·.2)) ∧
    ((∀ e, Except.error e ∈ entries → e = .missingType) → alone entries = alone (purged entries)) := by
  have hfold := foldl_read_purged entries blank
  have hseams : (joints (slots (purged entries) blank).1).map some =
      (consecutives entries).map (seam entries blank) := by
    rw [joints_purged]
    exact map_some_filterMap fun pair hp => isSome_seam (mem_consecutives.mp hp)
  refine ⟨?_, ?_, ?_, ?_⟩
  · rw [alone_eq, alone_eq, hfold]
    constructor <;> simp
  · intro i e h
    exact ⟨getElem?_purged h, (upTo_purged entries blank i).symm, (endsAt_purged blank h).symm,
      (edgesAt_purged blank h).symm⟩
  · have hinner : (List.range entries.length).flatMap (edgesAt entries blank) =
        (List.range (purged entries).length).flatMap (edgesAt (purged entries) blank) := by
      rw [← edges_foldl_read, ← edges_foldl_read, hfold]
    refine ⟨_, _, consecutives entries, rfl, hinner, neighbours_sorted _, fun i j => mem_consecutives, hseams, ?_, ?_⟩
    · rw [alone, flow_edges, hinner]
    · rw [alone, flow_edges, joints_slots, neighbours_eq_filter, filterMap_filter_zip hseams]
  · intro h
    rw [alone_eq, alone_eq, hfold, ← slots_loosen, map_loosen h]

/-- The edge between the elements around the entry of an unknown type is missing, and nothing else is. -/
theorem patchy_failures_contained : Alike (alone patchy) (alone (purged patchy)) ∧
    endsAt patchy blank 4 = endsAt (purged patchy) blank 2 ∧
    .flow "Pack" "Ship" ∈ (alone (purged patchy)).canvas.edges ∧
    .flow "Pack" "Ship" ∉ (alone patchy).canvas.edges ∧
    (∀ e, Except.error e ∈ patchy.take 3 → e = .missingType) ∧
    alone (patchy.take 3) = alone (purged (patchy.take 3)) := by
  obtain ⟨halike, hpositions, _⟩ := failures_contained patchy
  have hfirst : ∀ e, Except.error e ∈ patchy.take 3 → e = .missingType := by simp [patchy]
  exact ⟨halike, (hpositions 4 _ rfl).2.2.1, by decide +kernel, by decide +kernel, hfirst,
    (failures_contained (patchy.take 3)).2.2.2 hfirst⟩

end Drawing

end ProcessDiagram
