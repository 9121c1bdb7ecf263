import ProcessDiagram.Proofs.Neighbours
import ProcessDiagram.Proofs.TwoPasses

/-! A flow read entry by entry: what each position adds to the drawing, and the edges that join one position to
another. -/
namespace ProcessDiagram.Drawing

/-- The drawing after an entry; a failing one leaves it as it is. -/
def read (d : Drawing) : Entry → Drawing
  | .ok e => (d.element e).2
  | .error _ => d

def upTo (entries : List Entry) (d : Drawing) (i : Nat) : Drawing := (entries.take i).foldl read d

def endsAt (entries : List Entry) (d : Drawing) (i : Nat) : Option Endpoints :=
  match entries[i]? with
  | some (.ok e) => some ((upTo entries d i).element e).1
  | _ => none

def edgesAt (entries : List Entry) (d : Drawing) (i : Nat) : List Edge :=
  (upTo entries d (i + 1)).canvas.edges.drop (upTo entries d i).canvas.edges.length

def seam (entries : List Entry) (d : Drawing) (pair : Nat × Nat) : Option Edge :=
  match endsAt entries d pair.1, endsAt entries d pair.2 with
  | some a, some b => some (.flow a.exit b.entry)
  | _, _ => none

section positions
variable {entries : List Entry} {d : Drawing} {i : Nat}

theorem endsAt_ok {e : FlowElement} (h : entries[i]? = some (.ok e)) :
    endsAt entries d i = some ((upTo entries d i).element e).1 := by
  rw [endsAt, h]

theorem upTo_succ {entry : Entry} (h : entries[i]? = some entry) :
    upTo entries d (i + 1) = (upTo entries d i).read entry := by
  rw [upTo, List.take_add_one, h, List.foldl_append]
  rfl

theorem upTo_succ_none (h : entries[i]? = none) : upTo entries d (i + 1) = upTo entries d i := by
  rw [upTo, upTo, List.take_add_one, h, Option.toList_none, List.append_nil]

private theorem endsAt_cons (entry : Entry) (rest : List Entry) (d : Drawing) (i : Nat) :
    endsAt (entry :: rest) d (i + 1) = endsAt rest (d.read entry) i := rfl

theorem isSome_seam {pair : Nat × Nat} (h : Consecutive entries pair.1 pair.2) : (seam entries d pair).isSome := by
  obtain ⟨e, he⟩ := h.first
  obtain ⟨f, hf⟩ := h.second
  rw [seam, endsAt_ok he, endsAt_ok hf]
  rfl

end positions

/-! The slots of a flow and the edges between them. -/

theorem slots_snd (entries : List Entry) (d : Drawing) : (slots entries d).2 = entries.foldl read d := by
  induction entries generalizing d with
  | nil => rfl
  | cons entry rest ih =>
    cases entry with
    | ok e => exact ih (d.element e).2
    | error e => exact ih d

theorem slots_loosen (entries : List Entry) (d : Drawing) :
    slots (entries.map loosen) d = slots (purged entries) d := by
  induction entries generalizing d with
  | nil => rfl
  | cons entry rest ih =>
    cases entry with
    | ok e =>
      have h := ih (d.element e).2
      have hp : purged (.ok e :: rest) = .ok e :: purged rest := rfl
      simp only [List.map_cons, loosen, hp, slots, h]
    | error e => exact ih d

/-- The first slot is filled by the element that comes before all gaps. -/
private theorem head?_slots {entries : List Entry} {d : Drawing} :
    (slots entries d).1.head?.join = (leader entries).bind (endsAt entries d) := by
  induction entries generalizing d with
  | nil => rfl
  | cons entry rest ih =>
    cases entry with
    | ok e => rfl
    | error e =>
      have h := @ih d
      cases hu : e.isUntyped with
      | true =>
        simp only [slots, leader, hu, if_true, h]
        cases leader rest <;> rfl
      | false => simp [slots, leader, hu]

private theorem joints_cons_some (a : Endpoints) (rest : List (Option Endpoints)) : joints (some a :: rest) =
    (rest.head?.join.map fun b => Edge.flow a.exit b.entry).toList ++ joints rest := by
  cases rest with
  | nil => rfl
  | cons b rest => cases b <;> rfl

/-- An edge joins each pair of neighbours, and no other elements. -/
theorem joints_slots (entries : List Entry) (d : Drawing) :
    joints (slots entries d).1 = (neighbours entries).filterMap (seam entries d) := by
  induction entries generalizing d with
  | nil => rfl
  | cons entry rest ih =>
    have later : ((neighbours rest).map shift).filterMap (seam (entry :: rest) d) =
        joints (slots rest (d.read entry)).1 := by
      rw [ih, List.filterMap_map]
      rfl
    cases entry with
    | ok e =>
      have first : (((leader rest).map fun j => (0, j + 1)).toList).filterMap (seam (.ok e :: rest) d) =
          ((slots rest (d.element e).2).1.head?.join.map fun b =>
            Edge.flow (d.element e).1.exit b.entry).toList := by
        rw [head?_slots]
        cases leader rest with
        | none => rfl
        | some j =>
          simp only [Option.map_some, Option.toList_some, List.filterMap_cons, List.filterMap_nil, Option.bind_some]
          rw [seam, endsAt_ok rfl, endsAt_cons]
          simp only [read]
          cases endsAt rest (d.element e).2 j <;> rfl
      rw [neighbours, List.filterMap_append, later, first]
      exact joints_cons_some _ _
    | error e =>
      rw [neighbours, later, slots]
      cases hu : e.isUntyped <;> rfl

/-! What the elements draw themselves stays where it is: a later one only adds edges. -/

theorem read_sound {d : Drawing} (hd : d.Coherent) (hc : d.Closed) (entry : Entry) :
    (d.read entry).Coherent ∧ (d.read entry).Closed ∧ d.canvas.edges <+: (d.read entry).canvas.edges := by
  cases entry with
  | ok e =>
    obtain ⟨hd₁, hc₁⟩ := place_links_sound hd hc e
    rw [read, element_eq hd hc e]
    refine ⟨hd₁, hc₁, ?_⟩
    rw [edges_links, (d.place_grows e).edges]
    exact List.prefix_append _ _
  | error e => exact ⟨hd, hc, List.prefix_rfl⟩

theorem upTo_sound {d : Drawing} (hd : d.Coherent) (hc : d.Closed) (entries : List Entry) (i : Nat) :
    (upTo entries d i).Coherent ∧ (upTo entries d i).Closed := by
  induction i with
  | zero => exact ⟨hd, hc⟩
  | succ i ih =>
    rw [upTo, List.take_add_one, List.foldl_append]
    cases entries[i]? with
    | none => exact ih
    | some entry => exact ⟨(read_sound ih.1 ih.2 entry).1, (read_sound ih.1 ih.2 entry).2.1⟩

private theorem edges_upTo_succ {d : Drawing} (hd : d.Coherent) (hc : d.Closed) (entries : List Entry) (i : Nat) :
    (upTo entries d (i + 1)).canvas.edges = (upTo entries d i).canvas.edges ++ edgesAt entries d i := by
  have hp : (upTo entries d i).canvas.edges <+: (upTo entries d (i + 1)).canvas.edges := by
    obtain ⟨hd, hc⟩ := upTo_sound hd hc entries i
    cases h : entries[i]? with
    | none => exact upTo_succ_none h ▸ List.prefix_rfl
    | some entry =>
      rw [upTo_succ h]
      exact (read_sound hd hc entry).2.2
  exact (List.prefix_iff_eq_append.mp hp).symm

private theorem edges_upTo {d : Drawing} (hd : d.Coherent) (hc : d.Closed) (entries : List Entry) (n : Nat) :
    (upTo entries d n).canvas.edges = d.canvas.edges ++ (List.range n).flatMap (edgesAt entries d) := by
  induction n with
  | zero => simp [upTo]
  | succ n ih =>
    rw [edges_upTo_succ hd hc, ih, List.range_succ, List.flatMap_append, List.append_assoc, List.flatMap_singleton]

theorem empty_sound {canvas : Subgraph} (nodes : canvas.nodes = []) (edges : canvas.edges = []) :
    ({ blank with canvas } : Drawing).Coherent ∧ ({ blank with canvas } : Drawing).Closed := by
  refine ⟨Coherent.blank nodes, fun e he => ?_⟩
  rw [edges] at he
  cases he

private theorem blank_coherent : blank.Coherent := Coherent.blank rfl

private theorem blank_closed : blank.Closed := fun _ h => nomatch h

theorem edges_foldl_read (entries : List Entry) :
    (entries.foldl read blank).canvas.edges = (List.range entries.length).flatMap (edgesAt entries blank) := by
  have h := edges_upTo blank_coherent blank_closed entries entries.length
  rw [upTo, List.take_length] at h
  exact h

theorem flow_edges (entries : List Entry) : (flow entries blank {}).2.1.canvas.edges =
    (List.range entries.length).flatMap (edgesAt entries blank) ++ joints (slots entries blank).1 := by
  have h : (flow entries blank {}).2.1 = (slots entries blank).2.links (joints (slots entries blank).1) := rfl
  rw [h, edges_links, slots_snd, edges_foldl_read]

/-! What a flow reports. -/

theorem length_filled (entries : List Entry) (d : Drawing) :
    ((slots entries d).1.filter Option.isSome).length = (validElements entries).length := by
  induction entries generalizing d with
  | nil => rfl
  | cons entry rest ih =>
    cases entry with
    | ok e => exact congrArg (· + 1) (ih (d.element e).2)
    | error e =>
      have h : (slots (.error e :: rest) d).1.filter Option.isSome = (slots rest d).1.filter Option.isSome := by
        cases hu : e.isUntyped <;> simp [slots, hu]
      rw [h]
      exact ih d

theorem mem_failingEntries {entries : List Entry} {i : Nat} {e : DescriptionError} :
    (i, e) ∈ failingEntries entries ↔ entries[i]? = some (.error e) := by
  rw [failingEntries, List.mem_filterMap]
  constructor
  · rintro ⟨⟨entry, k⟩, hm, h⟩
    rw [List.mem_zipIdx_iff_getElem?] at hm
    cases entry with
    | ok _ => cases h
    | error f =>
      cases h
      exact hm
  · exact fun h => ⟨(.error e, i), List.mem_zipIdx_iff_getElem?.mpr h, rfl⟩

private theorem failingEntries_sorted (entries : List Entry) :
    (failingEntries entries).Pairwise (fun x y => x.1 < y.1) := by
  have hs : entries.zipIdx.Pairwise (fun x y => x.2 < y.2) := by
    rw [← List.pairwise_map, List.zipIdx_map_snd]
    exact List.pairwise_lt_range'
  refine hs.filterMap _ ?_
  rintro ⟨a, i⟩ ⟨b, j⟩ hlt x hx y hy
  cases a <;> cases hx
  cases b <;> cases hy
  exact hlt

/-- An entry is drawn or fails. -/
private theorem length_failingEntries (entries : List Entry) :
    (validElements entries).length + (failingEntries entries).length = entries.length := by
  have hvalid : (validElements entries).length = entries.countP Except.toBool := by
    rw [validElements, List.length_filterMap_eq_countP]
    refine List.countP_congr fun entry _ => ?_
    cases entry <;> rfl
  have hfailing : (failingEntries entries).length = entries.countP fun entry => !entry.toBool := by
    conv_rhs => rw [← List.zipIdx_map_fst 0 entries, List.countP_map]
    rw [failingEntries, List.length_filterMap_eq_countP]
    refine List.countP_congr fun x _ => ?_
    obtain ⟨entry, _⟩ := x
    cases entry <;> rfl
  rw [hvalid, hfailing, List.length_eq_countP_add_countP Except.toBool]
  simp

/-- What a report says of a flow: how many entries there are and how many are drawn, and of every other one the
position and the error. -/
structure Accounts (entries : List Entry) (r : Report) : Prop where
  total : r.total = entries.length
  compiled : r.compiled = (validElements entries).length
  balance : r.compiled + r.issues.length = r.total
  sorted : r.issues.Pairwise fun x y => x.index < y.index
  issues : ∀ i e, ⟨i, e⟩ ∈ r.issues ↔ entries[i]? = some (.error e)

private theorem flow_accounts (entries : List Entry) (d : Drawing) : Accounts entries (flow entries d {}).2.2 where
  total := Nat.zero_add _
  compiled := (Nat.zero_add _).trans (length_filled entries d)
  balance := by
    have h := length_failingEntries entries
    simpa [flow, length_filled] using h
  sorted := List.pairwise_map.mpr (failingEntries_sorted entries)
  issues i e := by
    have hi (x : Nat × DescriptionError) : Issue.mk x.1 x.2 = ⟨i, e⟩ ↔ x = (i, e) := by simp [Prod.ext_iff]
    simp [flow, hi, mem_failingEntries]

private theorem length_joints_filled (ends : List Endpoints) : (joints (ends.map some)).length = ends.length - 1 := by
  induction ends with
  | nil => rfl
  | cons a rest ih =>
    cases rest with
    | nil => rfl
    | cons b rest => exact congrArg (· + 1) ih

private theorem slots_valid (elements : List FlowElement) (d : Drawing) :
    ∃ ends : List Endpoints, (slots (elements.map .ok) d).1 = ends.map some ∧ ends.length = elements.length := by
  induction elements generalizing d with
  | nil => exact ⟨[], rfl, rfl⟩
  | cons e rest ih =>
    obtain ⟨ends, hs, hl⟩ := ih (d.element e).2
    exact ⟨(d.element e).1 :: ends, congrArg (some (d.element e).1 :: ·) hs, congrArg (· + 1) hl⟩

/-- Where nothing breaks the flow, each element but the last is joined to the next. -/
private theorem length_joints_untyped {entries : List Entry} (h : ∀ e, Except.error e ∈ entries → e = .missingType)
    (d : Drawing) : (joints (slots entries d).1).length = (validElements entries).length - 1 := by
  obtain ⟨ends, hs, hl⟩ := slots_valid (validElements entries) d
  rw [← map_loosen h, slots_loosen, purged, hs, length_joints_filled, hl, map_loosen h]

/-- A flow is drawn as the edges of its elements, one element after another, and then one edge for each pair of
neighbours, in the order of the flow; the report counts these edges and accounts for every entry. -/
theorem flow_joins_neighbours (entries : List Entry) :
    ∃ pairs : List (Nat × Nat), pairs.Pairwise (fun p q => p.1 < q.1) ∧
      (∀ i j, (i, j) ∈ pairs ↔ Neighbours entries i j) ∧
    ∃ filled d report, flow entries blank {} = (filled, d, report) ∧
      (∀ i, (upTo entries blank (i + 1)).canvas.edges =
        (upTo entries blank i).canvas.edges ++ edgesAt entries blank i) ∧
      (∃ seams, d.canvas.edges = (List.range entries.length).flatMap (edgesAt entries blank) ++ seams ∧
        seams.map some = pairs.map (seam entries blank)) ∧
      report.links = pairs.length ∧ Accounts entries report ∧
      ((∀ e, Except.error e ∈ entries → e = .missingType) →
        report.links = (validElements entries).length - 1) := by
  have hseam : (joints (slots entries blank).1).map some = (neighbours entries).map (seam entries blank) := by
    rw [joints_slots]
    exact map_some_filterMap fun pair hp => isSome_seam (neighbours_iff.mp (mem_neighbours.mp hp)).1
  have hcount : (joints (slots entries blank).1).length = (neighbours entries).length := by
    simpa using congrArg List.length hseam
  have hlinks : (flow entries blank {}).2.2.links = (joints (slots entries blank).1).length := Nat.zero_add _
  exact ⟨neighbours entries, neighbours_sorted entries, fun i j => mem_neighbours, _, _, _, rfl,
    edges_upTo_succ blank_coherent blank_closed entries, ⟨_, flow_edges entries, hseam⟩, hlinks.trans hcount,
    flow_accounts entries blank, fun h => hlinks.trans (length_joints_untyped h blank)⟩

/-- An entry without type is passed over; one of an unknown type breaks the flow. -/
def patchy : List Entry := [
  .ok (.event { name := "Inicio" }),
  .error .missingType,
  .ok (.task { name := "Pack" }),
  .error (.unrecognizedKind "nota"),
  .ok (.task { name := "Ship" })]

theorem patchy_joins_neighbours :
    (∃ (pairs : List (Nat × Nat)) (filled : List (Option Endpoints)) (d : Drawing) (report : Report),
      flow patchy blank {} = (filled, d, report) ∧ (0, 2) ∈ pairs ∧ (2, 4) ∉ pairs ∧
      report.links = pairs.length ∧ Accounts patchy report) ∧
    (∀ e, Except.error e ∈ patchy.take 3 → e = .missingType) ∧ (flow (patchy.take 3) blank {}).2.2.links = 1 := by
  refine ⟨?_, ?_, ?_⟩
  · obtain ⟨pairs, _, hmem, filled, d, report, hf, _, _, hlinks, haccounts, _⟩ := flow_joins_neighbours patchy
    have hjoined : (0, 2) ∈ pairs := (hmem 0 2).mpr (mem_neighbours.mp (by decide))
    have hapart : (2, 4) ∉ pairs := fun h => absurd (mem_neighbours.mpr ((hmem 2 4).mp h)) (by decide)
    exact ⟨pairs, filled, d, report, hf, hjoined, hapart, hlinks, haccounts⟩
  · simp [patchy]
  · obtain ⟨_, _, _, _, _, _, hf, _, _, _, _, hlinks⟩ := flow_joins_neighbours (patchy.take 3)
    rw [hf]
    exact hlinks (by simp [patchy])

end ProcessDiagram.Drawing
