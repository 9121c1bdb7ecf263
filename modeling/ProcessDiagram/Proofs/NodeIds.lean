import ProcessDiagram.Proofs.MainFlow
import ProcessDiagram.Proofs.Numbering

/-! Which nodes a flow is drawn with, in their order, and the id of each. All of it can be read off the flow: the keys
say which ids are asked for, and the numbers in the ids follow from the keys. -/
namespace ProcessDiagram
open Drawing

/-- A node to be drawn: the key of its id, and what it shows. -/
structure Draft where
  key : String
  label : String
  kind : NodeKind
  style : NodeStyle := kind.style

namespace Draft

def node (x : Draft) (id : String) : Node := ⟨id, x.label, x.kind, x.style⟩

def face (x : Draft) : String × NodeKind × NodeStyle := (x.label, x.kind, x.style)

end Draft

def Node.face (n : Node) : String × NodeKind × NodeStyle := (n.label, n.kind, n.style)

/-- The tasks among some mentions that no earlier mention names; the key of a task is its name. -/
def newTasks (known : List String) : List (String × String) → List Draft
  | [] => []
  | (name, label) :: rest =>
    (if name ∈ known then [] else [{ key := name, label, kind := .task }]) ++ newTasks (known ++ [name]) rest

def Branch.drafts (g : Gateway) (known : List String) (i : Nat) (b : Branch) : List Draft :=
  (branchCondition g b).toList.map (fun text =>
    { key := "condition_branch_" ++ g.name ++ "_" ++ toString i, label := text, kind := .condition }) ++
  newTasks known (b.tasks.map TaskRef.mention)

def Gateway.branchDrafts (g : Gateway) : List String → Nat → List Branch → List Draft
  | _, _, [] => []
  | known, i, b :: rest =>
    b.drafts g known i ++ g.branchDrafts (known ++ b.tasks.map TaskRef.taskName) (i + 1) rest

def FlowElement.drafts (known : List String) : FlowElement → List Draft
  | .event e =>
    { key := "evento_" ++ e.name, label := e.name, kind := eventKind e.eventClass } ::
      (noteText e).toList.map fun text =>
        { key := "fin_label_" ++ e.name, label := text, kind := .condition, style := noteStyle }
  | .task t => newTasks known [(t.name, t.label)]
  | .gateway g =>
    { key := "gateway_" ++ g.name, label := (gatewayNode g.kind).glyph, kind := gatewayNode g.kind } ::
    { key := "merge_" ++ g.name, label := (gatewayNode g.kind).glyph, kind := gatewayNode g.kind } ::
      g.branchDrafts known 0 g.branches
  | .loop l =>
    { key := "loop_start_" ++ l.name, label := "", kind := .loopMarker } ::
    { key := "loop_end_" ++ l.name, label := "", kind := .loopMarker } ::
      (newTasks known (l.tasks.map TaskRef.mention) ++
        [{ key := "condition_loop_cond_" ++ l.name, label := l.conditionText, kind := .condition }])

def draftsAfter (known : List String) : List FlowElement → List Draft
  | [] => []
  | e :: rest => e.drafts known ++ draftsAfter (known ++ e.mentions.map (·.1)) rest

namespace Drawing

/-- A drawing that has the drafts drawn on top of another, each with an id of its own key. -/
structure Gains (d : Drawing) (drafts : List Draft) (d' : Drawing) : Prop where
  registry : d'.registry = d.registry.issue (drafts.map (·.key))
  faces : d'.canvas.nodes.map Node.face = d.canvas.nodes.map Node.face ++ drafts.map Draft.face

namespace Gains
variable {d d' d'' : Drawing} {drafts later : List Draft}

private theorem refl (d : Drawing) : d.Gains [] d := ⟨rfl, (List.append_nil _).symm⟩

private theorem trans (h : d.Gains drafts d') (h' : d'.Gains later d'') : d.Gains (drafts ++ later) d'' where
  registry := by rw [h'.registry, h.registry, List.map_append, Registry.issue_append]
  faces := by rw [h'.faces, h.faces, List.map_append, List.append_assoc]

private theorem draw (d : Drawing) (key label : String) (kind : NodeKind) (style : NodeStyle := kind.style) :
    d.Gains [⟨key, label, kind, style⟩] (d.draw key label kind style).2 where
  registry := rfl
  faces := by simp [Node.face, Draft.face]

end Gains

section records
variable {d : Drawing} {ms : List (String × String)}

private theorem Records.get?_eq_none_iff (h : d.Records ms) (name : String) :
    d.ledger.get? name = none ↔ name ∉ ms.map (·.1) := by
  rw [← rel_eq_none (h name), ← isSome_firstLabel, Option.not_isSome_iff_eq_none]

/-- A task gains a node with its first mention. -/
private theorem Records.gains_task (h : d.Records ms) (name label : String) :
    d.Gains (newTasks (ms.map (·.1)) [(name, label)]) (d.task name label).2 := by
  have hiff := h.get?_eq_none_iff name
  obtain ⟨id, hg, he⟩ | ⟨hg, he⟩ := d.task_cases name label
  · have hm : name ∈ ms.map (·.1) := by
      by_contra hm
      rw [hiff.mpr hm] at hg
      cases hg
    rw [he, newTasks, if_pos hm]
    exact .refl d
  · rw [he, newTasks, if_neg (hiff.mp hg)]
    have hd := Gains.draw d name label .task
    exact ⟨hd.registry, hd.faces⟩

private theorem Records.gains_placeTasks (h : d.Records ms) (refs : List TaskRef) :
    d.Gains (newTasks (ms.map (·.1)) (refs.map TaskRef.mention)) (Drawing.placeTasks refs d).2 := by
  induction refs generalizing d ms with
  | nil => exact .refl d
  | cons t rest ih =>
    have hr := ih (h.task t.taskName t.label)
    rw [List.map_append] at hr
    have ht := (h.gains_task t.taskName t.label).trans hr
    simp only [newTasks, List.append_nil] at ht
    exact ht

private theorem Records.gains_placeBranch (h : d.Records ms) (g : Gateway) (i : Nat) (b : Branch) :
    d.Gains (b.drafts g (ms.map (·.1)) i) (d.placeBranch g i b).2 := by
  cases hc : branchCondition g b with
  | none =>
    rw [d.placeBranch_none i hc, Branch.drafts, hc]
    exact h.gains_placeTasks b.tasks
  | some text =>
    have hkey : "condition_" ++ ("branch_" ++ g.name ++ "_" ++ toString i) =
        "condition_branch_" ++ g.name ++ "_" ++ toString i := by
      simp only [← String.append_assoc]
      rfl
    rw [d.placeBranch_some i hc, Branch.drafts, hc, ← hkey]
    exact (Gains.draw d _ text .condition).trans ((h.draw _ text _ _).gains_placeTasks b.tasks)

private theorem Records.gains_placeBranches (h : d.Records ms) (g : Gateway) (i : Nat) (bs : List Branch) :
    d.Gains (g.branchDrafts (ms.map (·.1)) i bs) (Drawing.placeBranches g i bs d).2 := by
  induction bs generalizing i d ms with
  | nil => exact .refl d
  | cons b rest ih =>
    have hr := ih (h.placeBranch g i b) (i + 1)
    rw [List.map_append, List.map_map] at hr
    exact (h.gains_placeBranch g i b).trans hr

private theorem Records.gains_place (h : d.Records ms) (e : FlowElement) :
    d.Gains (e.drafts (ms.map (·.1))) (d.place e).2 := by
  cases e with
  | event e =>
    have hn := Gains.draw d ("evento_" ++ e.name) e.name (eventKind e.eventClass)
    cases hr : noteText e with
    | none =>
      rw [d.place_event_none hr, FlowElement.drafts, hr]
      exact hn
    | some reason =>
      rw [d.place_event_some hr, FlowElement.drafts, hr]
      exact hn.trans (.draw _ ("fin_label_" ++ e.name) reason .condition noteStyle)
  | task t => exact h.gains_task t.name t.label
  | gateway g =>
    let kind := gatewayNode g.kind
    have hpair := (Gains.draw d ("gateway_" ++ g.name) kind.glyph kind).trans
      (.draw _ ("merge_" ++ g.name) kind.glyph kind)
    exact hpair.trans (((h.draw _ _ _ _).draw _ _ _ _).gains_placeBranches g 0 g.branches)
  | loop l =>
    have hkey : "condition_" ++ ("loop_cond_" ++ l.name) = "condition_loop_cond_" ++ l.name := by
      rw [← String.append_assoc]
      rfl
    have hpair := (Gains.draw d ("loop_start_" ++ l.name) "" .loopMarker).trans
      (.draw _ ("loop_end_" ++ l.name) "" .loopMarker)
    have hbody := hpair.trans (((h.draw _ _ _ _).draw _ _ _ _).gains_placeTasks l.tasks)
    rw [FlowElement.drafts, ← hkey]
    exact hbody.trans (.draw _ _ l.conditionText .condition)

private theorem Records.gains_placeSlots (h : d.Records ms) (entries : List Entry) :
    d.Gains (draftsAfter (ms.map (·.1)) (validElements entries)) (Drawing.placeSlots entries d).2 := by
  induction entries generalizing d ms with
  | nil => exact .refl d
  | cons entry rest ih =>
    cases entry with
    | ok e =>
      have hr := ih (h.place e)
      rw [List.map_append] at hr
      exact (h.gains_place e).trans hr
    | error e => exact ih h

end records
end Drawing

namespace Diagram

def drafts (p : ProcessDescription) : List Draft := draftsAfter [] (validElements p.entries)

def keys (p : ProcessDescription) : List String := (drafts p).map (·.key)

private theorem start_tidy : start.registry.Tidy [] where
  head := rfl
  length := rfl
  bases key := by simp [start, blank, bare, Registry.reserve, Registry.empty, Collides]
  numbers key n h := by
    have hs := Registry.hasSuffix_suffixed (Registry.baseId key) n
    rw [List.mem_singleton.mp h] at hs
    exact absurd hs (by decide)
  counted := rfl
  suffixes := by decide

private theorem placed_gains (p : ProcessDescription) : start.Gains (drafts p) (placed p).2 := by
  have hs : start.Records [] := fun _ => .none
  exact hs.gains_placeSlots p.entries

private theorem registry_drawing (p : ProcessDescription) : (drawing p).registry = start.registry.issue (keys p) := by
  rw [drawing_eq, registry_links, (placed_gains p).registry]
  rfl

theorem faces_drawing (p : ProcessDescription) :
    (drawing p).canvas.nodes.map Node.face = (drafts p).map Draft.face := by
  rw [nodes_drawing, (placed_gains p).faces]
  rfl

private theorem drawing_tidy (p : ProcessDescription) : (drawing p).registry.Tidy (keys p) := by
  rw [registry_drawing]
  exact start_tidy.issue (keys p)

private theorem node_at {p : ProcessDescription} {i : Nat} {x : Draft} (hx : (drafts p)[i]? = some x) :
    (drawing p).canvas.nodes[i]? = some (x.node (idAfter ((keys p).take i) x.key)) := by
  have hid : ((drawing p).canvas.nodes.map (·.id))[i]? = some (idAfter ((keys p).take i) x.key) := by
    have hk : (keys p)[i]? = some x.key := by rw [keys, List.getElem?_map, hx]; rfl
    have hi := start_tidy.getElem?_issued hk
    rw [← registry_drawing, (drawing_coherent p).issued] at hi
    exact hi
  have hface : ((drawing p).canvas.nodes.map Node.face)[i]? = some x.face := by
    rw [faces_drawing, List.getElem?_map, hx]
    rfl
  rw [List.getElem?_map] at hid hface
  obtain ⟨n, hn, hid⟩ := Option.map_eq_some_iff.mp hid
  rw [hn] at hface ⊢
  rw [← hid]
  cases n
  cases hface
  rfl

/-- Besides the nodes of the main flow only the spacer has an id from the registry. -/
theorem ids_ofProcess (p : ProcessDescription) : (ofProcess p).report.ids = 1 + (drawing p).canvas.nodes.length := by
  have hcount : (drawing p).registry.count = (drawing p).canvas.nodes.length + 1 := by
    rw [Registry.count, (drawing_coherent p).issued, List.length_cons, nodeIds, List.length_map]
  rw [report_ofProcess]
  exact hcount.trans (Nat.add_comm _ _)

/-- The nodes of the main cluster are those that the flow asks for, in this order. The id of each is the base of its
key, unless that is the spacer's id or the base of an earlier key: then it is the base with the number of keys up to
this one that met such a base. The report gives the last number, which is how many ids have one, and counts the ids
with the spacer's; and whatever the next key is, the first number above the counter is free. -/
theorem ids_follow_keys (p : ProcessDescription) : ∃ main, (ofProcess p).graph.subgraph? mainCluster = some main ∧
    main.nodes.length = (drafts p).length ∧
    (∀ i (x : Draft), (drafts p)[i]? = some x → main.nodes[i]? = some (x.node (idAfter ((keys p).take i) x.key))) ∧
    (ofProcess p).report.collisions = collisionCount (keys p) ∧
    (ofProcess p).report.collisions = main.nodes.countP (hasSuffix ·.id) ∧
    (∀ n ∈ main.nodes, hasSuffix n.id ↔ ∃ base k, n.id = Registry.suffixed base k) ∧
    (ofProcess p).report.ids = 1 + main.nodes.length ∧
    (drawing p).registry = start.registry.issue (keys p) ∧
    ∀ i key, let r := start.registry.issue ((keys p).take i)
      Registry.nextFree (Registry.baseId key) r.collisions r.issued = r.collisions + 1 := by
  have hd := drawing_coherent p
  have ht := drawing_tidy p
  have hlen : (drawing p).canvas.nodes.length = (drafts p).length := by
    simpa using congrArg List.length (faces_drawing p)
  refine ⟨_, main_of_ofProcess p, hlen, fun i x => node_at, ?_, ?_, ?_, ids_ofProcess p, registry_drawing p, fun i key =>
    (start_tidy.issue _).nextFree_eq key⟩
  · rw [report_ofProcess]
    exact ht.counted
  · rw [report_ofProcess, ← ht.suffixes, hd.issued, List.countP_cons_of_neg (by decide), nodeIds, List.countP_map]
    rfl
  · intro n hn
    constructor
    · intro hs
      obtain ⟨base, hb, he | he⟩ := hd.identifiers n.id (List.mem_map_of_mem hn)
      · rw [hasSuffix, he, decide_eq_true_iff] at hs
        exact absurd hs (IsIdentifier.underscore_notMem hb)
      · exact ⟨base, he⟩
    · rintro ⟨base, k, he⟩
      exact he ▸ Registry.hasSuffix_suffixed base k

/-- Three keys with one base, of a gateway and of tasks, and a task with the spacer's name. -/
def twins : ProcessDescription := .ofElements [
  .task { name := "gateway" },
  .gateway { name := "", branches := [{ condition := some "yes", tasks := [.name "spacer", .name "gateway"] }] },
  .task { name := "gateway!" }]

theorem twins_ids_follow_keys :
    (keys twins)[5]? = some "gateway!" ∧ (drawing twins).canvas.nodes[5]?.map (·.id) = some "gateway_3" ∧
    (ofProcess twins).report.collisions = 3 ∧ (ofProcess twins).report.ids = 7 ∧
    ∃ n ∈ (drawing twins).canvas.nodes, hasSuffix n.id ∧ ∃ base k, n.id = Registry.suffixed base k := by
  obtain ⟨main, hmain, hlen, hnodes, hcount, _, hsuffix, hids, _⟩ := ids_follow_keys twins
  rw [main_of_ofProcess] at hmain
  cases hmain
  have hkey : (drafts twins)[5]? = some { key := "gateway!", label := "gateway!", kind := .task } := by rfl
  have hid : idAfter ((keys twins).take 5) "gateway!" = "gateway_3" := by decide +kernel
  have hnode := hnodes 5 _ hkey
  refine ⟨rfl, ?_, hcount.trans (by decide +kernel), hids.trans ?_, ?_⟩
  · rw [hnode, hid]
    rfl
  · rw [hlen]
    rfl
  · have hs : hasSuffix "gateway_3" := by decide
    rw [hid] at hnode
    have hm := List.mem_of_getElem? hnode
    exact ⟨_, hm, hs, (hsuffix _ hm).mp hs⟩

end Diagram
end ProcessDiagram
