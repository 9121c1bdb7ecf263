import ProcessDiagram.Proofs.DotText
import ProcessDiagram.Proofs.References

/-! The DOT text of a diagram determines the diagram: the styles in a main cluster tell the kinds of its nodes apart,
and all edges in it that have a width have the same. -/
namespace ProcessDiagram

/-! What the nodes and edges of a main cluster look like. -/

/-- The kinds that are drawn in a main cluster, each with its style; notes have a style of their own. -/
def looks : List (NodeKind × NodeStyle) :=
  [.startEvent, .endEvent, .genericEvent, .task, .xorGateway, .andGateway, .loopMarker, .condition].map
    (fun k => (k, k.style)) ++ [(.condition, Drawing.noteStyle)]

/-- Shape, colour and size of the letters are enough to know the kind. -/
private theorem look_unique {n m : Node} (hn : (n.kind, n.style) ∈ looks) (hm : (m.kind, m.style) ∈ looks)
    (h : n.PrintsAs m) : n = m := by
  have hlooks : ∀ a ∈ looks, ∀ b ∈ looks, a.2.shape = b.2.shape → a.2.fillColor = b.2.fillColor →
      a.2.fontSize = b.2.fontSize → a = b := by decide
  have hlook := hlooks _ hn _ hm h.style.shape h.style.fillColor h.style.fontSize
  cases n
  cases m
  obtain ⟨rfl, rfl, -⟩ := h
  obtain ⟨rfl, rfl⟩ := Prod.mk.inj hlook
  rfl

def Edge.Plain (e : Edge) : Prop := e.penWidth = none ∨ e.penWidth = some oneAndHalf

private theorem Edge.Plain.eq {e f : Edge} (he : e.Plain) (hf : f.Plain) (h : e.PrintsAs f) : e = f := by
  have hpen : e.penWidth = f.penWidth := by
    have hw := h.penWidth
    rcases he with he | he <;> rcases hf with hf | hf <;> rw [he, hf] at hw ⊢ <;> cases hw
  cases e
  cases f
  obtain ⟨rfl, rfl, rfl, rfl, rfl, -⟩ := h
  obtain rfl := hpen
  rfl

private theorem Figure.plain {x : Figure} {e : Edge} (h : e ∈ x.edges) : e.Plain := by
  have flow {cursor : String} {ids : List String} {e : Edge} (h : e ∈ trail cursor ids) : e.Plain := by
    obtain ⟨_, _, rfl⟩ := flow_of_mem_trail h
    exact Or.inr rfl
  cases x with
  | event id note =>
    obtain ⟨_, _, rfl⟩ := List.mem_map.mp h
    exact Or.inl rfl
  | task => cases h
  | gateway decision merge arms =>
    obtain ⟨_, _, he⟩ := mem_gateway_edges.mp h
    exact flow he
  | loop start stop tasks test =>
    rcases mem_loop_edges.mp h with he | rfl | rfl
    · exact flow he
    · exact Or.inr rfl
    · exact Or.inr rfl

/-- The nodes that belong to one element alone have the looks that the element calls for. -/
private theorem Drawing.Depicts.look {d : Drawing} {e : FlowElement} {x : Figure} (h : d.Depicts e x) {id : String}
    (hid : id ∈ x.own) : ∃ n ∈ d.canvas.nodes, n.id = id ∧ (n.kind, n.style) ∈ looks := by
  have hcondition : (NodeKind.condition, NodeKind.condition.style) ∈ looks := by decide
  cases h with
  | @event e _ note node beside =>
    have hlook : (eventKind e.eventClass, (eventKind e.eventClass).style) ∈ looks := by cases e.eventClass <;> decide
    have hnote : (NodeKind.condition, noteStyle) ∈ looks := by decide
    rcases List.mem_cons.mp hid with rfl | hid
    · exact ⟨_, node, rfl, hlook⟩
    · generalize noteText e = text at beside
      cases beside with
      | none => cases hid
      | some hn =>
        obtain rfl := List.mem_singleton.mp hid
        exact ⟨_, hn, rfl, hnote⟩
  | task => cases hid
  | @gateway g _ _ _ first final between =>
    have hlook : (gatewayNode g.kind, (gatewayNode g.kind).style) ∈ looks := by cases g.kind <;> decide
    rcases List.mem_cons.mp hid with rfl | hid
    · exact ⟨_, first, rfl, hlook⟩
    rcases List.mem_cons.mp hid with rfl | hid
    · exact ⟨_, final, rfl, hlook⟩
    obtain ⟨a, ha, hc⟩ := List.mem_flatMap.mp hid
    obtain ⟨b, _, hb⟩ := exists_of_forall₂ between.flip ha
    have hguard := hb.condition
    rw [Option.mem_toList.mp hc] at hguard
    generalize branchCondition g b = text at hguard
    cases hguard with
    | some hn => exact ⟨_, hn, rfl, hcondition⟩
  | loop first final _ condition =>
    have hlook : (NodeKind.loopMarker, NodeKind.loopMarker.style) ∈ looks := by decide
    simp only [Figure.own, List.mem_cons, List.not_mem_nil, or_false] at hid
    rcases hid with rfl | rfl | rfl
    · exact ⟨_, first, rfl, hlook⟩
    · exact ⟨_, final, rfl, hlook⟩
    · exact ⟨_, condition, rfl, hcondition⟩

namespace Diagram
open Drawing
variable {p q : ProcessDescription}

theorem look_of_mem {n : Node} (hn : n ∈ (drawing p).canvas.nodes) : (n.kind, n.style) ∈ looks := by
  have hd := placed_coherent p
  rw [nodes_drawing] at hn
  -- the ids are distinct, so a node with the id of `n` is `n`
  have same {m : Node} (hm : m ∈ (placed p).2.canvas.nodes) (hid : m.id = n.id) (hlook : (m.kind, m.style) ∈ looks) :
      (n.kind, n.style) ∈ looks := by
    obtain rfl := List.inj_on_of_nodup_map hd.nodeIds_nodup hm hn hid
    exact hlook
  by_cases hk : n.kind = .task
  · have htask : n.id ∈ (placed p).2.taskIds := by
      rw [hd.tasks]
      exact List.mem_map_of_mem (List.mem_filter.mpr ⟨hn, decide_eq_true hk⟩)
    obtain ⟨⟨name, id⟩, he, hid⟩ := List.mem_map.mp htask
    have hrecord := placed_records p name
    rw [hd.get?_of_mem he] at hrecord
    generalize firstLabel (taskMentions p.entries) name = label at hrecord
    cases hrecord with
    | some hm => exact same hm hid (by simp [Node.ofKind, looks])
  · have hown : n.id ∈ (placed p).2.ownIds := List.mem_map_of_mem (List.mem_filter.mpr ⟨hn, decide_eq_true hk⟩)
    rw [ownIds_placed] at hown
    obtain ⟨x, hx, hid⟩ := List.mem_flatMap.mp hown
    obtain ⟨e, _, hdepicts⟩ := depicts_of_mem hx
    obtain ⟨m, hm, hmid, hlook⟩ := hdepicts.look hid
    exact same hm hmid hlook

private theorem plain_of_mem {e : Edge} (he : e ∈ (drawing p).canvas.edges) : e.Plain := by
  rw [drawing_edges, List.mem_append, List.mem_flatMap] at he
  rcases he with ⟨x, _, he⟩ | he
  · exact Figure.plain he
  · obtain ⟨_, _, _, _, rfl⟩ := exists_of_mem_joints he
    exact Or.inr rfl

private theorem printable (p : ProcessDescription) : (ofProcess p).graph.Printable := by
  have hcomment : '\n' ∉ "BPMN Diagram".toList := by decide
  have hattrs : Dot.Keyed [("rankdir", "TB"), ("nodesep", "0.8"), ("ranksep", "1.0"), ("splines", "ortho")] := by decide
  have hdefaults : Dot.Keyed [("fontname", "Helvetica")] := by decide
  have hkeys : ∀ k ∈ "style" :: legend.keys, Dot.IsWord k := by decide
  rw [graph_ofProcess, drawing_frame]
  refine ⟨⟨hcomment, hattrs, hdefaults, hdefaults, ?_⟩, rfl, rfl⟩
  simpa [Subgraph.keys, Subgraph.keysOf, frame] using hkeys

/-- Main clusters that print alike are the same. -/
private theorem canvas_eq_of_printsAs (h : (drawing p).canvas.PrintsAs (drawing q).canvas) :
    (drawing p).canvas = (drawing q).canvas := by
  rw [drawing_frame p, drawing_frame q] at h ⊢
  cases h with
  | mk hn he _ =>
    rw [eq_of_forall₂ hn (fun _ => look_of_mem) (fun _ => look_of_mem) fun _ _ => look_unique,
      eq_of_forall₂ he (fun _ => plain_of_mem) (fun _ => plain_of_mem) fun _ _ => Edge.Plain.eq]

private theorem graph_eq_of_printsAs (h : (ofProcess p).graph.PrintsAs (ofProcess q).graph) :
    (ofProcess p).graph = (ofProcess q).graph := by
  have hroot := h.root
  rw [graph_ofProcess, graph_ofProcess] at hroot ⊢
  have hpull (exits : List String) : ∀ e ∈ exits.map (Edge.invisible · spacerId), e.Plain :=
    List.forall_mem_map.mpr fun _ _ => Or.inl rfl
  cases hroot with
  | mk _ he hc =>
    rw [eq_of_forall₂ he (hpull _) (hpull _) fun _ _ => Edge.Plain.eq,
      canvas_eq_of_printsAs (List.forall₂_cons.mp hc).1]

/-- Two graphs have the same text exactly if they are the same but for the kinds of nodes and for measures with the same
decimal digits. Diagrams with the same text are the same, kinds and measures included; so are diagrams with the same
fingerprint, unless two texts have one digest. -/
theorem dot_determines_graph :
    (∀ g h : Graph, g.Printable → h.Printable → (g.toDot = h.toDot ↔ g.PrintsAs h)) ∧
    (∀ p q, (ofProcess p).toDot = (ofProcess q).toDot → (ofProcess p).graph = (ofProcess q).graph) ∧
    ∀ p q, (ofProcess p).graph.fingerprint = (ofProcess q).graph.fingerprint →
      (ofProcess p).graph = (ofProcess q).graph ∨
        (ofProcess p).toDot ≠ (ofProcess q).toDot ∧
          Text.Digest.ofString (ofProcess p).toDot = Text.Digest.ofString (ofProcess q).toDot := by
  have hdiagram (p q : ProcessDescription) (h : (ofProcess p).toDot = (ofProcess q).toDot) :
      (ofProcess p).graph = (ofProcess q).graph :=
    graph_eq_of_printsAs (Graph.printsAs_of_toDot (printable p) (printable q) h)
  refine ⟨fun g h hg hh => ⟨Graph.printsAs_of_toDot hg hh, Graph.toDot_congr⟩, hdiagram, fun p q h => ?_⟩
  by_cases ht : (ofProcess p).toDot = (ofProcess q).toDot
  · exact Or.inl (hdiagram p q ht)
  · exact Or.inr ⟨ht, h⟩

/-- A node inside a box; its style does not show its kind. -/
def boxed (kind : NodeKind) : Graph :=
  { Graph.empty "box" with
    attrs := [("rankdir", "LR")]
    root := .mk none [] [] [] ["a"] [.mk (some "\"x\"") [("style", "dashed")] [⟨"a", "\n", kind, .task⟩] [] [] []] }

private theorem boxed_printable (kind : NodeKind) : (boxed kind).Printable where
  comment := show '\n' ∉ "box".toList by decide
  attrs := show Dot.Keyed [("rankdir", "LR")] by decide
  nodeDefaults := show Dot.Keyed [] by decide
  edgeDefaults := show Dot.Keyed [] by decide
  keys := show ∀ k ∈ ["style"], Dot.IsWord k by decide
  rootName := rfl
  rootAttrs := rfl

def packing : ProcessDescription := .ofElements [.task { name := "Pack" }, .event { name := "End" }]

def interrupted : ProcessDescription :=
  ⟨some [.ok (.task { name := "Pack" }), .error .missingType, .ok (.event { name := "End" })]⟩

theorem boxed_prints_as : boxed .task ≠ boxed .legendIcon ∧ (boxed .task).toDot = (boxed .legendIcon).toDot ∧
    (boxed .task).PrintsAs (boxed .legendIcon) ∧ (ofProcess packing).toDot = (ofProcess interrupted).toDot ∧
    (ofProcess packing).graph = (ofProcess interrupted).graph := by
  obtain ⟨hgraph, hdiagram, _⟩ := dot_determines_graph
  have hbox : (boxed .task).toDot = (boxed .legendIcon).toDot := by decide +kernel
  have hflow : (ofProcess packing).toDot = (ofProcess interrupted).toDot := rfl
  have hkind : (boxed .task).nodes.map (·.kind) ≠ (boxed .legendIcon).nodes.map (·.kind) := by decide
  exact ⟨fun h => hkind (congrArg (fun g => g.nodes.map (·.kind)) h), hbox,
    (hgraph _ _ (boxed_printable _) (boxed_printable _)).mp hbox, hflow, hdiagram _ _ hflow⟩

end Diagram

end ProcessDiagram
