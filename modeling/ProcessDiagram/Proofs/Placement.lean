import ProcessDiagram.Diagram.Flow
import ProcessDiagram.Proofs.Figure
import ProcessDiagram.Proofs.Growth

/-! Drawing in two passes. First all nodes are placed, then all edges are added: the outcome is that
of drawing element by element, since no node depends on an edge. -/
namespace ProcessDiagram.Drawing

/-! Placing nodes without their edges. -/

def placeTasks : List TaskRef → Drawing → List String × Drawing
  | [], d => ([], d)
  | t :: rest, d =>
    let first := d.task t.taskName t.label
    let later := placeTasks rest first.2
    (first.1 :: later.1, later.2)

def placeBranch (d : Drawing) (g : Gateway) (i : Nat) (b : Branch) : Arm × Drawing :=
  match branchCondition g b with
  | some text =>
    let test := d.condition text ("branch_" ++ g.name ++ "_" ++ toString i)
    let tasks := placeTasks b.tasks test.2
    (⟨some test.1, tasks.1⟩, tasks.2)
  | none =>
    let tasks := placeTasks b.tasks d
    (⟨none, tasks.1⟩, tasks.2)

theorem placeBranch_none (d : Drawing) {g : Gateway} (i : Nat) {b : Branch} (h : branchCondition g b = none) :
    d.placeBranch g i b = (⟨none, (placeTasks b.tasks d).1⟩, (placeTasks b.tasks d).2) := by
  simp only [placeBranch, h]

theorem placeBranch_some (d : Drawing) {g : Gateway} (i : Nat) {b : Branch} {text : String}
    (h : branchCondition g b = some text) :
    let test := d.condition text ("branch_" ++ g.name ++ "_" ++ toString i)
    d.placeBranch g i b = (⟨some test.1, (placeTasks b.tasks test.2).1⟩, (placeTasks b.tasks test.2).2) := by
  simp only [placeBranch, h]

def placeBranches (g : Gateway) : Nat → List Branch → Drawing → List Arm × Drawing
  | _, [], d => ([], d)
  | i, b :: rest, d =>
    let first := d.placeBranch g i b
    let later := placeBranches g (i + 1) rest first.2
    (first.1 :: later.1, later.2)

def noteText (e : Event) : Option String := if e.eventClass = .final then e.condition else none

def noteStyle : NodeStyle := { NodeStyle.condition with fontSize := some 10 }

def place (d : Drawing) : FlowElement → Figure × Drawing
  | .event e =>
    let node := d.draw ("evento_" ++ e.name) e.name (eventKind e.eventClass)
    match noteText e with
    | some reason =>
      let note := node.2.draw ("fin_label_" ++ e.name) reason .condition noteStyle
      (.event node.1 (some note.1), note.2)
    | none => (.event node.1 none, node.2)
  | .task t =>
    let node := d.task t.name t.label
    (.task node.1, node.2)
  | .gateway g =>
    let kind := gatewayNode g.kind
    let decision := d.draw ("gateway_" ++ g.name) kind.glyph kind
    let merge := decision.2.draw ("merge_" ++ g.name) kind.glyph kind
    let arms := placeBranches g 0 g.branches merge.2
    (.gateway decision.1 merge.1 arms.1, arms.2)
  | .loop l =>
    let start := d.draw ("loop_start_" ++ l.name) "" .loopMarker
    let stop := start.2.draw ("loop_end_" ++ l.name) "" .loopMarker
    let tasks := placeTasks l.tasks stop.2
    let test := tasks.2.condition l.conditionText ("loop_cond_" ++ l.name)
    (.loop start.1 stop.1 tasks.1 test.1, test.2)

theorem place_event_none (d : Drawing) {e : Event} (h : noteText e = none) :
    let node := d.draw ("evento_" ++ e.name) e.name (eventKind e.eventClass)
    d.place (.event e) = (.event node.1 none, node.2) := by
  simp only [place, h]

theorem place_event_some (d : Drawing) {e : Event} {reason : String} (h : noteText e = some reason) :
    let node := d.draw ("evento_" ++ e.name) e.name (eventKind e.eventClass)
    let note := node.2.draw ("fin_label_" ++ e.name) reason .condition noteStyle
    d.place (.event e) = (.event node.1 (some note.1), note.2) := by
  simp only [place, h]

def placeSlots : List Entry → Drawing → List (Option Figure) × Drawing
  | [], d => ([], d)
  | .ok e :: rest, d =>
    let first := d.place e
    let later := placeSlots rest first.2
    (some first.1 :: later.1, later.2)
  | .error e :: rest, d =>
    let later := placeSlots rest d
    (if e.isUntyped then later.1 else none :: later.1, later.2)

/-- A flow is drawn element by element, and the slots hold what each element gives. -/
structure Fills {α : Type} (draw : Drawing → FlowElement → α × Drawing)
    (fill : List Entry → Drawing → List (Option α) × Drawing) : Prop where
  nil (d : Drawing) : fill [] d = ([], d)
  ok (e : FlowElement) (rest : List Entry) (d : Drawing) : fill (.ok e :: rest) d =
    (some (draw d e).1 :: (fill rest (draw d e).2).1, (fill rest (draw d e).2).2)
  error (e : DescriptionError) (rest : List Entry) (d : Drawing) : fill (.error e :: rest) d =
    (if e.isUntyped then (fill rest d).1 else none :: (fill rest d).1, (fill rest d).2)

theorem Fills.append {α : Type} {draw : Drawing → FlowElement → α × Drawing}
    {fill : List Entry → Drawing → List (Option α) × Drawing} (h : Fills draw fill) (entries later : List Entry)
    (d : Drawing) :
    fill (entries ++ later) d =
      ((fill entries d).1 ++ (fill later (fill entries d).2).1, (fill later (fill entries d).2).2) := by
  induction entries generalizing d with
  | nil => simp only [List.nil_append, h.nil]
  | cons entry rest ih =>
    cases entry with
    | ok e => simp only [List.cons_append, h.ok, ih]
    | error e => cases he : e.isUntyped <;> simp [h.error, ih, he]

theorem placeSlots_fills : Fills place placeSlots := ⟨fun _ => rfl, fun _ _ _ => rfl, fun _ _ _ => rfl⟩

theorem slots_fills : Fills element slots := ⟨fun _ => rfl, fun _ _ _ => rfl, fun _ _ _ => rfl⟩

/-! Every drawing that is placed grows out of the one before. -/

theorem eventKind_ne_task (c : EventClass) : eventKind c ≠ .task := by cases c <;> decide

theorem gatewayNode_ne_task (k : GatewayKind) : gatewayNode k ≠ .task := by cases k <;> decide

theorem draw_grows (d : Drawing) (key label : String) {kind : NodeKind} (style : NodeStyle) (h : kind ≠ .task) :
    Grows d (d.draw key label kind style).2 := .single (.node d key label style h)

theorem condition_grows (d : Drawing) (text key : String) : Grows d (d.condition text key).2 :=
  d.draw_grows _ text _ (by decide)

theorem placeTasks_grows (refs : List TaskRef) (d : Drawing) : Grows d (placeTasks refs d).2 := by
  induction refs generalizing d with
  | nil => exact .refl
  | cons t rest ih => exact (d.task_grows t.taskName t.label).trans (ih _)

theorem placeBranch_grows (d : Drawing) (g : Gateway) (i : Nat) (b : Branch) :
    Grows d (d.placeBranch g i b).2 := by
  cases h : branchCondition g b with
  | none =>
    rw [d.placeBranch_none i h]
    exact placeTasks_grows _ _
  | some text =>
    rw [d.placeBranch_some i h]
    exact (d.condition_grows text _).trans (placeTasks_grows _ _)

theorem placeBranches_grows (g : Gateway) (bs : List Branch) (i : Nat) (d : Drawing) :
    Grows d (placeBranches g i bs d).2 := by
  induction bs generalizing i d with
  | nil => exact .refl
  | cons b rest ih => exact (d.placeBranch_grows g i b).trans (ih _ _)

theorem place_grows (d : Drawing) (e : FlowElement) : Grows d (d.place e).2 := by
  cases e with
  | event e =>
    have hn := d.draw_grows ("evento_" ++ e.name) e.name (eventKind e.eventClass).style
      (eventKind_ne_task e.eventClass)
    cases h : noteText e with
    | none =>
      rw [d.place_event_none h]
      exact hn
    | some reason =>
      rw [d.place_event_some h]
      exact hn.trans (draw_grows _ _ reason noteStyle (by decide))
  | task t => exact d.task_grows t.name t.label
  | gateway g =>
    have hk := gatewayNode_ne_task g.kind
    exact ((d.draw_grows _ _ _ hk).trans (draw_grows _ _ _ _ hk)).trans (placeBranches_grows _ _ _ _)
  | loop l =>
    have hk : NodeKind.loopMarker ≠ .task := by decide
    exact (((d.draw_grows _ "" _ hk).trans (draw_grows _ _ "" _ hk)).trans (placeTasks_grows _ _)).trans
      (condition_grows _ _ _)

theorem placeSlots_grows (entries : List Entry) (d : Drawing) : Grows d (placeSlots entries d).2 := by
  induction entries generalizing d with
  | nil => exact .refl
  | cons entry rest ih =>
    cases entry with
    | ok e => exact (d.place_grows e).trans (ih _)
    | error e => exact ih d

/-! Edges that are there already make no difference to what is placed. -/

def links (d : Drawing) (edges : List Edge) : Drawing := edges.foldl link d

section links
variable (d : Drawing) (es : List Edge)

theorem links_append (later : List Edge) : d.links (es ++ later) = (d.links es).links later :=
  List.foldl_append

private theorem links_eq : d.links es = { d with canvas := es.foldl (fun s e => s.addEdge e) d.canvas } := by
  induction es generalizing d with
  | nil => rfl
  | cons e es ih => exact ih (d.link e)

@[simp] theorem registry_links : (d.links es).registry = d.registry := by rw [links_eq]

@[simp] theorem ledger_links : (d.links es).ledger = d.ledger := by rw [links_eq]

theorem canvas_links : (d.links es).canvas = .mk d.canvas.name d.canvas.attrs d.canvas.nodes
    (d.canvas.edges ++ es) d.canvas.members d.canvas.children := by
  rw [links_eq, Subgraph.foldl_addEdge]

@[simp] theorem nodes_links : (d.links es).canvas.nodes = d.canvas.nodes := by rw [canvas_links]; rfl

@[simp] theorem edges_links : (d.links es).canvas.edges = d.canvas.edges ++ es := by rw [canvas_links]; rfl

theorem draw_links (key label : String) (kind : NodeKind) (style : NodeStyle) :
    (d.links es).draw key label kind style =
      ((d.draw key label kind style).1, (d.draw key label kind style).2.links es) := by
  have commute (s : Subgraph) (n : Node) : (es.foldl (fun s e => s.addEdge e) s).addNode n =
      es.foldl (fun s e => s.addEdge e) (s.addNode n) := by
    induction es generalizing s with
    | nil => rfl
    | cons e es ih => exact (ih (s.addEdge e)).trans (by rw [Subgraph.addEdge_addNode]; rfl)
  simp only [links_eq, draw, commute]

private theorem task_links (name label : String) :
    (d.links es).task name label = ((d.task name label).1, (d.task name label).2.links es) := by
  obtain ⟨id, h, he⟩ | ⟨h, he⟩ := d.task_cases name label
  · rw [he, task, ledger_links, h]
  · rw [task_new label (by simpa using h), he, draw_links]
    simp only [links_eq]

theorem placeTasks_links (refs : List TaskRef) :
    placeTasks refs (d.links es) = ((placeTasks refs d).1, (placeTasks refs d).2.links es) := by
  induction refs generalizing d with
  | nil => rfl
  | cons t rest ih => simp only [placeTasks, task_links, ih]

private theorem placeBranch_links (g : Gateway) (i : Nat) (b : Branch) :
    (d.links es).placeBranch g i b = ((d.placeBranch g i b).1, (d.placeBranch g i b).2.links es) := by
  cases h : branchCondition g b <;>
    simp only [placeBranch, h, condition, draw_links, placeTasks_links]

theorem placeBranches_links (g : Gateway) (i : Nat) (bs : List Branch) :
    placeBranches g i bs (d.links es) = ((placeBranches g i bs d).1, (placeBranches g i bs d).2.links es) := by
  induction bs generalizing i d with
  | nil => rfl
  | cons b rest ih => simp only [placeBranches, placeBranch_links, ih]

theorem place_links (e : FlowElement) : (d.links es).place e = ((d.place e).1, (d.place e).2.links es) := by
  cases e with
  | event e => cases h : noteText e <;> simp only [place, h, draw_links]
  | task t => simp only [place, task_links]
  | gateway g => simp only [place, draw_links, placeBranches_links]
  | loop l => simp only [place, draw_links, placeTasks_links, condition]

theorem placeSlots_links (entries : List Entry) :
    placeSlots entries (d.links es) = ((placeSlots entries d).1, (placeSlots entries d).2.links es) := by
  induction entries generalizing d with
  | nil => rfl
  | cons entry rest ih =>
    cases entry with
    | ok e => simp only [placeSlots, place_links, ih]
    | error e => simp only [placeSlots, ih]

end links

end ProcessDiagram.Drawing
