import ProcessDiagram.Proofs.DotStatement

/-! DOT text determines the graph: the lines of a subgraph come in sections, and each section shows where it ends. -/
namespace ProcessDiagram

/-- Subgraphs that are the same but for the kinds of nodes and for measures that are written alike. -/
inductive Subgraph.PrintsAs : Subgraph → Subgraph → Prop where
  | mk {name : Option String} {attrs : Attributes} {nodes nodes' : List Node} {edges edges' : List Edge}
      {members : List String} {children children' : List Subgraph}
      (hn : List.Forall₂ Node.PrintsAs nodes nodes') (he : List.Forall₂ Edge.PrintsAs edges edges')
      (hc : List.Forall₂ PrintsAs children children') :
    PrintsAs (.mk name attrs nodes edges members children) (.mk name attrs nodes' edges' members children')

structure Graph.PrintsAs (g h : Graph) : Prop where
  comment : g.comment = h.comment
  attrs : g.attrs = h.attrs
  nodeDefaults : g.nodeDefaults = h.nodeDefaults
  edgeDefaults : g.edgeDefaults = h.edgeDefaults
  root : g.root.PrintsAs h.root

namespace Subgraph

mutual

def keys : Subgraph → List String
  | mk _ attrs _ _ _ children => attrs.map (·.1) ++ keysOf children

def keysOf : List Subgraph → List String
  | [] => []
  | s :: rest => s.keys ++ keysOf rest

end

end Subgraph

/-- The comment stays on its line, and keys are words. -/
structure Graph.Worded (g : Graph) : Prop where
  comment : '\n' ∉ g.comment.toList
  attrs : Dot.Keyed g.attrs
  nodeDefaults : Dot.Keyed g.nodeDefaults
  edgeDefaults : Dot.Keyed g.edgeDefaults
  keys : ∀ k ∈ g.root.keys, Dot.IsWord k

/-- The root is a subgraph without a name and attributes. -/
structure Graph.Printable (g : Graph) : Prop extends Graph.Worded g where
  rootName : g.root.name = none
  rootAttrs : g.root.attrs = []

namespace Dot

mutual

private theorem body_congr (depth : Nat) (s t : Subgraph) (h : s.PrintsAs t) : body depth s = body depth t := by
  cases s with
  | mk name attrs nodes edges members children =>
    cases h with
    | mk hn he hc =>
      rw [body, body, bodies_congr depth children _ hc,
        map_eq_iff_forall₂.mpr (hn.imp fun _ _ h => congrArg (indent depth ++ ·) (nodeStatement_congr h)),
        map_eq_iff_forall₂.mpr (he.imp fun _ _ h => congrArg (indent depth ++ ·) (edgeStatement_congr h))]

private theorem bodies_congr (depth : Nat) (ss ts : List Subgraph) (h : List.Forall₂ Subgraph.PrintsAs ss ts) :
    bodies depth ss = bodies depth ts := by
  cases ss with
  | nil =>
    cases h
    rfl
  | cons s rest =>
    cases h with
    | @cons _ t _ rest' hst hrest =>
      have hname : s.name = t.name := by
        cases hst
        rfl
      rw [bodies, bodies, hname, body_congr (depth + 1) s t hst, bodies_congr depth rest rest' hrest]

end

def Line.ofAttribute (a : String × String) : Line := .setting a.1 a.2

def lines {α : Type} (depth : Nat) (line : α → Line) (xs : List α) : List (Nat × Line) :=
  xs.map fun x => (depth, line x)

mutual

/-- The lines of a subgraph with their depths. -/
def script (depth : Nat) : Subgraph → List (Nat × Line)
  | .mk _ attrs nodes edges members children =>
    lines depth .ofAttribute attrs ++ (scripts depth children ++ (lines depth .node nodes ++
      (lines depth .member members ++ lines depth .edge edges)))

def scripts (depth : Nat) : List Subgraph → List (Nat × Line)
  | [] => []
  | s :: rest => (depth, .opening s.name) :: (script (depth + 1) s ++ (depth, .closing) :: scripts depth rest)

end

def lineText (x : Nat × Line) : String := indent x.1 ++ x.2.text

mutual

private theorem body_eq (depth : Nat) (s : Subgraph) : body depth s = (script depth s).map lineText := by
  cases s with
  | mk name attrs nodes edges members children =>
    simp only [body, script, lines, bodies_eq depth children, List.map_append, List.map_map, List.append_assoc]
    rfl

private theorem bodies_eq (depth : Nat) (ss : List Subgraph) : bodies depth ss = (scripts depth ss).map lineText := by
  cases ss with
  | nil => rfl
  | cons s rest =>
    simp only [bodies, scripts, body_eq (depth + 1) s, bodies_eq depth rest, List.map_append, List.map_cons, lineText,
      Line.text_opening, List.cons_append]
    rfl

end

private theorem keyed_lines {α : Type} {depth : Nat} {line : α → Line} {xs : List α} (h : ∀ x ∈ xs, (line x).Keyed) :
    ∀ y ∈ lines depth line xs, y.2.Keyed := List.forall_mem_map.mpr h

mutual

private theorem keyed_script (depth : Nat) (s : Subgraph) (h : ∀ k ∈ s.keys, IsWord k) :
    ∀ x ∈ script depth s, x.2.Keyed := by
  cases s with
  | mk name attrs nodes edges members children =>
    have hs : ∀ a ∈ attrs, (Line.ofAttribute a).Keyed := fun a ha =>
      h a.1 (List.mem_append_left _ (List.mem_map_of_mem ha))
    have hc := keyed_scripts depth children fun k hk => h k (List.mem_append_right _ hk)
    simp only [script, List.forall_mem_append]
    exact ⟨keyed_lines hs, hc, keyed_lines fun _ _ => trivial, keyed_lines fun _ _ => trivial,
      keyed_lines fun _ _ => trivial⟩

private theorem keyed_scripts (depth : Nat) (ss : List Subgraph) (h : ∀ k ∈ Subgraph.keysOf ss, IsWord k) :
    ∀ x ∈ scripts depth ss, x.2.Keyed := by
  cases ss with
  | nil => exact fun _ hx => nomatch hx
  | cons s rest =>
    have ho : (Line.opening s.name).Keyed := by cases s.name <;> trivial
    simp only [scripts, List.forall_mem_append, List.forall_mem_cons]
    exact ⟨ho, keyed_script (depth + 1) s fun k hk => h k (List.mem_append_left _ hk), trivial,
      keyed_scripts depth rest fun k hk => h k (List.mem_append_right _ hk)⟩

end

namespace Line

/-- The section of a subgraph's lines to which a line belongs. -/
def rank : Line → Nat
  | setting _ _ => 0
  | nodeDefaults _ => 1
  | edgeDefaults _ => 2
  | named _ => 3
  | unnamed => 3
  | node _ => 4
  | member _ => 5
  | edge _ => 6
  | closing => 7

private theorem PrintsAs.rank {l m : Line} (h : l.PrintsAs m) : l.rank = m.rank := by cases h <;> rfl

private theorem rank_opening (name : Option String) : (opening name).rank = 3 := by cases name <;> rfl

private theorem ofAttribute_cancel {a b : String × String} (h : (ofAttribute a).PrintsAs (ofAttribute b)) : a = b := by
  obtain ⟨k, v⟩ := a
  cases h
  rfl

private theorem nodeDefaults_cancel {a b : Attributes} (h : (nodeDefaults a).PrintsAs (nodeDefaults b)) : a = b := by
  cases h
  rfl

private theorem edgeDefaults_cancel {a b : Attributes} (h : (edgeDefaults a).PrintsAs (edgeDefaults b)) : a = b := by
  cases h
  rfl

private theorem member_cancel {a b : String} (h : (member a).PrintsAs (member b)) : a = b := by
  cases h
  rfl

private theorem node_cancel {n m : Node} (h : (node n).PrintsAs (node m)) : n.PrintsAs m := by
  cases h with
  | same => exact .refl n
  | node h => exact h

private theorem edge_cancel {e f : Edge} (h : (edge e).PrintsAs (edge f)) : e.PrintsAs f := by
  cases h with
  | same => exact .refl e
  | edge h => exact h

private theorem opening_cancel {a b : Option String} (h : (opening a).PrintsAs (opening b)) : a = b := by
  cases a <;> cases b <;> cases h <;> rfl

end Line

abbrev LinesPrintAs : List (Nat × Line) → List (Nat × Line) → Prop := List.Forall₂ fun x y => x.2.PrintsAs y.2

/-- What comes after a section belongs to a later one. -/
def After (k : Nat) (lines : List (Nat × Line)) : Prop := ∀ x ∈ lines.head?, k < x.2.rank

section after
variable {k m : Nat} {xs ys r r' : List (Nat × Line)}

private theorem After.mono (h : After m r) (hk : k ≤ m) : After k r := fun x hx => Nat.lt_of_le_of_lt hk (h x hx)

private theorem After.append (hx : ∀ x ∈ xs, x.2.rank = m) (hk : k < m) (hr : After k r) : After k (xs ++ r) := by
  cases xs with
  | nil => exact hr
  | cons x xs =>
    rintro y ⟨⟩
    rw [hx x List.mem_cons_self]
    exact hk

private theorem After.congr (h : LinesPrintAs xs ys) : After k xs ↔ After k ys := by
  cases h with
  | nil => exact Iff.rfl
  | cons hxy _ => simp [After, hxy.rank]

/-- Sections of one rank end together. -/
private theorem section_cancel (hx : ∀ x ∈ xs, x.2.rank = k) (hy : ∀ y ∈ ys, y.2.rank = k) (hr : After k r)
    (hr' : After k r') (h : LinesPrintAs (xs ++ r) (ys ++ r')) : LinesPrintAs xs ys ∧ LinesPrintAs r r' := by
  induction xs generalizing ys with
  | nil =>
    cases ys with
    | nil => exact ⟨.nil, h⟩
    | cons y ys =>
      have hlt : k < y.2.rank := (After.congr h).mp hr y rfl
      exact absurd (hy y List.mem_cons_self) (Nat.ne_of_gt hlt)
  | cons x xs ih =>
    cases ys with
    | nil =>
      have hlt : k < x.2.rank := (After.congr h).mpr hr' x rfl
      exact absurd (hx x List.mem_cons_self) (Nat.ne_of_gt hlt)
    | cons y ys =>
      obtain ⟨hxy, hrest⟩ := List.forall₂_cons.mp h
      obtain ⟨hlines, hlater⟩ := ih (List.forall_mem_cons.mp hx).2 (List.forall_mem_cons.mp hy).2 hrest
      exact ⟨.cons hxy hlines, hlater⟩

end after

section sections
variable {α : Type} (line : α → Line) {k m d d' : Nat} {r r' : List (Nat × Line)}

private theorem rank_lines (hrank : ∀ a, (line a).rank = k) (xs : List α) : ∀ x ∈ lines d line xs, x.2.rank = k :=
  List.forall_mem_map.mpr fun a _ => hrank a

private theorem After.lines (hrank : ∀ a, (line a).rank = m) (hk : k < m) (hr : After m r) (xs : List α) :
    After k (lines d line xs ++ r) := .append (rank_lines line hrank xs) hk (hr.mono (Nat.le_of_lt hk))

/-- A section of lines of one form shows where it ends and what it is made from. -/
private theorem lines_cancel {q : α → α → Prop} {xs ys : List α} (hrank : ∀ a, (line a).rank = k)
    (hline : ∀ a b, (line a).PrintsAs (line b) → q a b) (hr : After k r) (hr' : After k r')
    (h : LinesPrintAs (lines d line xs ++ r) (lines d' line ys ++ r')) : List.Forall₂ q xs ys ∧ LinesPrintAs r r' := by
  obtain ⟨hlines, hlater⟩ := section_cancel (rank_lines line hrank xs) (rank_lines line hrank ys) hr hr' h
  exact ⟨(List.forall₂_map_left_iff.mp (List.forall₂_map_right_iff.mp hlines)).imp hline, hlater⟩

end sections

section trees
variable {d : Nat} {r r' : List (Nat × Line)}

private theorem after_closing (d : Nat) (r : List (Nat × Line)) : After 6 ((d, .closing) :: r) := by
  rintro x ⟨⟩
  exact Nat.lt_succ_self 6

private theorem after_edges (hr : After 6 r) (edges : List Edge) : After 5 (lines d .edge edges ++ r) :=
  .lines .edge (fun _ => rfl) (Nat.lt_succ_self 5) hr edges

private theorem after_members (hr : After 5 r) (members : List String) : After 4 (lines d .member members ++ r) :=
  .lines .member (fun _ => rfl) (Nat.lt_succ_self 4) hr members

private theorem after_nodes (hr : After 4 r) (nodes : List Node) : After 3 (lines d .node nodes ++ r) :=
  .lines .node (fun _ => rfl) (Nat.lt_succ_self 3) hr nodes

private theorem after_scripts (hr : After 3 r) (ss : List Subgraph) : After 2 (scripts d ss ++ r) := by
  cases ss with
  | nil => exact hr.mono (by decide)
  | cons s rest =>
    rintro x ⟨⟩
    rw [Line.rank_opening]
    decide

private theorem scripts_not_after (s : Subgraph) (ss : List Subgraph) : ¬ After 3 (scripts d (s :: ss) ++ r) := by
  intro h
  have hlt := h _ rfl
  rw [Line.rank_opening] at hlt
  exact Nat.lt_irrefl 3 hlt

mutual

/-- The lines of a subgraph up to its closing brace show everything but its name. -/
private theorem script_cancel (s t : Subgraph) {d d' : Nat} {r r' : List (Nat × Line)} (hr : After 6 r)
    (hr' : After 6 r') (hname : s.name = t.name) (h : LinesPrintAs (script d s ++ r) (script d' t ++ r')) :
    s.PrintsAs t ∧ LinesPrintAs r r' := by
  cases s with
  | mk name attrs nodes edges members children =>
    cases t with
    | mk name' attrs' nodes' edges' members' children' =>
      obtain rfl : name = name' := hname
      simp only [script, List.append_assoc] at h
      -- from the back, each section is followed by lines of later ones only; from the front they end together
      have he := after_edges (d := d) hr edges
      have he' := after_edges (d := d') hr' edges'
      have hm := after_members (d := d) he members
      have hm' := after_members (d := d') he' members'
      have hn := after_nodes (d := d) hm nodes
      have hn' := after_nodes (d := d') hm' nodes'
      obtain ⟨hattrs, hfromChildren⟩ := lines_cancel .ofAttribute (fun _ => rfl) (fun _ _ => Line.ofAttribute_cancel)
        ((after_scripts hn children).mono (Nat.zero_le 2)) ((after_scripts hn' children').mono (Nat.zero_le 2)) h
      obtain ⟨hchildren, hfromNodes⟩ := scripts_cancel children children' hn hn' hfromChildren
      obtain ⟨hnodes, hfromMembers⟩ := lines_cancel .node (fun _ => rfl) (fun _ _ => Line.node_cancel) hm hm' hfromNodes
      obtain ⟨hmembers, hfromEdges⟩ := lines_cancel .member (fun _ => rfl) (fun _ _ => Line.member_cancel) he he'
        hfromMembers
      obtain ⟨hedges, hlater⟩ := lines_cancel .edge (fun _ => rfl) (fun _ _ => Line.edge_cancel) hr hr' hfromEdges
      rw [List.forall₂_eq_eq_eq] at hattrs hmembers
      subst hattrs hmembers
      exact ⟨.mk hnodes hedges hchildren, hlater⟩

private theorem scripts_cancel (ss ts : List Subgraph) {d d' : Nat} {r r' : List (Nat × Line)} (hr : After 3 r)
    (hr' : After 3 r') (h : LinesPrintAs (scripts d ss ++ r) (scripts d' ts ++ r')) :
    List.Forall₂ Subgraph.PrintsAs ss ts ∧ LinesPrintAs r r' := by
  cases ss with
  | nil =>
    cases ts with
    | nil => exact ⟨.nil, h⟩
    | cons t ts => exact absurd ((After.congr h).mp hr) (scripts_not_after t ts)
  | cons s ss =>
    cases ts with
    | nil => exact absurd ((After.congr h).mpr hr') (scripts_not_after s ss)
    | cons t ts =>
      simp only [scripts, List.cons_append, List.append_assoc] at h
      obtain ⟨hopen, hrest⟩ := List.forall₂_cons.mp h
      obtain ⟨hs, hclose⟩ := script_cancel s t (after_closing d _) (after_closing d' _) (Line.opening_cancel hopen) hrest
      obtain ⟨hss, hlater⟩ := scripts_cancel ss ts hr hr' (List.forall₂_cons.mp hclose).2
      exact ⟨.cons hs hss, hlater⟩

end

end trees

/-- Defaults are written only if there are any. -/
def given (attrs : Attributes) : List Attributes := if attrs.isEmpty then [] else [attrs]

private theorem eq_of_mem_given {a attrs : Attributes} (h : a ∈ given attrs) : a = attrs := by
  rw [given] at h
  split at h
  · cases h
  · exact List.mem_singleton.mp h

private theorem given_injective : Function.Injective given := by
  intro a b h
  cases a <;> cases b <;> simp_all [given]

private theorem defaults_eq (line : Attributes → Line) {subject : String}
    (h : ∀ attrs, (line attrs).text = subject ++ " [" ++ attributeList attrs ++ "]") (attrs : Attributes) :
    defaults subject attrs = (lines 1 line (given attrs)).map lineText := by
  rw [defaults, given]
  split
  · rfl
  · simp [lines, lineText, h, String.append_assoc]

end Dot

namespace Graph
open Dot

def script (g : Graph) : List (Nat × Line) :=
  lines 1 .ofAttribute g.attrs ++ (lines 1 .nodeDefaults (given g.nodeDefaults) ++
    (lines 1 .edgeDefaults (given g.edgeDefaults) ++ (Dot.script 1 g.root ++ [(0, .closing)])))

private theorem dotLines_eq (g : Graph) : g.dotLines = "digraph \x7b" :: g.script.map lineText := by
  have hnode : defaults "node" g.nodeDefaults = _ := defaults_eq .nodeDefaults (fun _ => rfl) g.nodeDefaults
  have hedge : defaults "edge" g.edgeDefaults = _ := defaults_eq .edgeDefaults (fun _ => rfl) g.edgeDefaults
  have hclose : lineText (0, .closing) = "\x7d" := rfl
  simp only [dotLines, script, List.map_append, hnode, hedge, body_eq, List.map_cons, List.map_nil, hclose,
    List.cons_append, List.append_assoc]
  simp [lines, lineText, Line.ofAttribute, Line.text]

theorem toList_toDot (g : Graph) : g.toDot.toList =
    "// ".toList ++ (g.comment.toList ++ '\n' :: ("digraph \x7b\n".toList ++ written g.script)) := by
  have hlines : (g.script.map lineText).flatMap (fun l => (l ++ "\n").toList) = written g.script := by
    rw [List.flatMap_map, written]
    exact List.flatMap_congr fun x _ => String.toList_append
  rw [toDot, String.toList_join, dotLines_eq, List.flatMap_map, List.flatMap_cons, List.flatMap_cons, hlines]
  simp

theorem keyed_of_worded {g : Graph} (hg : g.Worded) : ∀ x ∈ g.script, x.2.Keyed := by
  have hnode : ∀ a ∈ given g.nodeDefaults, (Line.nodeDefaults a).Keyed := fun _ ha =>
    eq_of_mem_given ha ▸ hg.nodeDefaults
  have hedge : ∀ a ∈ given g.edgeDefaults, (Line.edgeDefaults a).Keyed := fun _ ha =>
    eq_of_mem_given ha ▸ hg.edgeDefaults
  simp only [script, List.forall_mem_append]
  exact ⟨keyed_lines hg.attrs, keyed_lines hnode, keyed_lines hedge, keyed_script 1 g.root hg.keys,
    fun x hx => List.mem_singleton.mp hx ▸ trivial⟩

/-- Without attributes a root begins with its children, or a later section. -/
private theorem after_root {s : Subgraph} (h : s.attrs = []) : After 2 (Dot.script 1 s ++ [(0, .closing)]) := by
  cases s with
  | mk name attrs nodes edges members children =>
    obtain rfl : attrs = [] := h
    simp only [Dot.script, List.append_assoc]
    exact after_scripts (after_nodes (after_members (after_edges (after_closing 0 []) edges) members) nodes) children

private theorem after_edgeDefaults {g : Graph} (hg : g.Printable) :
    After 1 (lines 1 .edgeDefaults (given g.edgeDefaults) ++ (Dot.script 1 g.root ++ [(0, .closing)])) :=
  .lines .edgeDefaults (fun _ => rfl) (Nat.lt_succ_self 1) (after_root hg.rootAttrs) _

private theorem after_nodeDefaults {g : Graph} (hg : g.Printable) :
    After 0 (lines 1 .nodeDefaults (given g.nodeDefaults) ++
      (lines 1 .edgeDefaults (given g.edgeDefaults) ++ (Dot.script 1 g.root ++ [(0, .closing)]))) :=
  .lines .nodeDefaults (fun _ => rfl) (Nat.lt_succ_self 0) (after_edgeDefaults hg) _

/-- The lines show the graph section by section. -/
private theorem script_injective {g h : Graph} (hg : g.Printable) (hh : h.Printable) (hcomment : g.comment = h.comment)
    (hlines : LinesPrintAs g.script h.script) : g.PrintsAs h := by
  obtain ⟨hattrs, hfromNodes⟩ := lines_cancel .ofAttribute (fun _ => rfl) (fun _ _ => Line.ofAttribute_cancel)
    (after_nodeDefaults hg) (after_nodeDefaults hh) hlines
  obtain ⟨hnode, hfromEdges⟩ := lines_cancel .nodeDefaults (fun _ => rfl) (fun _ _ => Line.nodeDefaults_cancel)
    (after_edgeDefaults hg) (after_edgeDefaults hh) hfromNodes
  obtain ⟨hedge, hfromRoot⟩ := lines_cancel .edgeDefaults (fun _ => rfl) (fun _ _ => Line.edgeDefaults_cancel)
    (after_root hg.rootAttrs) (after_root hh.rootAttrs) hfromEdges
  rw [List.forall₂_eq_eq_eq] at hattrs hnode hedge
  have hname : g.root.name = h.root.name := hg.rootName.trans hh.rootName.symm
  obtain ⟨hroot, -⟩ := script_cancel g.root h.root (after_closing 0 []) (after_closing 0 []) hname hfromRoot
  exact ⟨hcomment, hattrs, given_injective hnode, given_injective hedge, hroot⟩

/-- Graphs with the same text are the same, as far as they are written. -/
theorem printsAs_of_toDot {g h : Graph} (hg : g.Printable) (hh : h.Printable) (htext : g.toDot = h.toDot) :
    g.PrintsAs h := by
  have hchars := congrArg String.toList htext
  rw [toList_toDot, toList_toDot] at hchars
  have hinside {c : String} (hc : '\n' ∉ c.toList) : ∀ a ∈ c.toList, decide (a ≠ '\n') :=
    fun a ha => decide_eq_true fun he => hc (he ▸ ha)
  have hend (r : List Char) : ∀ a ∈ ('\n' :: r).head?, ¬ decide (a ≠ '\n') := by
    rintro a ⟨⟩
    decide
  obtain ⟨hcomment, hrest⟩ := run_cancel (hinside hg.comment) (hinside hh.comment) (hend _) (hend _)
    (List.append_cancel_left hchars)
  have hwritten := List.append_cancel_left (List.cons.inj hrest).2
  exact script_injective hg hh (String.toList_inj.mp hcomment)
    (written_cancel (keyed_of_worded hg.toWorded) (keyed_of_worded hh.toWorded) hwritten)

theorem toDot_congr {g h : Graph} (hp : g.PrintsAs h) : g.toDot = h.toDot := by
  have hbody := body_congr 1 g.root h.root hp.root
  rw [toDot, toDot, dotLines, dotLines, hp.comment, hp.attrs, hp.nodeDefaults, hp.edgeDefaults, hbody]

end Graph

end ProcessDiagram
