import Mathlib.Data.List.TakeWhile
import ProcessDiagram.Proofs.DotText

/-! The lines of DOT text, one for each statement. A line feed in a graph is escaped and breaks no line; in the comment it
is not. -/
namespace ProcessDiagram

namespace Dot

/-! Pieces without a line feed. -/

private theorem no_break_quoted (s : String) : '\n' ∉ quoted s := by
  rw [quoted, List.mem_cons, List.mem_append, List.mem_singleton]
  rintro (h | h | h)
  · exact absurd h (by decide)
  · exact notMem_escaped (.inl rfl) s.toList h
  · exact absurd h (by decide)

private theorem no_break_word {s : List Char} (h : ∀ c ∈ s, isWordChar c) : '\n' ∉ s :=
  fun hmem => absurd (h _ hmem) (by decide)

private theorem no_break_assignment {k : String} (hk : IsWord k) (v : String) : '\n' ∉ (assignment k v).toList := by
  rw [toList_assignment, toList_quote, List.mem_append, List.mem_cons]
  rintro (h | h | h)
  · exact no_break_word hk.chars h
  · exact absurd h (by decide)
  · exact no_break_quoted v h

private theorem no_break_spaced {attrs : Attributes} (h : Keyed attrs) : '\n' ∉ spaced attrs := by
  intro hmem
  obtain ⟨a, ha, hc⟩ := List.mem_flatMap.mp hmem
  obtain hblank | hc := List.mem_cons.mp hc
  · exact absurd hblank (by decide)
  · exact no_break_assignment (h a ha) a.2 hc

private theorem no_break_bracketed {attrs : Attributes} (h : Keyed attrs) : '\n' ∉ bracketed attrs := by
  have hlist : '\n' ∉ (attributeList attrs).toList := by
    cases attrs with
    | nil => decide
    | cons a attrs =>
      have hspaced := no_break_spaced h
      rw [spaced_cons] at hspaced
      exact fun hmem => hspaced (List.mem_cons_of_mem _ hmem)
  simp only [bracketed, List.mem_cons, List.mem_append, List.cons_append, not_or]
  exact ⟨by decide, by decide, hlist, by decide⟩

private theorem no_break_nodeTail (n : Node) : '\n' ∉ nodeTail n := by
  have hlabel := no_break_assignment (k := "label") (by decide) n.label
  have hshape : '\n' ∉ n.style.shape.text.toList := by cases n.style.shape <;> decide
  have hfields := no_break_spaced (nodeFields_keyed n.style)
  simp only [nodeTail, List.mem_cons, List.mem_append, List.cons_append, not_or]
  exact ⟨by decide, by decide, ⟨⟨⟨hlabel, by decide⟩, hshape⟩, hfields⟩, by decide⟩

private theorem no_break_edgeTail (e : Edge) : '\n' ∉ edgeTail e := by
  have htarget := no_break_quoted e.target
  have hfields : '\n' ∉ if present (edgeFields e) = [] then [] else bracketed (present (edgeFields e)) := by
    split
    · exact List.not_mem_nil
    · exact no_break_bracketed (edgeFields_keyed e)
  simp only [edgeTail, toList_quote, List.mem_cons, List.mem_append, List.cons_append, not_or]
  exact ⟨by decide, by decide, by decide, by decide, htarget, hfields⟩

private theorem Line.no_break_behind {l : Line} (h : l.Keyed) : '\n' ∉ l.behind := by
  cases l with
  | setting k v =>
    rw [behind, toList_quote, List.mem_cons, not_or]
    exact ⟨by decide, no_break_quoted v⟩
  | nodeDefaults attrs => exact no_break_bracketed h
  | edgeDefaults attrs => exact no_break_bracketed h
  | named name =>
    have hname := no_break_quoted name
    simp only [behind, toList_quote, List.mem_cons, List.mem_append, List.cons_append, not_or]
    exact ⟨by decide, hname, by decide⟩
  | unnamed => decide
  | node n => exact fun hmem => (List.mem_append.mp hmem).elim (no_break_quoted n.id) (no_break_nodeTail n)
  | member id => exact no_break_quoted id
  | edge e => exact fun hmem => (List.mem_append.mp hmem).elim (no_break_quoted e.source) (no_break_edgeTail e)
  | closing => decide

private theorem Line.no_break {l : Line} (h : l.Keyed) : '\n' ∉ l.text.toList := by
  rw [toList_text, List.mem_append, not_or]
  exact ⟨no_break_word (word_chars h), no_break_behind h⟩

/-! Indentation. -/

def unindented (line : List Char) : String := String.ofList (line.dropWhile (· = ' '))

private theorem unindented_of_not_blank {s : String} (h : ∀ c ∈ s.toList.head?, ¬ c = ' ') :
    unindented s.toList = s := by
  rw [unindented]
  cases hs : s.toList with
  | nil => exact String.toList_inj.mp hs.symm
  | cons c r =>
    have hc : ¬ c = ' ' := h c (by rw [hs]; rfl)
    rw [List.dropWhile_cons_of_neg (by simpa using hc), ← hs, String.ofList_toList]

private theorem unindented_indent {s : String} (h : ∀ c ∈ s.toList.head?, ¬ c = ' ') (depth : Nat) :
    unindented (indent depth ++ s).toList = s := by
  have hblank : ∀ c ∈ (indent depth).toList, decide (c = ' ') := fun c hc => decide_eq_true (mem_indent hc)
  rw [unindented, String.toList_append, List.dropWhile_append_of_pos hblank]
  exact unindented_of_not_blank h

/-- Each line is a piece between line feeds; behind the last line feed there is nothing. -/
private theorem splitOn_written {lines : List (Nat × Line)} (h : ∀ x ∈ lines, x.2.Keyed) :
    (written lines).splitOn '\n' = lines.map (fun x => (lineText x).toList) ++ [[]] := by
  induction lines with
  | nil => exact List.splitOn_nil '\n'
  | cons x lines ih =>
    obtain ⟨hx, hrest⟩ := List.forall_mem_cons.mp h
    have hline : '\n' ∉ (lineText x).toList := by
      rw [lineText, String.toList_append, List.mem_append, not_or]
      exact ⟨fun hmem => absurd (mem_indent hmem) (by decide), Line.no_break hx⟩
    have hcons : written (x :: lines) = (lineText x).toList ++ '\n' :: written lines := by
      rw [written_cons, lineText, String.toList_append, List.append_assoc]
    rw [hcons, List.splitOn_append_cons_self_of_not_mem hline, ih hrest]
    rfl

end Dot

namespace Subgraph

mutual

/-- The subgraph and those below it, a parent before its children. -/
def family : Subgraph → List Subgraph
  | mk name attrs nodes edges members children => mk name attrs nodes edges members children :: familyOf children

def familyOf : List Subgraph → List Subgraph
  | [] => []
  | s :: rest => s.family ++ familyOf rest

end

def descendants (s : Subgraph) : List Subgraph := familyOf s.children

private theorem family_eq (s : Subgraph) : s.family = s :: s.descendants := by
  cases s
  rfl

/-- The statements of a subgraph about itself: its attributes and its members. -/
def listing (s : Subgraph) : List String := s.attrs.map (fun (k, v) => Dot.assignment k v) ++ s.members.map Dot.quote

def bounds (s : Subgraph) : List String := [Dot.opening s.name, "\x7d"]

end Subgraph

namespace Dot

def texts (lines : List (Nat × Line)) : List String := lines.map (·.2.text)

private theorem texts_scripts_cons (depth : Nat) (s : Subgraph) (rest : List Subgraph) :
    texts (scripts depth (s :: rest)) =
    opening s.name :: (texts (script (depth + 1) s) ++ "\x7d" :: texts (scripts depth rest)) := by
  simp only [texts, scripts, List.map_cons, List.map_append, Line.text_opening]
  rfl

open Subgraph

mutual

/-- A subgraph's lines say what it and those below it say of themselves, and what the queries list. -/
private theorem script_perm (depth : Nat) (s : Subgraph) : (texts (script depth s)).Perm (s.family.flatMap listing ++
    s.descendants.flatMap bounds ++ s.allNodes.map nodeStatement ++ s.allEdges.map edgeStatement) := by
  cases s with
  | mk name attrs nodes edges members children =>
    refine List.perm_iff_count.mpr fun line => ?_
    -- the sections stand in another order than the queries, so each is counted on its own
    have hchildren := (scripts_perm depth children).count_eq line
    have htexts : texts (script depth (.mk name attrs nodes edges members children)) =
        attrs.map (fun (k, v) => assignment k v) ++ (texts (scripts depth children) ++ (nodes.map nodeStatement ++
          (members.map quote ++ edges.map edgeStatement))) := by
      simp only [texts, script, lines, Line.ofAttribute, List.map_append, List.map_map]
      rfl
    rw [htexts]
    simp only [family, descendants, Subgraph.children, allNodes, allEdges, listing, Subgraph.attrs, Subgraph.members,
      List.flatMap_cons, List.map_append, List.count_append] at hchildren ⊢
    omega

private theorem scripts_perm (depth : Nat) (ss : List Subgraph) : (texts (scripts depth ss)).Perm
    ((familyOf ss).flatMap listing ++ (familyOf ss).flatMap bounds ++ (nodesOf ss).map nodeStatement ++
      (edgesOf ss).map edgeStatement) := by
  cases ss with
  | nil => exact .nil
  | cons s rest =>
    refine List.perm_iff_count.mpr fun line => ?_
    have hfirst := (script_perm (depth + 1) s).count_eq line
    have hrest := (scripts_perm depth rest).count_eq line
    have hbounds : s.family.flatMap bounds = opening s.name :: "\x7d" :: s.descendants.flatMap bounds := by
      rw [family_eq, List.flatMap_cons]
      rfl
    rw [texts_scripts_cons]
    simp only [familyOf, hbounds, nodesOf, edgesOf, List.flatMap_append, List.map_append, List.count_append,
      List.count_cons] at hfirst hrest ⊢
    omega

end

end Dot

namespace Graph
open Dot

def defaultsListing (subject : String) (attrs : Attributes) : List String :=
  if attrs.isEmpty then [] else [subject ++ " [" ++ attributeList attrs ++ "]"]

def statements (g : Graph) : List String :=
  ["// " ++ g.comment, "digraph \x7b"] ++ g.attrs.map (fun (k, v) => assignment k v) ++
    defaultsListing "node" g.nodeDefaults ++ defaultsListing "edge" g.edgeDefaults ++
    g.root.family.flatMap Subgraph.listing ++ g.root.descendants.flatMap Subgraph.bounds ++
    g.nodes.map nodeStatement ++ g.edges.map edgeStatement ++ ["\x7d"]

private theorem texts_given {subject : String} (line : Attributes → Line)
    (h : ∀ attrs, (line attrs).text = subject ++ " [" ++ attributeList attrs ++ "]") (attrs : Attributes) :
    texts (lines 1 line (given attrs)) = defaultsListing subject attrs := by
  rw [given, defaultsListing]
  split
  · rfl
  · exact congrArg ([·]) (h attrs)

private theorem texts_script_perm (g : Graph) :
    (["// " ++ g.comment, "digraph \x7b"] ++ texts g.script).Perm g.statements := by
  refine List.perm_iff_count.mpr fun line => ?_
  have hroot := (script_perm 1 g.root).count_eq line
  have hnode : _ = defaultsListing "node" g.nodeDefaults :=
    texts_given .nodeDefaults (fun _ => rfl) g.nodeDefaults
  have hedge : _ = defaultsListing "edge" g.edgeDefaults :=
    texts_given .edgeDefaults (fun _ => rfl) g.edgeDefaults
  have htexts : texts g.script = g.attrs.map (fun (k, v) => assignment k v) ++
      (texts (lines 1 .nodeDefaults (given g.nodeDefaults)) ++ (texts (lines 1 .edgeDefaults (given g.edgeDefaults)) ++
        (texts (Dot.script 1 g.root) ++ ["\x7d"]))) := by
    simp only [texts, script, lines, Line.ofAttribute, List.map_append, List.map_map]
    rfl
  rw [htexts, hnode, hedge]
  simp only [statements, nodes, edges, List.count_append] at hroot ⊢
  omega

/-- Between line feeds stand the comment, the line that opens the graph and the lines of its script. -/
private theorem splitOn_toDot {g : Graph} (hg : g.Worded) : g.toDot.toList.splitOn '\n' =
    ("// " ++ g.comment).toList :: "digraph \x7b".toList :: (g.script.map (fun x => (lineText x).toList) ++ [[]]) := by
  have hcomment : '\n' ∉ ("// " ++ g.comment).toList := by
    rw [String.toList_append, List.mem_append, not_or]
    exact ⟨by decide, hg.comment⟩
  have htext : g.toDot.toList =
      ("// " ++ g.comment).toList ++ '\n' :: ("digraph \x7b".toList ++ '\n' :: written g.script) := by
    rw [toList_toDot, String.toList_append, List.append_assoc]
    rfl
  rw [htext, List.splitOn_append_cons_self_of_not_mem hcomment, List.splitOn_append_cons_self_of_not_mem (by decide),
    splitOn_written (keyed_of_worded hg)]

private theorem unindented_lines {g : Graph} (hg : g.Worded) :
    (g.script.map fun x => (lineText x).toList).map unindented = texts g.script := by
  rw [List.map_map, texts]
  refine List.map_congr_left fun x hx => ?_
  have hstart := Line.not_blank (keyed_of_worded hg x hx) []
  rw [List.append_nil] at hstart
  exact unindented_indent hstart x.1

/-- The lines of the text are the statements of the graph, each once: those of the comment, the graph, its defaults and
its subgraphs, and one for every node and every edge that the queries find. Behind the last line feed there is nothing. -/
theorem lines_are_statements (g : Graph) (hg : g.Worded) : ∃ lines : List (List Char),
    g.toDot.toList.splitOn '\n' = lines ++ [[]] ∧ (lines.map unindented).Perm g.statements := by
  refine ⟨("// " ++ g.comment).toList :: "digraph \x7b".toList :: g.script.map (fun x => (lineText x).toList),
    splitOn_toDot hg, ?_⟩
  have hcomment : unindented ("// " ++ g.comment).toList = "// " ++ g.comment := by
    refine unindented_of_not_blank fun c hc => ?_
    rw [String.toList_append] at hc
    cases hc
    decide
  have hopen : unindented "digraph \x7b".toList = "digraph \x7b" := by decide
  rw [List.map_cons, List.map_cons, hcomment, hopen, unindented_lines hg]
  exact texts_script_perm g

def nested : Graph :=
  { Graph.empty "boxes" with
    attrs := [("rankdir", "L\nR")]
    nodeDefaults := [("fontname", "Helvetica")]
    root := .mk none [] [.ofKind "a" "x\ny" .task] [.flow "a" "b\n", .note "b\n" "a"] []
      [.mk (some "in\ner") [("style", "dashed")] [.ofKind "b\n" "" .loopMarker] [.flow "a" "b\n"] ["a"]
        [.mk none [("rank", "same")] [] [] ["b\n"] []]] }

theorem nested_lines_are_statements : nested.Worded ∧ nested.statements.length = 18 ∧ ∃ lines : List (List Char),
    nested.toDot.toList.splitOn '\n' = lines ++ [[]] ∧ (lines.map unindented).Perm nested.statements := by
  have hworded : nested.Worded :=
    { comment := show '\n' ∉ "boxes".toList by decide
      attrs := show Dot.Keyed [("rankdir", "L\nR")] by decide
      nodeDefaults := show Dot.Keyed [("fontname", "Helvetica")] by decide
      edgeDefaults := show Dot.Keyed [] by decide
      keys := show ∀ k ∈ ["style", "rank"], Dot.IsWord k by decide }
  exact ⟨hworded, rfl, lines_are_statements nested hworded⟩

end Graph

/-! The comment is not escaped: what it has behind a line feed comes to stand among the statements. -/

namespace Dot

def firstLine (text : List Char) : List Char := text.takeWhile (· ≠ '\n')

def behindFirstLine (text : List Char) : List Char := (text.dropWhile (· ≠ '\n')).tail

def spill (comment : List Char) : List Char := if '\n' ∈ comment then behindFirstLine comment ++ ['\n'] else []

private theorem spill_eq_nil_iff (comment : List Char) : spill comment = [] ↔ '\n' ∉ comment := by
  rw [spill]
  split
  · rename_i hmem
    simp [hmem]
  · rename_i hmem
    simp [hmem]

private theorem firstLine_eq_iff (comment : List Char) : firstLine comment = comment ↔ '\n' ∉ comment := by
  rw [firstLine, List.takeWhile_eq_self_iff]
  constructor
  · intro h hmem
    exact absurd (h _ hmem) (by decide)
  · intro h c hc
    exact decide_eq_true fun hbreak => h (hbreak ▸ hc)

private theorem firstLine_append (s r : List Char) : firstLine (s ++ '\n' :: r) = firstLine s := by
  induction s with
  | nil => rfl
  | cons c s ih =>
    by_cases hc : c = '\n'
    · subst hc
      rfl
    · simp only [firstLine, List.cons_append] at ih ⊢
      rw [List.takeWhile_cons_of_pos (by simpa using hc), List.takeWhile_cons_of_pos (by simpa using hc), ih]

private theorem behindFirstLine_append (s r : List Char) : behindFirstLine (s ++ '\n' :: r) = spill s ++ r := by
  induction s with
  | nil => rfl
  | cons c s ih =>
    by_cases hc : c = '\n'
    · subst hc
      simp [spill, behindFirstLine]
    · have hskip (t : List Char) : behindFirstLine (c :: t) = behindFirstLine t := by
        rw [behindFirstLine, List.dropWhile_cons_of_pos (by simpa using hc), behindFirstLine]
      have hspill : spill (c :: s) = spill s := by
        simp only [spill, List.mem_cons, hskip, Ne.symm hc, false_or]
      rw [List.cons_append, hskip, ih, hspill]

end Dot

namespace Graph
open Dot

/-- The first line is the comment's first line, and what follows is what the comment spills and then the statements. So
another comment leaves everything behind the first line as it is exactly if it spills the same; a comment without a line
feed stays on its line and spills nothing. -/
theorem comment_spills (g : Graph) (c d : String) :
    firstLine { g with comment := c }.toDot.toList = "// ".toList ++ firstLine c.toList ∧
    (behindFirstLine { g with comment := c }.toDot.toList = behindFirstLine { g with comment := d }.toDot.toList ↔
      spill c.toList = spill d.toList) ∧
    (firstLine c.toList = c.toList ↔ '\n' ∉ c.toList) ∧ (spill c.toList = [] ↔ '\n' ∉ c.toList) := by
  have htext (c : String) : { g with comment := c }.toDot.toList =
      ("// ".toList ++ c.toList) ++ '\n' :: ("digraph \x7b\n".toList ++ written g.script) := by
    rw [toList_toDot, List.append_assoc]
    rfl
  have hspill (c : String) : spill ("// ".toList ++ c.toList) = spill c.toList := by
    simp [spill, behindFirstLine]
  refine ⟨?_, ?_, firstLine_eq_iff c.toList, spill_eq_nil_iff c.toList⟩
  · rw [htext, firstLine_append]
    rfl
  · rw [htext, htext, behindFirstLine_append, behindFirstLine_append, hspill, hspill, List.append_left_inj]

theorem comment_not_confined : ¬ ∀ (g : Graph) (c d : String),
    behindFirstLine { g with comment := c }.toDot.toList = behindFirstLine { g with comment := d }.toDot.toList := by
  intro h
  exact absurd (h (.empty "") "a" "a\nb") (by decide +kernel)

end Graph

end ProcessDiagram
