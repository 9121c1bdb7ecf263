import Std.Data.String.ToNat
import ProcessDiagram.Proofs.DotLexeme

/-! The statements of DOT text, one a line. What two of them say is the same if their lines are. -/
namespace ProcessDiagram

/-! Measures count as equal if they are written alike; the kind of a node is not written. -/

structure NodeStyle.PrintsAs (s t : NodeStyle) : Prop where
  shape : s.shape = t.shape
  style : s.style = t.style
  fillColor : s.fillColor = t.fillColor
  penWidth : s.penWidth.map (·.text) = t.penWidth.map (·.text)
  width : s.width.map (·.text) = t.width.map (·.text)
  height : s.height.map (·.text) = t.height.map (·.text)
  margin : s.margin = t.margin
  fontSize : s.fontSize = t.fontSize
  fontColor : s.fontColor = t.fontColor

structure Node.PrintsAs (n m : Node) : Prop where
  id : n.id = m.id
  label : n.label = m.label
  style : n.style.PrintsAs m.style

structure Edge.PrintsAs (e f : Edge) : Prop where
  source : e.source = f.source
  target : e.target = f.target
  style : e.style = f.style
  constraint : e.constraint = f.constraint
  arrowhead : e.arrowhead = f.arrowhead
  penWidth : e.penWidth.map (·.text) = f.penWidth.map (·.text)

@[refl] theorem Node.PrintsAs.refl (n : Node) : n.PrintsAs n := ⟨rfl, rfl, rfl, rfl, rfl, rfl, rfl, rfl, rfl, rfl, rfl⟩

@[refl] theorem Edge.PrintsAs.refl (e : Edge) : e.PrintsAs e := ⟨rfl, rfl, rfl, rfl, rfl, rfl⟩

namespace Dot

def nodeFields (s : NodeStyle) : Fields :=
  [("style", s.style), ("fillcolor", s.fillColor), ("penwidth", s.penWidth.map (·.text)),
   ("width", s.width.map (·.text)), ("height", s.height.map (·.text)), ("margin", s.margin),
   ("fontsize", s.fontSize.map toString), ("fontcolor", s.fontColor)]

def edgeFields (e : Edge) : Fields :=
  [("style", e.style.attribute), ("constraint", if e.constraint then none else some "false"),
   ("arrowhead", if e.arrowhead then none else some "none"), ("penwidth", e.penWidth.map (·.text))]

private theorem nodeAttributes_eq (n : Node) : nodeAttributes n =
    assignment "label" n.label :: ("shape=" ++ n.style.shape.text) ::
      (present (nodeFields n.style)).map fun (k, v) => assignment k v := by
  rw [← reduceOption_assignments]
  rfl

private theorem edgeAttributes_eq (e : Edge) :
    edgeAttributes e = (present (edgeFields e)).map fun (k, v) => assignment k v := by
  rw [← reduceOption_assignments]
  rfl

private theorem keyed_present {fields : Fields} (h : ∀ k ∈ fields.map (·.1), IsWord k) : Keyed (present fields) :=
  fun _ ha => h _ (fst_mem_of_present ha)

theorem nodeFields_keyed (s : NodeStyle) : Keyed (present (nodeFields s)) :=
  keyed_present (by simp only [nodeFields, List.map_cons, List.map_nil]; decide)

theorem edgeFields_keyed (e : Edge) : Keyed (present (edgeFields e)) :=
  keyed_present (by simp only [edgeFields, List.map_cons, List.map_nil]; decide)

private theorem shape_text_injective : Function.Injective Shape.text := by
  intro a b h
  cases a <;> cases b <;> first | rfl | (revert h; decide)

private theorem edgeStyle_attribute_injective : Function.Injective EdgeStyle.attribute := by
  intro a b h
  cases a <;> cases b <;> first | rfl | (revert h; decide)

/-- The fields show all of a style but its shape. -/
private theorem printsAs_of_nodeFields {s t : NodeStyle} (hs : s.shape = t.shape) (h : nodeFields s = nodeFields t) :
    s.PrintsAs t := by
  simp only [nodeFields, List.cons.injEq, Prod.mk.injEq, true_and, and_true] at h
  obtain ⟨hstyle, hfill, hpen, hwidth, hheight, hmargin, hsize, hcolor⟩ := h
  refine ⟨hs, hstyle, hfill, hpen, hwidth, hheight, hmargin, ?_, hcolor⟩
  exact Option.map_injective (fun m n h => Nat.repr_injective (by simpa [Nat.toString_eq_repr] using h)) hsize

private theorem printsAs_of_edgeFields {e f : Edge} (hs : e.source = f.source) (ht : e.target = f.target)
    (h : edgeFields e = edgeFields f) : e.PrintsAs f := by
  have flag {a b : Bool} {s : String} (h : (if a then none else some s) = if b then none else some s) : a = b := by
    cases a <;> cases b <;> simp_all
  simp only [edgeFields, List.cons.injEq, Prod.mk.injEq, true_and, and_true] at h
  obtain ⟨hstyle, hconstraint, harrow, hpen⟩ := h
  exact ⟨hs, ht, edgeStyle_attribute_injective hstyle, flag hconstraint, flag harrow, hpen⟩

/-! What is not written makes no difference. -/

theorem nodeStatement_congr {n m : Node} (h : n.PrintsAs m) : nodeStatement n = nodeStatement m := by
  have hs := h.style
  have hfields : nodeFields n.style = nodeFields m.style := by
    simp only [nodeFields, hs.style, hs.fillColor, hs.penWidth, hs.width, hs.height, hs.margin, hs.fontSize, hs.fontColor]
  rw [nodeStatement, nodeStatement, nodeAttributes_eq, nodeAttributes_eq, h.id, h.label, hs.shape, hfields]

theorem edgeStatement_congr {e f : Edge} (h : e.PrintsAs f) : edgeStatement e = edgeStatement f := by
  have hfields : edgeFields e = edgeFields f := by
    simp only [edgeFields, h.style, h.constraint, h.arrowhead, h.penWidth]
  rw [edgeStatement, edgeStatement, edgeAttributes_eq, edgeAttributes_eq, h.source, h.target, hfields]

/-! What stands behind the id at the start of a line. -/

def nodeTail (n : Node) : List Char :=
  ' ' :: '[' :: (assignment "label" n.label).toList ++ " shape=".toList ++ n.style.shape.text.toList ++
    spaced (present (nodeFields n.style)) ++ [']']

def edgeTail (e : Edge) : List Char :=
  ' ' :: '-' :: '>' :: ' ' :: (quote e.target).toList ++
    if present (edgeFields e) = [] then [] else bracketed (present (edgeFields e))

private theorem toList_nodeStatement (n : Node) : (nodeStatement n).toList = (quote n.id).toList ++ nodeTail n := by
  rw [nodeStatement, nodeAttributes_eq]
  simp only [String.toList_append, toList_intercalate_cons, List.flatMap_cons, List.flatMap_map]
  simp [nodeTail, spaced]

private theorem toList_edgeStatement (e : Edge) : (edgeStatement e).toList = (quote e.source).toList ++ edgeTail e := by
  rw [edgeStatement, edgeAttributes_eq, edgeTail]
  cases present (edgeFields e) with
  | nil => simp
  | cons => simp [bracketed, attributeList]

private theorem nodeTail_cancel {n m : Node} (hid : n.id = m.id) {r r' : List Char}
    (h : nodeTail n ++ r = nodeTail m ++ r') : n.PrintsAs m ∧ r = r' := by
  simp only [nodeTail, List.cons_append, List.append_assoc, List.cons.injEq, true_and] at h
  obtain ⟨-, hlabel, hrest⟩ := assignment_cancel (by decide) (by decide) h
  have hword (s : Shape) : ∀ c ∈ s.text.toList, isWordChar c :=
    List.all_eq_true.mp (by cases s <;> decide)
  have hstop (attrs : Attributes) (r : List Char) : ∀ c ∈ (spaced attrs ++ ']' :: r).head?, ¬ isWordChar c := by
    cases attrs with
    | nil =>
      rintro c ⟨⟩
      decide
    | cons =>
      rintro c ⟨⟩
      decide
  obtain ⟨hshape, hfields⟩ := run_cancel (hword _) (hword _) (hstop _ _) (hstop _ _) (List.append_cancel_left hrest)
  obtain ⟨hpresent, hr⟩ := spaced_cancel (nodeFields_keyed _) (nodeFields_keyed _) hfields
  refine ⟨⟨hid, hlabel, printsAs_of_nodeFields (shape_text_injective (String.toList_inj.mp hshape)) ?_⟩, hr⟩
  exact present_cancel rfl (by simp [nodeFields]) hpresent

private theorem edgeTail_cancel {e f : Edge} (hs : e.source = f.source) {r r' : List Char}
    (h : edgeTail e ++ '\n' :: r = edgeTail f ++ '\n' :: r') : e.PrintsAs f ∧ r = r' := by
  simp only [edgeTail, List.cons_append, List.append_assoc, List.cons.injEq, true_and] at h
  obtain ⟨ht, hrest⟩ := quote_cancel h
  have hfields : present (edgeFields e) = present (edgeFields f) ∧ r = r' := by
    by_cases he : present (edgeFields e) = [] <;> by_cases hf : present (edgeFields f) = []
    · rw [if_pos he, if_pos hf] at hrest
      exact ⟨he.trans hf.symm, (List.cons.inj hrest).2⟩
    · rw [if_pos he, if_neg hf] at hrest
      exact absurd (List.cons.inj hrest).1 (by decide)
    · rw [if_neg he, if_pos hf] at hrest
      exact absurd (List.cons.inj hrest).1 (by decide)
    · rw [if_neg he, if_neg hf] at hrest
      obtain ⟨hpresent, hr⟩ := bracketed_cancel (edgeFields_keyed e) (edgeFields_keyed f) hrest
      exact ⟨hpresent, (List.cons.inj hr).2⟩
  exact ⟨printsAs_of_edgeFields hs ht (present_cancel rfl (by simp [edgeFields]) hfields.1), hfields.2⟩

inductive Line where
  | setting (key value : String)
  | nodeDefaults (attrs : Attributes)
  | edgeDefaults (attrs : Attributes)
  | named (name : String)
  | unnamed
  | node (n : Node)
  | member (id : String)
  | edge (e : Edge)
  | closing

namespace Line

def opening : Option String → Line
  | some name => named name
  | none => unnamed

def text : Line → String
  | setting k v => assignment k v
  | nodeDefaults attrs => "node [" ++ attributeList attrs ++ "]"
  | edgeDefaults attrs => "edge [" ++ attributeList attrs ++ "]"
  | named name => Dot.opening (some name)
  | unnamed => Dot.opening none
  | node n => nodeStatement n
  | member id => quote id
  | edge e => edgeStatement e
  | closing => "\x7d"

theorem text_opening (name : Option String) : (opening name).text = Dot.opening name := by cases name <;> rfl

def Keyed : Line → Prop
  | setting k _ => IsWord k
  | nodeDefaults attrs => Dot.Keyed attrs
  | edgeDefaults attrs => Dot.Keyed attrs
  | _ => True

inductive PrintsAs : Line → Line → Prop where
  | same (l : Line) : PrintsAs l l
  | node {n m : Node} (h : n.PrintsAs m) : PrintsAs (node n) (node m)
  | edge {e f : Edge} (h : e.PrintsAs f) : PrintsAs (edge e) (edge f)

def word : Line → String
  | setting k _ => k
  | nodeDefaults _ => "node"
  | edgeDefaults _ => "edge"
  | named _ => "subgraph"
  | _ => ""

/-- What follows the word; the first character tells most lines apart. -/
def behind : Line → List Char
  | setting _ v => '=' :: (quote v).toList
  | nodeDefaults attrs => bracketed attrs
  | edgeDefaults attrs => bracketed attrs
  | named name => ' ' :: (quote name).toList ++ [' ', '\x7b']
  | unnamed => ['\x7b']
  | node n => quoted n.id ++ nodeTail n
  | member id => quoted id
  | edge e => quoted e.source ++ edgeTail e
  | closing => ['\x7d']

theorem toList_text (l : Line) : l.text.toList = l.word.toList ++ l.behind := by
  cases l with
  | setting k v => exact toList_assignment k v
  | nodeDefaults attrs => simp [text, word, behind, bracketed]
  | edgeDefaults attrs => simp [text, word, behind, bracketed]
  | named name => simp [text, word, behind, Dot.opening]
  | unnamed => rfl
  | node n => rw [text, toList_nodeStatement, toList_quote]; rfl
  | member id => rw [text, toList_quote]; rfl
  | edge e => rw [text, toList_edgeStatement, toList_quote]; rfl
  | closing => rfl

theorem word_chars {l : Line} (h : l.Keyed) : ∀ c ∈ l.word.toList, isWordChar c := by
  cases l with
  | setting k v => exact h.chars
  | _ =>
    simp only [word]
    exact List.all_eq_true.mp (by decide)

private theorem behind_stops (l : Line) (r : List Char) : ∀ c ∈ (l.behind ++ r).head?, ¬ isWordChar c := by
  cases l <;>
    · rintro c ⟨⟩
      decide

/-- Lines do not begin with a blank. -/
theorem not_blank {l : Line} (h : l.Keyed) (r : List Char) : ∀ c ∈ (l.text.toList ++ r).head?, ¬ c = ' ' := by
  rw [toList_text]
  cases l with
  | setting k v =>
    cases hk : k.toList with
    | nil => exact absurd (String.toList_inj.mp hk) h.1
    | cons a s =>
      rw [word, hk]
      rintro c ⟨⟩ rfl
      exact absurd (h.chars ' ' (hk ▸ List.mem_cons_self)) (by decide)
  | nodeDefaults | edgeDefaults | named => simp [word]
  | _ =>
    rintro c ⟨⟩
    decide

/-- A statement that begins with a quoted text, that text, and what follows it. -/
inductive Begins : Line → String → List Char → Prop where
  | node (n : Node) : Begins (node n) n.id (nodeTail n)
  | member (id : String) : Begins (member id) id []
  | edge (e : Edge) : Begins (edge e) e.source (edgeTail e)

private theorem Begins.behind_eq {l : Line} {s : String} {tail : List Char} (h : l.Begins s tail) :
    l.behind = quoted s ++ tail := by
  cases h with
  | node | edge => rfl
  | member => exact (List.append_nil _).symm

/-- Behind a quoted text the attributes of a node begin, or the arrow of an edge, or nothing follows. -/
private theorem Begins.cancel {l m : Line} {s t : String} {tail tail' r r' : List Char} (hl : l.Begins s tail)
    (hm : m.Begins t tail') (h : l.behind ++ '\n' :: r = m.behind ++ '\n' :: r') : l.PrintsAs m ∧ r = r' := by
  rw [hl.behind_eq, hm.behind_eq, List.append_assoc, List.append_assoc] at h
  obtain ⟨hid, hrest⟩ := quoted_cancel h
  cases hl with
  | node n =>
    cases hm with
    | node n' =>
      obtain ⟨hn, hr⟩ := nodeTail_cancel hid hrest
      exact ⟨.node hn, (List.cons.inj hr).2⟩
    | member | edge => simp [nodeTail, edgeTail] at hrest
  | member id =>
    cases hm with
    | member id' =>
      subst hid
      exact ⟨.same _, (List.cons.inj hrest).2⟩
    | node | edge => simp [nodeTail, edgeTail] at hrest
  | edge e =>
    cases hm with
    | edge f => exact (edgeTail_cancel hid hrest).imp_left .edge
    | node | member => simp [nodeTail, edgeTail] at hrest

def mark : Line → Char
  | setting _ _ => '='
  | nodeDefaults _ | edgeDefaults _ | named _ => ' '
  | unnamed => '\x7b'
  | node _ | member _ | edge _ => '"'
  | closing => '\x7d'

private theorem head?_behind (l : Line) (r : List Char) : (l.behind ++ r).head? = some l.mark := by cases l <;> rfl

private theorem exists_begins {l : Line} (h : l.mark = '"') : ∃ s tail, l.Begins s tail := by
  cases l with
  | node n => exact ⟨_, _, .node n⟩
  | member id => exact ⟨_, _, .member id⟩
  | edge e => exact ⟨_, _, .edge e⟩
  | _ => exact absurd h (by simp [mark])

/-- All other statements are told apart by the word and the character behind it. -/
private theorem unquoted_cancel {l m : Line} (hl : l.Keyed) (hm : m.Keyed) (hquote : l.mark ≠ '"')
    (hword : l.word = m.word)
    (hmark : l.mark = m.mark) {r r' : List Char} (h : l.behind ++ '\n' :: r = m.behind ++ '\n' :: r') :
    l.PrintsAs m ∧ r = r' := by
  cases l with
  | setting k v =>
    cases m with
    | setting k' v' =>
      obtain ⟨hv, hr⟩ := quote_cancel (List.cons.inj h).2
      obtain rfl : k = k' := hword
      subst hv
      exact ⟨.same _, (List.cons.inj hr).2⟩
    | _ => exact absurd hmark (by simp [mark])
  | nodeDefaults attrs =>
    cases m with
    | nodeDefaults attrs' =>
      obtain ⟨rfl, hr⟩ := bracketed_cancel hl hm h
      exact ⟨.same _, (List.cons.inj hr).2⟩
    | edgeDefaults | named => exact absurd hword (by simp [word])
    | _ => exact absurd hmark (by simp [mark])
  | edgeDefaults attrs =>
    cases m with
    | edgeDefaults attrs' =>
      obtain ⟨rfl, hr⟩ := bracketed_cancel hl hm h
      exact ⟨.same _, (List.cons.inj hr).2⟩
    | nodeDefaults | named => exact absurd hword (by simp [word])
    | _ => exact absurd hmark (by simp [mark])
  | named name =>
    cases m with
    | named name' =>
      simp only [behind, List.cons_append, List.append_assoc, List.cons.injEq, true_and] at h
      obtain ⟨rfl, hr⟩ := quote_cancel h
      exact ⟨.same _, (List.cons.inj (List.cons.inj (List.cons.inj hr).2).2).2⟩
    | nodeDefaults | edgeDefaults => exact absurd hword (by simp [word])
    | _ => exact absurd hmark (by simp [mark])
  | unnamed =>
    cases m with
    | unnamed => exact ⟨.same _, (List.cons.inj (List.cons.inj h).2).2⟩
    | _ => exact absurd hmark (by simp [mark])
  | closing =>
    cases m with
    | closing => exact ⟨.same _, (List.cons.inj (List.cons.inj h).2).2⟩
    | _ => exact absurd hmark (by simp [mark])
  | node | member | edge => exact absurd rfl hquote

/-- The text of a line shows what the line says and where it ends. -/
private theorem line_cancel {l m : Line} (hl : l.Keyed) (hm : m.Keyed) {r r' : List Char}
    (h : l.text.toList ++ '\n' :: r = m.text.toList ++ '\n' :: r') : l.PrintsAs m ∧ r = r' := by
  rw [toList_text, toList_text, List.append_assoc, List.append_assoc] at h
  obtain ⟨hword, hbehind⟩ := run_cancel (word_chars hl) (word_chars hm) (behind_stops l _) (behind_stops m _) h
  have hmark : l.mark = m.mark := by
    rw [← Option.some_inj, ← head?_behind l, ← head?_behind m, hbehind]
  by_cases hquote : l.mark = '"'
  · obtain ⟨_, _, hbegins⟩ := exists_begins hquote
    obtain ⟨_, _, hbegins'⟩ := exists_begins (hmark.symm.trans hquote)
    exact hbegins.cancel hbegins' hbehind
  · exact unquoted_cancel hl hm hquote (String.toList_inj.mp hword) hmark hbehind

end Line

theorem mem_indent {depth : Nat} {c : Char} (h : c ∈ (indent depth).toList) : c = ' ' := by
  rw [indent, String.toList_ofList] at h
  exact List.eq_of_mem_replicate h

def written (lines : List (Nat × Line)) : List Char :=
  lines.flatMap fun x => (indent x.1 ++ x.2.text).toList ++ ['\n']

theorem written_cons (x : Nat × Line) (lines : List (Nat × Line)) :
    written (x :: lines) = (indent x.1).toList ++ (x.2.text.toList ++ '\n' :: written lines) := by
  rw [written, List.flatMap_cons, String.toList_append, List.append_assoc, List.append_assoc]
  rfl

/-- The text shows the lines, whatever their indentation. -/
theorem written_cancel {xs ys : List (Nat × Line)} (hx : ∀ x ∈ xs, x.2.Keyed) (hy : ∀ y ∈ ys, y.2.Keyed)
    (h : written xs = written ys) : List.Forall₂ (fun x y => x.2.PrintsAs y.2) xs ys := by
  have hblank (n : Nat) : ∀ c ∈ (indent n).toList, decide (c = ' ') := fun c hc => decide_eq_true (mem_indent hc)
  have hstop {l : Line} (hl : l.Keyed) (r : List Char) : ∀ c ∈ (l.text.toList ++ r).head?, ¬ decide (c = ' ') := by
    intro c hc
    rw [decide_eq_true_iff]
    exact Line.not_blank hl r c hc
  induction xs generalizing ys with
  | nil =>
    cases ys with
    | nil => exact .nil
    | cons y ys => simp [written] at h
  | cons x xs ih =>
    cases ys with
    | nil => simp [written] at h
    | cons y ys =>
      obtain ⟨hx, hxs⟩ := List.forall_mem_cons.mp hx
      obtain ⟨hy, hys⟩ := List.forall_mem_cons.mp hy
      rw [written_cons, written_cons] at h
      have htext := (run_cancel (hblank x.1) (hblank y.1) (hstop hx _) (hstop hy _) h).2
      obtain ⟨hxy, hrest⟩ := Line.line_cancel hx hy htext
      exact .cons hxy (ih hxs hys hrest)

end Dot

end ProcessDiagram
