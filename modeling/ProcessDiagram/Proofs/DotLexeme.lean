import Mathlib.Data.List.Nodup
import Mathlib.Data.List.ReduceOption
import ProcessDiagram.Graph.Dot
import ProcessDiagram.Proofs.Lists

/-! The pieces of DOT text. Each shows where it ends, so that of equal texts the first pieces are equal and so is what
comes after them. -/
namespace ProcessDiagram.Dot

def isWordChar (c : Char) : Bool := c.isAlphanum || c = '_'

def IsWord (s : String) : Prop := s ≠ "" ∧ s.toList.all isWordChar

instance (s : String) : Decidable (IsWord s) := inferInstanceAs (Decidable (_ ∧ _))

theorem IsWord.chars {s : String} (h : IsWord s) : ∀ c ∈ s.toList, isWordChar c := List.all_eq_true.mp h.2

private theorem escapeChar_cancel {c d : Char} {r r' : List Char} (h : escapeChar c ++ r = escapeChar d ++ r') :
    c = d ∧ r = r' := by
  grind [escapeChar]

/-- The quote that ends a text is no escape. -/
private theorem escapeChar_ne (c : Char) (r r' : List Char) : escapeChar c ++ r ≠ '"' :: r' := by
  grind [escapeChar]

/-- No line end is left in a text that is escaped. -/
theorem notMem_escaped {d : Char} (h : d = '\n' ∨ d = '\r') (s : List Char) : d ∉ s.flatMap escapeChar := by
  intro hd
  obtain ⟨c, -, hc⟩ := List.mem_flatMap.mp hd
  grind [escapeChar]

private theorem escaped_cancel {s t r r' : List Char}
    (h : s.flatMap escapeChar ++ '"' :: r = t.flatMap escapeChar ++ '"' :: r') : s = t ∧ r = r' := by
  induction s generalizing t with
  | nil =>
    cases t with
    | nil => exact ⟨rfl, (List.cons.inj h).2⟩
    | cons c t =>
      rw [List.flatMap_cons, List.append_assoc] at h
      exact absurd h.symm (escapeChar_ne c _ r)
  | cons c s ih =>
    cases t with
    | nil =>
      rw [List.flatMap_cons, List.append_assoc] at h
      exact absurd h (escapeChar_ne c _ r')
    | cons d t =>
      simp only [List.flatMap_cons, List.append_assoc] at h
      obtain ⟨rfl, hrest⟩ := escapeChar_cancel h
      obtain ⟨rfl, hr⟩ := ih hrest
      exact ⟨rfl, hr⟩

def quoted (s : String) : List Char := '"' :: (s.toList.flatMap escapeChar ++ ['"'])

theorem toList_quote (s : String) : (quote s).toList = quoted s := by
  rw [quote, String.toList_ofList]
  rfl

theorem quoted_cancel {s t : String} {r r' : List Char} (h : quoted s ++ r = quoted t ++ r') : s = t ∧ r = r' := by
  rw [quoted, quoted, List.cons_append, List.cons_append, List.append_assoc, List.append_assoc] at h
  obtain ⟨hs, hr⟩ := escaped_cancel (List.cons.inj h).2
  exact ⟨String.toList_inj.mp hs, hr⟩

theorem quote_cancel {s t : String} {r r' : List Char} (h : (quote s).toList ++ r = (quote t).toList ++ r') :
    s = t ∧ r = r' := by
  rw [toList_quote, toList_quote] at h
  exact quoted_cancel h

theorem toList_assignment (k v : String) : (assignment k v).toList = k.toList ++ '=' :: (quote v).toList := by
  rw [assignment, String.toList_append, String.toList_append, List.append_assoc]
  rfl

theorem assignment_cancel {k l v w : String} (hk : IsWord k) (hl : IsWord l) {r r' : List Char}
    (h : (assignment k v).toList ++ r = (assignment l w).toList ++ r') : k = l ∧ v = w ∧ r = r' := by
  rw [toList_assignment, toList_assignment, List.append_assoc, List.append_assoc] at h
  have hstop (v : String) (r : List Char) : ∀ c ∈ ('=' :: (quote v).toList ++ r).head?, ¬ isWordChar c := by
    rintro c ⟨⟩
    decide
  obtain ⟨hkey, hrest⟩ := run_cancel hk.chars hl.chars (hstop v r) (hstop w r') h
  obtain ⟨hv, hr⟩ := quote_cancel (List.cons.inj hrest).2
  exact ⟨String.toList_inj.mp hkey, hv, hr⟩

/-! Lists of assignments between brackets. -/

def Keyed (attrs : Attributes) : Prop := ∀ a ∈ attrs, IsWord a.1

instance (attrs : Attributes) : Decidable (Keyed attrs) := inferInstanceAs (Decidable (∀ a ∈ attrs, IsWord a.1))

def spaced (attrs : Attributes) : List Char := attrs.flatMap fun a => ' ' :: (assignment a.1 a.2).toList

theorem toList_intercalate_cons (s : String) (l : List String) :
    (" ".intercalate (s :: l)).toList = s.toList ++ l.flatMap fun t => ' ' :: t.toList := by
  induction l generalizing s with
  | nil => simp
  | cons t rest ih =>
    have hstep : (" ".intercalate (s :: t :: rest)).toList = s.toList ++ ' ' :: (" ".intercalate (t :: rest)).toList := by
      simp [String.toList_intercalate]
    rw [hstep, ih t]
    rfl

private theorem toList_attributeList_cons (a : String × String) (attrs : Attributes) :
    (attributeList (a :: attrs)).toList = (assignment a.1 a.2).toList ++ spaced attrs := by
  rw [attributeList, List.map_cons, toList_intercalate_cons, List.flatMap_map]
  rfl

theorem spaced_cons (a : String × String) (attrs : Attributes) :
    spaced (a :: attrs) = ' ' :: (attributeList (a :: attrs)).toList := by
  rw [toList_attributeList_cons]
  rfl

theorem spaced_cancel {a b : Attributes} (ha : Keyed a) (hb : Keyed b) {r r' : List Char}
    (h : spaced a ++ ']' :: r = spaced b ++ ']' :: r') : a = b ∧ r = r' := by
  induction a generalizing b with
  | nil =>
    cases b with
    | nil => exact ⟨rfl, (List.cons.inj h).2⟩
    | cons y b => exact absurd (List.cons.inj h).1 (by decide)
  | cons x a ih =>
    cases b with
    | nil => exact absurd (List.cons.inj h).1 (by decide)
    | cons y b =>
      obtain ⟨hx, ha⟩ := List.forall_mem_cons.mp ha
      obtain ⟨hy, hb⟩ := List.forall_mem_cons.mp hb
      simp only [spaced, List.flatMap_cons, List.cons_append, List.append_assoc] at h
      obtain ⟨hk, hv, hrest⟩ := assignment_cancel hx hy (List.cons.inj h).2
      obtain ⟨rfl, hr⟩ := ih ha hb hrest
      exact ⟨congrArg (· :: a) (Prod.ext hk hv), hr⟩

private theorem attributeList_cancel {a b : Attributes} (ha : Keyed a) (hb : Keyed b) {r r' : List Char}
    (h : (attributeList a).toList ++ ']' :: r = (attributeList b).toList ++ ']' :: r') : a = b ∧ r = r' := by
  -- an empty list shows itself by the bracket where the first key would be
  have hempty {x : String × String} {a : Attributes} (hx : IsWord x.1) {r r' : List Char} :
      ']' :: r ≠ (attributeList (x :: a)).toList ++ ']' :: r' := by
    intro h
    rw [toList_attributeList_cons, toList_assignment, List.append_assoc, List.append_assoc, List.cons_append] at h
    have hstop (a : Char) (r : List Char) (ha : ¬ isWordChar a) : ∀ c ∈ (a :: r).head?, ¬ isWordChar c := by
      rintro c ⟨⟩
      exact ha
    have hkey := (run_cancel (s := []) (by simp) hx.chars (hstop ']' r (by decide)) (hstop '=' _ (by decide)) h).1
    exact hx.1 (String.toList_inj.mp hkey.symm)
  cases a with
  | nil =>
    cases b with
    | nil => exact ⟨rfl, (List.cons.inj h).2⟩
    | cons y b => exact (hempty (hb y List.mem_cons_self) h).elim
  | cons x a =>
    cases b with
    | nil => exact (hempty (ha x List.mem_cons_self) h.symm).elim
    | cons y b =>
      refine spaced_cancel ha hb ?_
      rw [spaced_cons, spaced_cons]
      exact congrArg (' ' :: ·) h

def bracketed (attrs : Attributes) : List Char := ' ' :: '[' :: (attributeList attrs).toList ++ [']']

theorem bracketed_cancel {a b : Attributes} (ha : Keyed a) (hb : Keyed b) {r r' : List Char}
    (h : bracketed a ++ r = bracketed b ++ r') : a = b ∧ r = r' := by
  simp only [bracketed, List.cons_append, List.append_assoc, List.cons.injEq, true_and] at h
  exact attributeList_cancel ha hb h

/-! Optional values. -/

abbrev Fields := List (String × Option String)

def present (fields : Fields) : Attributes := fields.filterMap fun (k, v) => v.map (k, ·)

theorem fst_mem_of_present {fields : Fields} {a : String × String} (h : a ∈ present fields) :
    a.1 ∈ fields.map (·.1) := by
  obtain ⟨⟨k, v⟩, hf, ha⟩ := List.mem_filterMap.mp h
  obtain ⟨w, _, rfl⟩ := Option.map_eq_some_iff.mp ha
  exact List.mem_map.mpr ⟨_, hf, rfl⟩

/-- With one field for each key what is written shows which values there are. -/
theorem present_cancel {f g : Fields} (hk : f.map (·.1) = g.map (·.1)) (hn : (f.map (·.1)).Nodup)
    (h : present f = present g) : f = g := by
  induction f generalizing g with
  | nil =>
    cases g with
    | nil => rfl
    | cons => cases hk
  | cons x f ih =>
    cases g with
    | nil => cases hk
    | cons y g =>
      obtain ⟨k, v⟩ := x
      obtain ⟨l, w⟩ := y
      have hkl : k = l := (List.cons.inj hk).1
      have hks : f.map (·.1) = g.map (·.1) := (List.cons.inj hk).2
      obtain ⟨hnot, hnf⟩ : k ∉ f.map (·.1) ∧ (f.map (·.1)).Nodup := List.nodup_cons.mp hn
      subst hkl
      cases v with
      | none =>
        cases w with
        | none => rw [ih hks hnf h]
        | some w =>
          have hmem : (k, w) ∈ present f := (show present f = (k, w) :: present g from h) ▸ List.mem_cons_self
          exact absurd (fst_mem_of_present hmem) hnot
      | some v =>
        cases w with
        | none =>
          have hmem : (k, v) ∈ present g := (show (k, v) :: present f = present g from h) ▸ List.mem_cons_self
          exact absurd (hks ▸ fst_mem_of_present hmem) hnot
        | some w =>
          obtain ⟨he, hrest⟩ := List.cons.inj (show (k, v) :: present f = (k, w) :: present g from h)
          rw [ih hks hnf hrest, (Prod.mk.inj he).2]

theorem reduceOption_assignments (fields : Fields) : (fields.map fun (k, v) => assignment? k v).reduceOption =
    (present fields).map fun (k, v) => assignment k v := by
  induction fields with
  | nil => rfl
  | cons x rest ih =>
    obtain ⟨k, v⟩ := x
    cases v with
    | none => exact ih
    | some v => exact congrArg (assignment k v :: ·) ih

end ProcessDiagram.Dot
