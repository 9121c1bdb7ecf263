import Mathlib.Algebra.Ring.Parity
import Mathlib.Data.List.DropRight
import ProcessDiagram.Proofs.DotLexeme
import ProcessDiagram.Proofs.Substitution

/-! Quoted text in DOT. It stays on one line, no quote but its last ends it, and what was quoted is read back from it. To
escape each character by itself and to replace one kind of character after the other come to the same. -/
namespace ProcessDiagram.Dot
open ProcessDiagram.Text

def special : List Char := ['\\', '"', '\n', '\r']

private theorem mem_special {c : Char} : c ∈ special ↔ c = '\\' ∨ c = '"' ∨ c = '\n' ∨ c = '\r' := by
  simp [special]

private theorem escapeChar_of_plain {c : Char} (h : c ∉ special) : escapeChar c = [c] := by
  simp only [mem_special, not_or] at h
  obtain ⟨hslash, hquote, hfeed, hreturn⟩ := h
  rw [escapeChar, if_neg hslash, if_neg hquote, if_neg hfeed, if_neg hreturn]

private theorem ne_backslash_of_plain {c : Char} (h : c ∉ special) : c ≠ '\\' := by
  rintro rfl
  exact h (by decide)

/-! Reading back. -/

/-- Reads from left to right; a backslash and what it escapes stand for one character. -/
def unescape : List Char → List Char
  | '\\' :: '\\' :: r => '\\' :: unescape r
  | '\\' :: '"' :: r => '"' :: unescape r
  | '\\' :: 'n' :: r => '\n' :: unescape r
  | '\\' :: 'r' :: r => '\r' :: unescape r
  | c :: r => c :: unescape r
  | [] => []

private theorem unescape_cons {c : Char} (h : c ≠ '\\') (r : List Char) : unescape (c :: r) = c :: unescape r := by
  rw [unescape] <;> simp [h]

private theorem unescape_escapeChar (c : Char) (r : List Char) : unescape (escapeChar c ++ r) = c :: unescape r := by
  by_cases h : c ∈ special
  · rcases mem_special.mp h with rfl | rfl | rfl | rfl <;> rfl
  · rw [escapeChar_of_plain h]
    exact unescape_cons (ne_backslash_of_plain h) r

private theorem unescape_escaped (s : List Char) : unescape (s.flatMap escapeChar) = s := by
  induction s with
  | nil => rfl
  | cons c s ih => rw [List.flatMap_cons, unescape_escapeChar, ih]

/-! Backslashes. -/

def backslashes (s : List Char) : Nat := (s.rtakeWhile (· = '\\')).length

private theorem backslashes_concat (s : List Char) (c : Char) :
    backslashes (s ++ [c]) = if c = '\\' then backslashes s + 1 else 0 := by
  rw [backslashes, List.rtakeWhile_concat]
  by_cases h : c = '\\'
  · simp [h, backslashes]
  · simp [h]

/-- A text that ends in an even number of backslashes does not change whether a longer one does. -/
private theorem even_backslashes_append {s : List Char} (hs : Even (backslashes s)) (t : List Char) :
    Even (backslashes (s ++ t)) ↔ Even (backslashes t) := by
  induction t using List.reverseRecOn with
  | nil => simpa [backslashes] using hs
  | append_singleton t c ih =>
    rw [← List.append_assoc, backslashes_concat, backslashes_concat]
    split
    · rw [Nat.even_add_one, Nat.even_add_one, ih]
    · rfl

private theorem even_backslashes_escapeChar (c : Char) : Even (backslashes (escapeChar c)) := by
  by_cases h : c ∈ special
  · rcases mem_special.mp h with rfl | rfl | rfl | rfl <;> decide
  · rw [escapeChar_of_plain h, ← List.nil_append [c], backslashes_concat, if_neg (ne_backslash_of_plain h)]
    decide

private theorem even_backslashes_escaped (s : List Char) : Even (backslashes (s.flatMap escapeChar)) := by
  induction s with
  | nil => decide
  | cons c s ih =>
    rw [List.flatMap_cons]
    exact (even_backslashes_append (even_backslashes_escapeChar c) _).mpr ih

private theorem eq_of_quote_mem {c : Char} (h : '"' ∈ escapeChar c) : c = '"' := by
  grind [escapeChar]

/-- A quote that is written for a character has its backslash before it. -/
private theorem before_quote {c : Char} {before after : List Char} (h : escapeChar c = before ++ '"' :: after) :
    before = ['\\'] := by
  obtain rfl : c = '"' := eq_of_quote_mem (h ▸ List.mem_append_cons_self)
  cases before with
  | nil => exact absurd (List.cons.inj h).1 (by decide)
  | cons d before =>
    obtain ⟨rfl, hrest⟩ := List.cons.inj h
    cases before with
    | nil => rfl
    | cons d before => exact absurd (congrArg List.length (List.cons.inj hrest).2) (by simp)

private theorem odd_backslashes_before_quote {s before after : List Char}
    (h : s.flatMap escapeChar = before ++ '"' :: after) : Odd (backslashes before) := by
  induction s generalizing before with
  | nil => exact absurd h.symm (by simp)
  | cons c s ih =>
    rw [List.flatMap_cons] at h
    -- the quote stands behind what the first character is written as, or within it
    rcases List.append_eq_append_iff.mp h with ⟨later, rfl, hrest⟩ | ⟨tail, hc, hrest⟩
    · rw [← Nat.not_even_iff_odd, even_backslashes_append (even_backslashes_escapeChar c), Nat.not_even_iff_odd]
      exact ih hrest
    · cases tail with
      | nil =>
        -- the quote would be the first character of the rest, with no backslash before it
        have hfirst : Odd (backslashes []) := ih hrest.symm
        exact absurd hfirst (by decide)
      | cons d tail =>
        obtain ⟨rfl, -⟩ := List.cons.inj hrest
        rw [before_quote hc]
        decide

/-! One replacement after the other. -/

/-- Backslashes are replaced throughout, then quotes, then line feeds, then carriage returns. -/
def replaced (s : String) : String :=
  (((s.replace '\\' "\\\\").replace '"' "\\\"").replace '\n' "\\n").replace '\r' "\\r"

def substitutes (s : List Char) : List Char :=
  substitute '\r' ['\\', 'r'] (substitute '\n' ['\\', 'n']
    (substitute '"' ['\\', '"'] (substitute '\\' ['\\', '\\'] s)))

private theorem toList_replaced_eq_substitutes (s : String) : (replaced s).toList = substitutes s.toList := by
  rw [replaced, toList_replace, toList_replace, toList_replace, toList_replace]
  rfl

private theorem substitutes_append (s t : List Char) : substitutes (s ++ t) = substitutes s ++ substitutes t := by
  simp only [substitutes, substitute_append]

/-- What is put for a character holds nothing that a later replacement looks for. -/
private theorem substitutes_char (c : Char) : substitutes [c] = escapeChar c := by
  by_cases h : c ∈ special
  · rcases mem_special.mp h with rfl | rfl | rfl | rfl <;> rfl
  · have hnone (d : Char) (hd : d ∈ special) : d ∉ [c] := fun hmem => h (List.mem_singleton.mp hmem ▸ hd)
    rw [escapeChar_of_plain h, substitutes, substitute_of_notMem (hnone '\\' (by decide)),
      substitute_of_notMem (hnone '"' (by decide)), substitute_of_notMem (hnone '\n' (by decide)),
      substitute_of_notMem (hnone '\r' (by decide))]

private theorem substitutes_eq_escaped (s : List Char) : substitutes s = s.flatMap escapeChar := by
  induction s with
  | nil => rfl
  | cons c s ih =>
    rw [← List.singleton_append, substitutes_append, substitutes_char, ih]
    rfl

private theorem toList_replaced (s : String) : (replaced s).toList = s.toList.flatMap escapeChar :=
  (toList_replaced_eq_substitutes s).trans (substitutes_eq_escaped s.toList)

/-! Quoted text. -/

def interior (text : String) : List Char := text.toList.tail.dropLast

private theorem interior_quote (s : String) : interior (quote s) = s.toList.flatMap escapeChar := by
  rw [interior, toList_quote, quoted, List.tail_cons, List.dropLast_concat]

/-- A text on one line between two quotes. Every quote in it stands behind an odd number of backslashes and the last
behind an even one, so that it is the last that ends the text. -/
structure Enclosed (text : String) : Prop where
  quotes : text.toList = '"' :: (interior text ++ ['"'])
  no_feed : '\n' ∉ interior text
  no_return : '\r' ∉ interior text
  guarded : ∀ before after, interior text = before ++ '"' :: after → Odd (backslashes before)
  closing : Even (backslashes (interior text))

private theorem enclosed_quote (s : String) : Enclosed (quote s) where
  quotes := by rw [interior_quote, toList_quote, quoted]
  no_feed := by
    rw [interior_quote]
    exact notMem_escaped (.inl rfl) s.toList
  no_return := by
    rw [interior_quote]
    exact notMem_escaped (.inr rfl) s.toList
  guarded := by
    intro before after h
    rw [interior_quote] at h
    exact odd_backslashes_before_quote h
  closing := by
    rw [interior_quote]
    exact even_backslashes_escaped s.toList

private theorem unescape_interior_quote (s : String) : unescape (interior (quote s)) = s.toList := by
  rw [interior_quote, unescape_escaped]

private theorem quote_eq_replaced (s : String) : quote s = "\"" ++ replaced s ++ "\"" := by
  apply String.toList_inj.mp
  rw [String.toList_append, String.toList_append, toList_replaced, toList_quote, quoted]
  rfl

/-- Quoted, every text is enclosed and reads back as it was, so that no two are quoted alike. Between the quotes stands
what the four replacements make of the text, which is each of its characters escaped by itself. -/
theorem quote_lossless :
    (∀ s, Enclosed (quote s) ∧ unescape (interior (quote s)) = s.toList ∧
      quote s = "\"" ++ replaced s ++ "\"" ∧ (replaced s).toList = s.toList.flatMap escapeChar) ∧
    Function.Injective quote := by
  constructor
  · intro s
    exact ⟨enclosed_quote s, unescape_interior_quote s, quote_eq_replaced s, toList_replaced s⟩
  · intro s t h
    apply String.toList_inj.mp
    rw [← unescape_interior_quote s, h, unescape_interior_quote]

/-- A backslash before an `n` stays apart from a line feed. -/
example : quote "\\n\n" = "\"\\\\n\\n\"" := by decide

end ProcessDiagram.Dot
