import Mathlib.Data.Bool.AllAny
import Mathlib.Data.List.Forall2
import Mathlib.Data.List.Induction
import ProcessDiagram.Output.Settings
import ProcessDiagram.Proofs.Lists
import ProcessDiagram.Proofs.Pieces

/-! What a list of formats says. Its items decide: the first of them that names no format is the answer, and if all do,
the formats are those named, once each. -/
namespace ProcessDiagram

namespace OutputFormat
open Text

def Names (item : String) (f : OutputFormat) : Prop :=
  List.Forall₂ (fun c e => c = e ∨ c = e.toUpper) item.toList f.extension.toList

instance (item : String) (f : OutputFormat) : Decidable (Names item f) := inferInstanceAs (Decidable (List.Forall₂ _ _ _))

/-- What the items of a list are: its pieces between commas without the blanks at their ends, where anything is left. -/
def IsItems (list : String) (items : List String) : Prop :=
  ∃ pieces trimmed, pieces ≠ [] ∧ (∀ p ∈ pieces, ',' ∉ p.toList) ∧ ",".intercalate pieces = list ∧
    List.Forall₂ IsTrim pieces trimmed ∧ items = trimmed.filter (· ≠ "")

inductive Reads (list : String) : List String → Except RenderError (List OutputFormat) → Prop where
  | unknown {before : List String} {item : String} {after : List String}
      (known : ∀ other ∈ before, ∃ f, Names other f) (h : ∀ f, ¬ Names item f) :
      Reads list (before ++ item :: after) (.error (.unknownFormat item))
  | nothing : Reads list [] (.error (.settings ("sin formatos de salida en '" ++ list ++ "'")))
  | formats {items : List String} {named : List OutputFormat} (hne : items ≠ [])
      (h : List.Forall₂ Names items named) : Reads list items (.ok named.eraseDups)

/-- No extension has a k, so the Kelvin sign is a letter of none. -/
private theorem lowerChar_eq_iff {f : OutputFormat} {c e : Char} (he : e ∈ f.extension.toList) :
    lowerChar c = e ↔ c = e ∨ c = e.toUpper := by
  have hsmall : ∀ e ∈ f.extension.toList, ¬ ('A' ≤ e ∧ e ≤ 'Z') ∧ 'A' ≤ e.toUpper ∧ e.toUpper ≤ 'Z' ∧
      e ≠ 'k' ∧ e ≠ '\u212a' := List.all_iff_forall_prop.mp (by cases f <;> decide)
  obtain ⟨hlow, hup, hup', hk, hkelvin⟩ := hsmall e he
  by_cases hc : 'A' ≤ c ∧ c ≤ 'Z'
  · have hcapital : ∀ n < 26, f.extension.toList.all fun e =>
        lowerChar (Char.ofNat (65 + n)) = e ↔ Char.ofNat (65 + n) = e ∨ Char.ofNat (65 + n) = e.toUpper := by
      cases f <;> decide
    have hge : 65 ≤ c.toNat := hc.1
    have hle : c.toNat ≤ 90 := hc.2
    have h := List.all_iff_forall_prop.mp (hcapital (c.toNat - 65) (by omega)) e he
    rwa [Nat.add_sub_cancel' hge, Char.ofNat_toNat] at h
  · have hupper : c ≠ e.toUpper := fun h => hc (h ▸ ⟨hup, hup'⟩)
    rw [lowerChar, if_neg hc]
    split
    · rename_i h
      subst h
      exact ⟨fun h => absurd h.symm hk, fun h => absurd (h.resolve_right hupper).symm hkelvin⟩
    · exact ⟨.inl, fun h => h.resolve_right hupper⟩

private theorem lower_eq_extension_iff {s : String} {f : OutputFormat} : lower s = f.extension ↔ Names s f := by
  rw [Names, ← forall₂_iff_of_mem fun e he c => lowerChar_eq_iff he, ← List.forall₂_map_left_iff, List.forall₂_eq_eq_eq,
    lower, ← String.toList_inj, String.toList_ofList]

private theorem ofText?_eq_some_iff {s : String} {f : OutputFormat} : ofText? s = some f ↔ Names (trim s) f := by
  rw [← lower_eq_extension_iff, ofText?]
  generalize lower (trim s) = wanted
  constructor
  · intro h
    have hf := List.find?_some h
    exact (of_decide_eq_true hf).symm
  · rintro rfl
    cases f <;> simp [all, extension]

private theorem ofText?_eq_none_iff {s : String} : ofText? s = none ↔ ∀ f, ¬ Names (trim s) f := by
  simp only [← ofText?_eq_some_iff]
  exact Option.eq_none_iff_forall_ne_some

private theorem ofText?_of_trimmed {item : String} (ht : trim item = item) {f : OutputFormat} :
    ofText? item = some f ↔ Names item f := by rw [ofText?_eq_some_iff, ht]

private theorem collect_known {items : List String} {named : List OutputFormat}
    (h : List.Forall₂ (fun item f => ofText? item = some f) items named) (seen : List OutputFormat) :
    collect items seen.eraseDups = .ok (seen ++ named).eraseDups := by
  induction h generalizing seen with
  | nil => rw [collect, List.append_nil]
  | @cons item f items named hf _ ih =>
    have hstep : (if f ∈ seen.eraseDups then seen.eraseDups else seen.eraseDups ++ [f]) = (seen ++ [f]).eraseDups := by
      simp only [eraseDups_concat, List.mem_eraseDups]
    simp only [collect, hf]
    rw [hstep, ih, List.append_assoc, List.singleton_append]

/-- What was found before does not count. -/
private theorem collect_unknown {before : List String} (known : ∀ other ∈ before, ∃ f, ofText? other = some f)
    {item : String} (h : ofText? item = none) (after : List String) (found : List OutputFormat) :
    collect (before ++ item :: after) found = .error (.unknownFormat item) := by
  induction before generalizing found with
  | nil => simp only [List.nil_append, collect, h]
  | cons other before ih =>
    obtain ⟨⟨f, hf⟩, hrest⟩ := List.forall_mem_cons.mp known
    simp only [List.cons_append, collect, hf]
    exact ih hrest _

/-- Either all items name formats, or there is a first that does not. -/
private theorem items_cases (items : List String) : (∃ named, List.Forall₂ Names items named) ∨
    ∃ before item after, items = before ++ item :: after ∧ (∀ other ∈ before, ∃ f, Names other f) ∧
      ∀ f, ¬ Names item f := by
  induction items with
  | nil => exact .inl ⟨[], .nil⟩
  | cons item items ih =>
    by_cases hitem : ∃ f, Names item f
    · obtain ⟨f, hf⟩ := hitem
      obtain ⟨named, h⟩ | ⟨before, bad, after, rfl, known, h⟩ := ih
      · exact .inl ⟨f :: named, .cons hf h⟩
      · exact .inr ⟨item :: before, bad, after, rfl, List.forall_mem_cons.mpr ⟨⟨f, hf⟩, known⟩, h⟩
    · exact .inr ⟨[], item, items, rfl, by simp, not_exists.mp hitem⟩

private theorem exists_reads (list : String) (items : List String) : ∃ result, Reads list items result := by
  obtain ⟨named, h⟩ | ⟨before, item, after, rfl, known, h⟩ := items_cases items
  · by_cases hne : items = []
    · subst hne
      exact ⟨_, .nothing⟩
    · exact ⟨_, .formats hne h⟩
  · exact ⟨_, .unknown known h⟩

private theorem isItems_iff {list : String} {items : List String} :
    IsItems list items ↔ items = ((split ',' list).map trim).filter (· ≠ "") := by
  have hcomma : "," = String.singleton ',' := rfl
  constructor
  · rintro ⟨pieces, trimmed, hne, hpieces, rfl, htrim, rfl⟩
    have hmap : pieces.map trim = trimmed := by
      rw [← List.forall₂_eq_eq_eq, List.forall₂_map_left_iff]
      exact htrim.imp fun _ _ => IsTrim.trim_eq
    rw [hcomma, split_intercalate hpieces hne, hmap]
  · rintro rfl
    refine ⟨split ',' list, (split ',' list).map trim, split_ne_nil list, fun p => notMem_of_mem_split,
      intercalate_split list, ?_, rfl⟩
    rw [List.forall₂_map_right_iff]
    exact List.forall₂_same.mpr fun p _ => isTrim_trim p

private theorem trim_of_mem_items {list : String} {items : List String} (h : IsItems list items) {item : String}
    (hi : item ∈ items) : trim item = item := by
  rw [isItems_iff] at h
  rw [h] at hi
  obtain ⟨piece, _, rfl⟩ := List.mem_map.mp (List.mem_of_mem_filter hi)
  exact (isTrim_trim piece).trim_self

private theorem parseList_of_reads {list : String} {items : List String} (hi : IsItems list items)
    {result : Except RenderError (List OutputFormat)} (h : Reads list items result) : parseList list = result := by
  have htrimmed (item : String) (hitem : item ∈ items) : trim item = item := trim_of_mem_items hi hitem
  rw [parseList, ← isItems_iff.mp hi]
  cases h with
  | @unknown before item after known h =>
    have hbefore : ∀ other ∈ before, ∃ f, ofText? other = some f := by
      intro other hother
      obtain ⟨f, hf⟩ := known other hother
      exact ⟨f, (ofText?_of_trimmed (htrimmed other (List.mem_append_left _ hother))).mpr hf⟩
    have hitem : ofText? item = none := by
      rw [ofText?_eq_none_iff, htrimmed item (by simp)]
      exact h
    rw [collect_unknown hbefore hitem]
    rfl
  | nothing => rfl
  | @formats items named hne h =>
    have hnamed : List.Forall₂ (fun item f => ofText? item = some f) items named :=
      ((List.forall₂_and_left _ _).mpr ⟨htrimmed, h⟩).imp fun item f hf => (ofText?_of_trimmed hf.1).mpr hf.2
    have hcollect := collect_known hnamed []
    rw [List.nil_append, List.eraseDups_nil] at hcollect
    rw [hcollect]
    cases h with
    | nil => exact absurd rfl hne
    | cons => rw [List.eraseDups_cons]; rfl

private theorem parseList_eq_iff {list : String} {items : List String} (hi : IsItems list items)
    {result : Except RenderError (List OutputFormat)} : parseList list = result ↔ Reads list items result := by
  refine ⟨fun h => ?_, parseList_of_reads hi⟩
  obtain ⟨read, hread⟩ := exists_reads list items
  rw [← h, parseList_of_reads hi hread]
  exact hread

def print (formats : List OutputFormat) : String := ",".intercalate (formats.map extension)

private theorem isItems_print {formats : List OutputFormat} (hne : formats ≠ []) :
    IsItems (print formats) (formats.map extension) := by
  have hblank (f : OutputFormat) : ∀ c ∈ f.extension.toList, ¬ isBlank c :=
    List.all_iff_forall_prop.mp (by cases f <;> decide)
  have hextension (f : OutputFormat) : ',' ∉ f.extension.toList ∧ f.extension ≠ "" ∧ IsTrim f.extension f.extension := by
    refine ⟨?_, ?_, ⟨"", "", rfl, rfl, by simp⟩, fun c hc => hblank f c (List.mem_of_head? hc),
      fun c hc => hblank f c (List.mem_of_getLast? hc)⟩ <;> cases f <;> decide
  have hall {P : String → Prop} (h : ∀ f : OutputFormat, P f.extension) : ∀ s ∈ formats.map extension, P s := by
    intro s hs
    obtain ⟨f, _, rfl⟩ := List.mem_map.mp hs
    exact h f
  refine ⟨_, _, by simpa using hne, hall fun f => (hextension f).1, rfl,
    List.forall₂_same.mpr (hall fun f => (hextension f).2.2), ?_⟩
  exact (List.filter_eq_self.mpr (hall fun f => decide_eq_true (hextension f).2.1)).symm

private theorem names_extension (f : OutputFormat) : Names f.extension f :=
  List.forall₂_same.mpr fun _ _ => .inl rfl

private theorem parseList_print {formats : List OutputFormat} (hne : formats ≠ []) (hnodup : formats.Nodup) :
    parseList (print formats) = .ok formats := by
  have hnames : List.Forall₂ Names (formats.map extension) formats :=
    List.forall₂_map_left_iff.mpr (List.forall₂_same.mpr fun f _ => names_extension f)
  have h := parseList_of_reads (isItems_print hne) (.formats (by simpa using hne) hnames)
  rwa [eraseDups_of_nodup hnodup] at h

/-- What a list says is told by its items, and every list has them. A first item that names no format is the answer, with
its text; without items the list is refused; otherwise the answer is what the items name, each format once and where it
came first. Printed and read again, such an answer is the same. -/
theorem parseList_reads_items (list : String) :
    (∃ items, IsItems list items) ∧
    (∀ items, IsItems list items → ∀ result, parseList list = result ↔ Reads list items result) ∧
    ∀ formats, parseList list = .ok formats → formats ≠ [] ∧ formats.Nodup ∧ parseList (print formats) = .ok formats := by
  refine ⟨⟨_, isItems_iff.mpr rfl⟩, fun items hi result => parseList_eq_iff hi, fun formats h => ?_⟩
  obtain ⟨hne, hnodup⟩ : formats ≠ [] ∧ formats.Nodup := by
    have hreads := (parseList_eq_iff (isItems_iff.mpr rfl)).mp h
    generalize ((split ',' list).map trim).filter (· ≠ "") = items at hreads
    cases hreads with
    | @formats _ named hne hnamed =>
      refine ⟨?_, nodup_eraseDups named⟩
      cases hnamed with
      | nil => exact absurd rfl hne
      | cons => simp [List.eraseDups_cons]
  exact ⟨hne, hnodup, parseList_print hne hnodup⟩

/-- Both kinds of list: one with blanks, empty items and a format named twice, one with two items that name none. -/
theorem spaced_reads_items :
    IsItems " SVG,dot,, Svg ," ["SVG", "dot", "Svg"] ∧ parseList " SVG,dot,, Svg ," = .ok [.svg, .dot] ∧
    parseList (print [.svg, .dot]) = .ok [.svg, .dot] ∧
    IsItems "png, bmp ,Kng" ["png", "bmp", "Kng"] ∧
    parseList "png, bmp ,Kng" = .error (.unknownFormat "bmp") := by
  have hspaced : IsItems " SVG,dot,, Svg ," ["SVG", "dot", "Svg"] := isItems_iff.mpr (by decide +kernel)
  have hbad : IsItems "png, bmp ,Kng" ["png", "bmp", "Kng"] := isItems_iff.mpr (by decide +kernel)
  obtain ⟨-, hreads, hprint⟩ := parseList_reads_items " SVG,dot,, Svg ,"
  obtain ⟨-, hreads', -⟩ := parseList_reads_items "png, bmp ,Kng"
  have hnamed : List.Forall₂ Names ["SVG", "dot", "Svg"] [.svg, .dot, .svg] := by decide +kernel
  have hok := (hreads _ hspaced _).mpr (.formats (by simp) hnamed)
  have hpng : ∀ other ∈ ["png"], ∃ f, Names other f := by simpa using ⟨.png, names_extension .png⟩
  have hbmp : ∀ f, ¬ Names "bmp" f := by
    intro f
    cases f <;> decide +kernel
  exact ⟨hspaced, hok, (hprint _ hok).2.2, hbad, (hreads' _ hbad _).mpr (.unknown hpng hbmp)⟩

end OutputFormat

end ProcessDiagram
