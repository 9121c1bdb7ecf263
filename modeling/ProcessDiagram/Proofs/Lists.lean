import Mathlib.Data.List.Flatten
import Mathlib.Data.List.Forall2
import Mathlib.Data.List.Induction
import Mathlib.Data.List.Nodup
import Mathlib.Data.List.Perm.Basic

/-! Lists, optional values and results that may be errors, compared part by part. -/
namespace ProcessDiagram

section lists
variable {α β γ δ : Type} {r : α → β → Prop} {xs : List α} {ys : List β}

theorem exists_of_forall₂ (h : List.Forall₂ r xs ys) {x : α} (hx : x ∈ xs) : ∃ y ∈ ys, r x y := by
  induction h with
  | nil => cases hx
  | cons hr _ ih =>
    rcases List.mem_cons.mp hx with rfl | hx
    · exact ⟨_, List.mem_cons_self, hr⟩
    · obtain ⟨y, hy, hr⟩ := ih hx
      exact ⟨y, List.mem_cons_of_mem _ hy, hr⟩

theorem exists_forall₂ : (∃ ys, List.Forall₂ r xs ys) ↔ ∀ x ∈ xs, ∃ y, r x y := by
  induction xs with
  | nil => simp
  | cons x xs ih =>
    rw [List.forall_mem_cons, ← ih]
    constructor
    · rintro ⟨_, _ | ⟨hy, hys⟩⟩
      exact ⟨⟨_, hy⟩, _, hys⟩
    · rintro ⟨⟨y, hy⟩, ys, hys⟩
      exact ⟨y :: ys, .cons hy hys⟩

theorem forall₂_iff_of_mem {r' : α → β → Prop} (h : ∀ y ∈ ys, ∀ x, r x y ↔ r' x y) :
    List.Forall₂ r xs ys ↔ List.Forall₂ r' xs ys := by
  induction ys generalizing xs with
  | nil => simp
  | cons y ys ih =>
    obtain ⟨hy, hys⟩ := List.forall_mem_cons.mp h
    simp only [List.forall₂_cons_right_iff, hy, ih hys]

theorem eq_of_forall₂ {r : α → α → Prop} {p : α → Prop} {xs ys : List α} (h : List.Forall₂ r xs ys)
    (hx : ∀ x ∈ xs, p x) (hy : ∀ y ∈ ys, p y) (hr : ∀ x y, p x → p y → r x y → x = y) : xs = ys := by
  induction h with
  | nil => rfl
  | cons h _ ih =>
    rw [List.forall_mem_cons] at hx hy
    rw [hr _ _ hx.1 hy.1 h, ih hx.2 hy.2]

theorem map_eq_iff_forall₂ {f : α → γ} {g : β → γ} :
    xs.map f = ys.map g ↔ List.Forall₂ (fun x y => f x = g y) xs ys := by
  rw [← List.forall₂_eq_eq_eq, List.forall₂_map_left_iff, List.forall₂_map_right_iff]

/-- Lists put together from parts of equal length correspond part by part. -/
theorem forall₂_of_flatMap {q : γ → δ → Prop} {f : γ → List α} {g : δ → List β} {cs : List γ} {ds : List δ}
    (h : List.Forall₂ q cs ds) (hl : ∀ c d, q c d → (f c).length = (g d).length)
    (hr : List.Forall₂ r (cs.flatMap f) (ds.flatMap g)) :
    List.Forall₂ (fun c d => q c d ∧ List.Forall₂ r (f c) (g d)) cs ds := by
  induction h with
  | nil => exact .nil
  | @cons c d cs ds hq _ ih =>
    rw [List.flatMap_cons, List.flatMap_cons] at hr
    have hlen := hl c d hq
    have hfirst := List.forall₂_take (f c).length hr
    rw [List.take_left, List.take_left' hlen.symm] at hfirst
    have hrest := List.forall₂_drop (f c).length hr
    rw [List.drop_left, List.drop_left' hlen.symm] at hrest
    exact .cons ⟨hq, hfirst⟩ (ih hrest)

theorem rel_getLastD (h : List.Forall₂ r xs ys) {a : α} {b : β} (hs : r a b) : r (xs.getLastD a) (ys.getLastD b) := by
  induction h generalizing a b with
  | nil => exact hs
  | cons ht _ ih =>
    rw [List.getLastD_cons, List.getLastD_cons]
    exact ih ht

theorem rel_getElem? (h : List.Forall₂ r xs ys) (i : Nat) : Option.Rel r xs[i]? ys[i]? := by
  induction h generalizing i with
  | nil => exact .none
  | cons h _ ih =>
    cases i with
    | zero => exact .some h
    | succ i => exact ih i

/-! ### Members and positions -/

theorem map_some_filterMap {f : α → Option β} {l : List α} (h : ∀ a ∈ l, (f a).isSome) :
    (l.filterMap f).map some = l.map f := by
  rw [List.map_filterMap_some_eq_filter_map_isSome, List.filter_eq_self]
  exact List.forall_mem_map.mpr h

theorem filterMap_filter_zip {f : α → Option β} {l : List α} {m : List β} (h : m.map some = l.map f)
    (keep : α → Bool) : (l.filter keep).filterMap f = ((l.zip m).filter fun s => keep s.1).map (·.2) := by
  induction l generalizing m with
  | nil => rfl
  | cons a rest ih =>
    obtain ⟨b, m, rfl⟩ : ∃ b m', m = b :: m' := List.exists_cons_of_ne_nil (by rintro rfl; cases h)
    obtain ⟨hb, hm⟩ := List.cons_eq_cons.mp h
    cases hk : keep a <;> simp [hk, ← hb, ih hm]

theorem drop_succ {l rest : List α} {i : Nat} {x : α} (h : l.drop i = x :: rest) :
    l[i]? = some x ∧ l.drop (i + 1) = rest := by
  refine ⟨?_, ?_⟩
  · rw [← List.head?_drop, h]
    rfl
  · rw [← List.tail_drop, h]
    rfl

/-- Lists that repeat themselves at the same positions are as long as each other. -/
theorem length_eq_of_pattern (h : ∀ i j : Nat, xs[i]? = xs[j]? ↔ ys[i]? = ys[j]?) : xs.length = ys.length := by
  have bound {α β : Type} {xs : List α} {ys : List β} (h : ∀ i j : Nat, xs[i]? = xs[j]? → ys[i]? = ys[j]?) :
      ys.length ≤ xs.length := by
    have hx : xs[xs.length]? = xs[xs.length + ys.length]? := by
      rw [List.getElem?_eq_none (Nat.le_refl _), List.getElem?_eq_none (Nat.le_add_right _ _)]
    have hy := h _ _ hx
    rw [List.getElem?_eq_none (Nat.le_add_left ys.length _)] at hy
    exact List.getElem?_eq_none_iff.mp hy
  exact Nat.le_antisymm (bound fun i j => (h i j).mpr) (bound fun i j => (h i j).mp)

theorem notMem_of_mem_splitOn [DecidableEq α] {sep : α} {s piece : List α} (h : piece ∈ s.splitOn sep) :
    sep ∉ piece := by
  induction s generalizing piece with
  | nil =>
    rw [List.splitOn_nil, List.mem_singleton] at h
    rw [h]
    exact List.not_mem_nil
  | cons c s ih =>
    obtain ⟨first, rest, hs⟩ := List.exists_cons_of_ne_nil (List.splitOn_ne_nil sep s)
    rw [List.splitOn_cons_eq_if_modifyHead] at h
    by_cases hc : c = sep
    · rw [if_pos (by simpa using hc)] at h
      rcases List.mem_cons.mp h with rfl | h
      · exact List.not_mem_nil
      · exact ih h
    · rw [if_neg (by simpa using hc), hs, List.modifyHead_cons] at h
      rcases List.mem_cons.mp h with rfl | h
      · have hfirst : sep ∉ first := ih (hs ▸ List.mem_cons_self)
        simpa [Ne.symm hc] using hfirst
      · exact ih (hs ▸ List.mem_cons_of_mem _ h)

/-- A member of two parts shows them to be one, if the whole has no repetition. -/
theorem index_unique {f : α → List β} {l : List α} (h : (l.flatMap f).Nodup) {i j : Nat} {x y : α} {a : β}
    (hi : l[i]? = some x) (hj : l[j]? = some y) (hx : a ∈ f x) (hy : a ∈ f y) : i = j := by
  obtain ⟨_, hp⟩ := List.nodup_flatMap.mp h
  obtain ⟨hil, rfl⟩ := List.getElem?_eq_some_iff.mp hi
  obtain ⟨hjl, rfl⟩ := List.getElem?_eq_some_iff.mp hj
  have apart := List.pairwise_iff_getElem.mp hp
  rcases Nat.lt_trichotomy i j with hlt | he | hlt
  · exact absurd hy (apart i j hil hjl hlt hx)
  · exact he
  · exact absurd hx (apart j i hjl hil hlt hy)

theorem mem_unique {f : α → List β} {l : List α} (h : (l.flatMap f).Nodup) {x y : α} (hx : x ∈ l) (hy : y ∈ l)
    {a : β} (hax : a ∈ f x) (hay : a ∈ f y) : x = y := by
  obtain ⟨i, hi⟩ := List.getElem?_of_mem hx
  obtain ⟨j, hj⟩ := List.getElem?_of_mem hy
  have hij := index_unique h hi hj hax hay
  subst hij
  exact Option.some_inj.mp (hi.symm.trans hj)

theorem idxOf_lt_idxOf [DecidableEq α] {l : List α} {a b : α} (h : [a, b].Sublist l) (hb : l.count b ≤ 1) :
    l.idxOf a < l.idxOf b := by
  obtain ⟨before, after, rfl, ha, hm⟩ := List.cons_sublist_iff.mp h
  have hm : b ∈ after := List.singleton_sublist.mp hm
  have hn : b ∉ before := by
    intro hn
    have := List.count_pos_iff.mpr hn
    have := List.count_pos_iff.mpr hm
    rw [List.count_append] at hb
    omega
  rw [List.idxOf_append_of_mem ha, List.idxOf_append_of_notMem hn]
  have := List.idxOf_lt_length_of_mem ha
  omega

theorem eq_of_sorted {ps qs : List (Nat × Nat)} (hp : ps.Pairwise (fun p q => p.1 < q.1))
    (hq : qs.Pairwise (fun p q => p.1 < q.1)) (h : ∀ p, p ∈ ps ↔ p ∈ qs) : ps = qs := by
  have nodup {l : List (Nat × Nat)} (hl : l.Pairwise (fun p q => p.1 < q.1)) : l.Nodup := by
    apply hl.imp
    rintro p _ hlt rfl
    exact Nat.lt_irrefl p.1 hlt
  exact List.Perm.eq_of_pairwise (fun _ _ _ _ hab hba => absurd hab (Nat.lt_asymm hba)) hp hq
    ((List.perm_ext_iff_of_nodup (nodup hp) (nodup hq)).mpr h)

/-- Of two lists that begin with a run of one sort the runs are equal if something else comes after them. -/
theorem run_cancel {p : α → Bool} {s t r r' : List α} (hs : ∀ c ∈ s, p c) (ht : ∀ c ∈ t, p c)
    (hr : ∀ c ∈ r.head?, ¬ p c) (hr' : ∀ c ∈ r'.head?, ¬ p c) (h : s ++ r = t ++ r') : s = t ∧ r = r' := by
  induction s generalizing t with
  | nil =>
    cases t with
    | nil => exact ⟨rfl, h⟩
    | cons c t =>
      rw [List.nil_append] at h
      exact absurd (ht c List.mem_cons_self) (hr c (by rw [h]; rfl))
  | cons c s ih =>
    cases t with
    | nil =>
      rw [List.nil_append] at h
      exact absurd (hs c List.mem_cons_self) (hr' c (by rw [← h]; rfl))
    | cons c' t =>
      obtain ⟨rfl, hrest⟩ := List.cons.inj h
      obtain ⟨rfl, hr⟩ := ih (List.forall_mem_cons.mp hs).2 (List.forall_mem_cons.mp ht).2 hrest
      exact ⟨rfl, hr⟩

/-! ### Each member once -/

variable [DecidableEq α]

theorem eraseDups_concat (l : List α) (a : α) :
    (l ++ [a]).eraseDups = if a ∈ l then l.eraseDups else l.eraseDups ++ [a] := by
  by_cases ha : a ∈ l <;> simp [List.eraseDups_append, List.eraseDups_cons, List.removeAll, ha]

theorem nodup_eraseDups (l : List α) : l.eraseDups.Nodup := by
  induction l using List.reverseRecOn with
  | nil => exact .nil
  | append_singleton l a ih =>
    rw [eraseDups_concat]
    split
    · exact ih
    · rename_i ha
      refine List.nodup_append.mpr ⟨ih, List.pairwise_singleton _ a, fun b hb c hc he => ha ?_⟩
      exact List.mem_eraseDups.mp (List.mem_singleton.mp hc ▸ he ▸ hb)

theorem eraseDups_of_nodup {l : List α} (h : l.Nodup) : l.eraseDups = l := by
  induction l using List.reverseRecOn with
  | nil => rfl
  | append_singleton l a ih =>
    obtain ⟨hl, _, hapart⟩ := List.nodup_append.mp h
    rw [eraseDups_concat, if_neg fun ha => hapart a ha a (List.mem_singleton_self a) rfl, ih hl]

end lists

/-! ### Values that may be missing -/

section options
variable {α β γ δ : Type} {r : α → β → Prop} {x : Option α} {y : Option β}

theorem rel_imp {r' : α → β → Prop} (h : ∀ a b, r a b → r' a b) (hr : Option.Rel r x y) : Option.Rel r' x y := by
  cases hr with
  | none => exact .none
  | some hr => exact .some (h _ _ hr)

theorem rel_eq_none (h : Option.Rel r x y) : x = none ↔ y = none := by
  cases h <;> simp

theorem rel_bind {q : γ → δ → Prop} {f : α → Option γ} {g : β → Option δ} (h : Option.Rel r x y)
    (hf : ∀ a b, r a b → Option.Rel q (f a) (g b)) : Option.Rel q (x.bind f) (y.bind g) := by
  cases h with
  | none => exact .none
  | some h => exact hf _ _ h

theorem rel_map_left {r : γ → β → Prop} {f : α → γ} (h : Option.Rel (fun a b => r (f a) b) x y) :
    Option.Rel r (x.map f) y := by
  cases h with
  | none => exact .none
  | some h => exact .some h

theorem rel_toList (h : Option.Rel r x y) : List.Forall₂ r x.toList y.toList := by
  cases h with
  | none => exact .nil
  | some h => exact .cons h .nil

end options

/-! ### Results that may be errors -/

section results
variable {ε α β : Type} {x : Except ε α}

theorem map_eq_ok_iff {f : α → β} {b : β} : f <$> x = .ok b ↔ ∃ a, x = .ok a ∧ f a = b := by
  cases x <;> simp [Functor.map, Except.map]

theorem bind_eq_ok_iff {f : α → Except ε β} {b : β} : x >>= f = .ok b ↔ ∃ a, x = .ok a ∧ f a = .ok b := by
  cases x <;> simp [bind, Except.bind]

theorem bind_eq_error_iff {f : α → Except ε β} {e : ε} :
    x >>= f = .error e ↔ x = .error e ∨ ∃ a, x = .ok a ∧ f a = .error e := by
  cases x <;> simp [bind, Except.bind]

theorem mapM_eq_ok_iff {f : α → Except ε β} {as : List α} {bs : List β} :
    as.mapM f = .ok bs ↔ List.Forall₂ (fun a b => f a = .ok b) as bs := by
  induction as generalizing bs with
  | nil => simp [pure, Except.pure, eq_comm]
  | cons a as ih =>
    rw [List.mapM_cons, bind_eq_ok_iff, List.forall₂_cons_left_iff]
    refine exists_congr fun b => ?_
    simp only [bind_eq_ok_iff, ih, exists_and_left]
    exact and_congr_right fun _ => exists_congr fun rest => by simp [pure, Except.pure, eq_comm]

end results

end ProcessDiagram
