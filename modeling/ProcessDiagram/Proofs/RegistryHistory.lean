import Mathlib.Order.Bounds.Defs
import ProcessDiagram.Proofs.Numbering

/-! Calls on a registry, in any order and with any texts. Whatever was reserved in between, every id that is issued is
new, and the numbers behind ids only grow. -/
namespace ProcessDiagram.Registry

inductive Call where
  | allocate (name : String)
  | reserve (id : String)
deriving DecidableEq, Repr

def Call.isAllocate : Call → Bool
  | allocate _ => true
  | reserve _ => false

inductive Receipt where
  | allocated (name id : String)
  | reserved (id : String) (granted : Bool)
deriving DecidableEq, Repr

namespace Receipt

def call : Receipt → Call
  | allocated name _ => .allocate name
  | reserved id _ => .reserve id

def id : Receipt → String
  | allocated _ id => id
  | reserved id _ => id

def isGrant : Receipt → Bool
  | reserved _ granted => granted
  | allocated _ _ => false

/-- The number that stands behind the base of the name, if the id is more than that base. -/
def number? : Receipt → Option Nat
  | allocated name id =>
    if id = baseId name then none else some (Nat.ofDigitChars 10 (id.toList.drop ((baseId name).length + 1)) 0)
  | reserved _ _ => none

end Receipt

def serve (r : Registry) : Call → Receipt × Registry
  | .allocate name => (.allocated name (r.allocate name).1, (r.allocate name).2)
  | .reserve id => (.reserved id (r.reserve id).1, (r.reserve id).2)

def after (calls : List Call) : Registry := calls.foldl (fun r c => (r.serve c).2) empty

def history (calls : List Call) : List Receipt :=
  calls.zipIdx.map fun (c, i) => ((after (calls.take i)).serve c).1

def Free (past : List Receipt) (id : String) : Prop := ∀ x ∈ past, x.id ≠ id

/-- The receipt that a call is due after others, with the counter at a number: the base of a name while that is free,
and else the base with the least free number above the counter; an id is granted if it is free. -/
inductive Due (past : List Receipt) (counter : Nat) : Call → Receipt → Prop where
  | base {name : String} (h : Free past (baseId name)) :
    Due past counter (.allocate name) (.allocated name (baseId name))
  | numbered {name : String} {n : Nat} (h : ¬ Free past (baseId name))
      (least : IsLeast {k | counter < k ∧ Free past (suffixed (baseId name) k)} n) :
    Due past counter (.allocate name) (.allocated name (suffixed (baseId name) n))
  | granted {id : String} (h : Free past id) : Due past counter (.reserve id) (.reserved id true)
  | refused {id : String} (h : ¬ Free past id) : Due past counter (.reserve id) (.reserved id false)

private theorem Due.free {past : List Receipt} {counter : Nat} {c : Call} {name id : String}
    (h : Due past counter c (.allocated name id)) : Free past id := by
  cases h with
  | base h => exact h
  | numbered _ least => exact least.1.2

/-- Numbers are passed over only if their ids are taken. -/
theorem isLeast_nextFree (base : String) (n : Nat) (taken : List String) :
    IsLeast {k | n < k ∧ suffixed base k ∉ taken} (nextFree base n taken) := by
  refine ⟨⟨lt_nextFree base n taken, suffixed_nextFree_notMem base n taken⟩, ?_⟩
  fun_induction nextFree base n taken with
  | case1 n taken h ih =>
    rintro k ⟨hk, hfree⟩
    rcases Nat.lt_or_eq_of_le (Nat.succ_le_of_lt hk) with hlt | rfl
    · exact ih ⟨hlt, fun hm => hfree (List.mem_of_mem_erase hm)⟩
    · exact absurd h hfree
  | case2 n taken h => exact fun k hk => hk.1

namespace Receipt

private theorem number?_base (name : String) : (allocated name (baseId name)).number? = none := if_pos rfl

private theorem number?_suffixed (name : String) (n : Nat) :
    (allocated name (suffixed (baseId name) n)).number? = some n := by
  have hdrop : (suffixed (baseId name) n).toList.drop ((baseId name).length + 1) = (toString n).toList := by
    rw [suffixed, String.toList_append, String.toList_append, List.append_assoc, ← String.length_toList,
      List.drop_length_add_append]
    rfl
  rw [number?, if_neg (baseId_ne_suffixed name (baseId name) n).symm, hdrop]
  simp [Nat.toString_eq_repr]

end Receipt

structure Agrees (r : Registry) (past : List Receipt) : Prop where
  issued : ∀ id, id ∉ r.issued ↔ Free past id
  numbers : (past.filterMap Receipt.number?).Pairwise (· < ·)
  last : r.collisions = (past.filterMap Receipt.number?).getLastD 0
  bound : ∀ n ∈ past.filterMap Receipt.number?, n ≤ r.collisions
  count : r.count = (past.map Receipt.call).countP Call.isAllocate + past.countP Receipt.isGrant

private theorem agrees_empty : empty.Agrees [] where
  issued := by simp [empty, Free]
  numbers := .nil
  last := rfl
  bound := by simp
  count := rfl

private theorem free_concat {past : List Receipt} {x : Receipt} {id : String} :
    Free (past ++ [x]) id ↔ Free past id ∧ id ≠ x.id := by
  simp [Free, or_imp, forall_and, eq_comm]

namespace Agrees
variable {r : Registry} {past : List Receipt}

/-- Each call gets the receipt that it is due. -/
private theorem due (h : r.Agrees past) (c : Call) : Due past r.collisions c (r.serve c).1 := by
  cases c with
  | allocate name =>
    rw [serve, allocate]
    by_cases hb : baseId name ∈ r.issued
    · simp only [if_pos hb]
      refine .numbered (fun hf => (h.issued _).mpr hf hb) ?_
      simpa only [h.issued] using isLeast_nextFree (baseId name) r.collisions r.issued
    · simp only [if_neg hb]
      exact .base ((h.issued _).mp hb)
  | reserve id =>
    rw [serve, reserve]
    by_cases hid : id ∈ r.issued
    · simp only [if_pos hid]
      exact .refused fun hf => (h.issued _).mpr hf hid
    · simp only [if_neg hid]
      exact .granted ((h.issued _).mp hid)

/-- A receipt for a new id: one more id is in use, and the number behind it, if any, is the counter from now on. -/
private theorem concat (h : r.Agrees past) (x : Receipt) (hnew : x.call.isAllocate = !x.isGrant)
    (hn : ∀ n ∈ x.number?, r.collisions < n) :
    Agrees ⟨r.issued ++ [x.id], x.number?.getD r.collisions⟩ (past ++ [x]) where
  issued id := by rw [free_concat, ← h.issued, List.mem_append, List.mem_singleton, not_or]
  numbers := by
    rw [List.filterMap_append, List.pairwise_append]
    refine ⟨h.numbers, ?_, fun m hm n hx => ?_⟩
    · cases hx : x.number? <;> simp [hx]
    · have hx : x.number? = some n := by simpa using hx
      exact Nat.lt_of_le_of_lt (h.bound m hm) (hn n hx)
  last := by
    cases hx : x.number? with
    | none => simp [hx, h.last]
    | some n => simp [hx]
  bound n hm := by
    rw [List.filterMap_append, List.mem_append] at hm
    rcases hm with hm | hm
    · refine Nat.le_trans (h.bound n hm) ?_
      cases hx : x.number? with
      | none => exact Nat.le_refl _
      | some k => exact Nat.le_of_lt (hn k hx)
    · have hx : x.number? = some n := by simpa using hm
      simp [hx]
  count := by
    have hcount : r.issued.length = _ := h.count
    have hone : (if x.call.isAllocate then 1 else 0) + (if x.isGrant then 1 else 0) = 1 := by
      cases hx : x.isGrant <;> simp [hnew, hx]
    simp only [Registry.count, List.length_append, List.length_singleton, List.map_append, List.countP_append,
      List.map_singleton, List.countP_singleton]
    omega

/-- A receipt for an id that was in use changes nothing. -/
private theorem refuse (h : r.Agrees past) {id : String} (hid : id ∈ r.issued) :
    r.Agrees (past ++ [.reserved id false]) := by
  have hsame : (past ++ [Receipt.reserved id false]).filterMap Receipt.number? = past.filterMap Receipt.number? := by
    simp [Receipt.number?]
  constructor
  · intro other
    rw [free_concat, h.issued, and_iff_left_of_imp]
    rintro hf rfl
    exact (h.issued _).mpr hf hid
  · rw [hsame]
    exact h.numbers
  · rw [hsame]
    exact h.last
  · rw [hsame]
    exact h.bound
  · simpa [Receipt.call, Call.isAllocate, Receipt.isGrant] using h.count

private theorem serve (h : r.Agrees past) (c : Call) : (r.serve c).2.Agrees (past ++ [(r.serve c).1]) := by
  cases c with
  | allocate name =>
    obtain ⟨_, he⟩ | ⟨_, n, hlt, _, he⟩ := r.allocate_cases name
    · have hnone : (Receipt.allocated name (baseId name)).number? = none := Receipt.number?_base name
      have hc := h.concat (.allocated name (baseId name)) rfl (by simp [hnone])
      rw [hnone] at hc
      rw [Registry.serve, he]
      exact hc
    · have hsome : (Receipt.allocated name (suffixed (baseId name) n)).number? = some n :=
        Receipt.number?_suffixed name n
      have hc := h.concat (.allocated name (suffixed (baseId name) n)) rfl (by simpa [hsome] using hlt)
      rw [hsome] at hc
      rw [Registry.serve, he]
      exact hc
  | reserve id =>
    by_cases hid : id ∈ r.issued
    · rw [Registry.serve, reserve, if_pos hid]
      exact h.refuse hid
    · have hc := h.concat (.reserved id true) rfl (by simp [Receipt.number?])
      rw [Registry.serve, reserve, if_neg hid]
      exact hc

end Agrees

private theorem history_concat (calls : List Call) (c : Call) :
    history (calls ++ [c]) = history calls ++ [((after calls).serve c).1] := by
  have hold : calls.zipIdx.map (fun x => ((after ((calls ++ [c]).take x.2)).serve x.1).1) = history calls := by
    refine List.map_congr_left fun x hx => ?_
    have hlt : x.2 < calls.length := by simpa using List.snd_lt_of_mem_zipIdx hx
    rw [List.take_append_of_le_length (Nat.le_of_lt hlt)]
  rw [history, List.zipIdx_append, List.map_append, hold]
  simp

private theorem getElem?_history (calls : List Call) (i : Nat) :
    (history calls)[i]? = calls[i]?.map fun c => ((after (calls.take i)).serve c).1 := by
  simp [history, List.getElem?_zipIdx, Function.comp_def]

/-- What was answered does not depend on later calls. -/
private theorem take_history (calls : List Call) (i : Nat) : (history calls).take i = history (calls.take i) := by
  refine List.ext_getElem? fun j => ?_
  by_cases h : j < i
  · rw [List.getElem?_take_of_lt h, getElem?_history, getElem?_history, List.getElem?_take_of_lt h, List.take_take,
      Nat.min_eq_left (Nat.le_of_lt h)]
  · rw [getElem?_history, List.getElem?_take_eq_none (by omega), List.getElem?_take_eq_none (by omega)]
    rfl

private theorem call_serve (r : Registry) (c : Call) : (r.serve c).1.call = c := by
  cases c <;> rfl

private theorem map_call_history (calls : List Call) : (history calls).map Receipt.call = calls := by
  refine List.ext_getElem? fun i => ?_
  rw [List.getElem?_map, getElem?_history, Option.map_map]
  simp [Function.comp_def, call_serve]

private theorem agrees_after (calls : List Call) : (after calls).Agrees (history calls) := by
  induction calls using List.reverseRecOn with
  | nil => exact agrees_empty
  | append_singleton calls c ih =>
    rw [history_concat, after, List.foldl_append]
    exact ih.serve c

/-- Every call gets the receipt that it is due after those before it: a new id is one that no call returned or reserved,
the base of the name if that is free, and else the base with the least number above the counter that is free. The
numbers grow along the receipts, the counter stands at the last one, and the ids in use are those that were allocated
and those that were granted. -/
theorem history_due (calls : List Call) :
    (history calls).map Receipt.call = calls ∧
    (∀ i c, calls[i]? = some c → ∃ x, (history calls)[i]? = some x ∧
      Due ((history calls).take i) (after (calls.take i)).collisions c x) ∧
    (∀ i name id, (history calls)[i]? = some (.allocated name id) → Free ((history calls).take i) id) ∧
    ((history calls).filterMap Receipt.number?).Pairwise (· < ·) ∧
    (∀ i, (after (calls.take i)).collisions = (((history calls).take i).filterMap Receipt.number?).getLastD 0) ∧
    (after calls).count = calls.countP Call.isAllocate + (history calls).countP Receipt.isGrant := by
  have hdue : ∀ i c, calls[i]? = some c → ∃ x, (history calls)[i]? = some x ∧
      Due ((history calls).take i) (after (calls.take i)).collisions c x := by
    intro i c hc
    refine ⟨((after (calls.take i)).serve c).1, by rw [getElem?_history, hc]; rfl, ?_⟩
    rw [take_history]
    exact (agrees_after (calls.take i)).due c
  have hall := agrees_after calls
  have hcount := hall.count
  rw [map_call_history] at hcount
  refine ⟨map_call_history calls, hdue, fun i name id hx => ?_, hall.numbers, fun i => ?_, hcount⟩
  · obtain ⟨c, hc⟩ : ∃ c, calls[i]? = some c := by
      rw [getElem?_history] at hx
      obtain ⟨c, hc, _⟩ := Option.map_eq_some_iff.mp hx
      exact ⟨c, hc⟩
    obtain ⟨x, hx', h⟩ := hdue i c hc
    cases hx'.symm.trans hx
    exact h.free
  · rw [take_history]
    exact (agrees_after (calls.take i)).last

/-- Ids that look like numbered ones are reserved, one before it would be issued and one after it was. -/
def contested : List Call :=
  [.reserve "a_1", .allocate "a", .allocate "a!", .reserve "a_2", .reserve "b", .allocate "b"]

theorem contested_history_due :
    contested[2]? = some (.allocate "a!") ∧ (history contested)[2]? = some (.allocated "a!" "a_2") ∧
    Due ((history contested).take 2) 0 (.allocate "a!") (.allocated "a!" "a_2") ∧
    Free ((history contested).take 2) "a_2" ∧ (history contested)[3]? = some (.reserved "a_2" false) ∧
    ((history contested).filterMap Receipt.number?).Pairwise (· < ·) ∧
    (history contested).filterMap Receipt.number? = [2, 3] ∧ (after contested).collisions = 3 ∧
    (after contested).count = contested.countP Call.isAllocate + 2 := by
  obtain ⟨_, hdue, hfree, hgrow, hlast, hcount⟩ := history_due contested
  have hreceipt : (history contested)[2]? = some (.allocated "a!" "a_2") := by decide +kernel
  obtain ⟨x, hx, h⟩ := hdue 2 (.allocate "a!") rfl
  cases hx.symm.trans hreceipt
  exact ⟨rfl, hreceipt, h, hfree 2 _ _ hreceipt, by decide +kernel, hgrow, by decide +kernel,
    (hlast 6).trans (by decide +kernel), hcount.trans (by decide +kernel)⟩

end ProcessDiagram.Registry
