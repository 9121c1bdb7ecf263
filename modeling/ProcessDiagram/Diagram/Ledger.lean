/-! Which tasks are drawn, and as which node. -/
namespace ProcessDiagram

structure Ledger where
  entries : List (String × String)
deriving DecidableEq, Repr

namespace Ledger

def empty : Ledger := ⟨[]⟩

def get? (l : Ledger) (name : String) : Option String :=
  (l.entries.find? (·.1 = name)).map (·.2)

/-- The first record of a name stays. -/
def record (l : Ledger) (name id : String) : Ledger :=
  if (l.get? name).isSome then l else ⟨l.entries ++ [(name, id)]⟩

def count (l : Ledger) : Nat := l.entries.length

theorem get?_eq_none_iff {l : Ledger} {name : String} :
    l.get? name = none ↔ name ∉ l.entries.map (·.1) := by
  simp only [get?, Option.map_eq_none_iff, List.find?_eq_none, decide_eq_true_eq, List.mem_map, not_exists,
    not_and]

theorem entries_record {l : Ledger} {name : String} (id : String) (h : l.get? name = none) :
    (l.record name id).entries = l.entries ++ [(name, id)] := by
  simp [record, h]

theorem get?_record {l : Ledger} {name : String} (id other : String) (h : l.get? name = none) :
    (l.record name id).get? other = (l.get? other).or (if name = other then some id else none) := by
  rw [get?, entries_record id h, List.find?_append, Option.map_or, get?]
  by_cases he : name = other <;> simp [he]

theorem mem_of_get? {l : Ledger} {name id : String} (h : l.get? name = some id) : (name, id) ∈ l.entries := by
  obtain ⟨⟨n, i⟩, hf, rfl⟩ := Option.map_eq_some_iff.mp h
  have hn := List.find?_some hf
  simp only [decide_eq_true_eq] at hn
  exact hn ▸ List.mem_of_find?_eq_some hf

end Ledger

end ProcessDiagram
