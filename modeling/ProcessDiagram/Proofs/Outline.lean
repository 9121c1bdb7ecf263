import Mathlib.Data.List.Forall2
import Mathlib.Logic.Relator
import ProcessDiagram.Proofs.Lists
import ProcessDiagram.Proofs.Mention
import ProcessDiagram.Proofs.Placement

/-! Flows that differ in their names only. What is left of an element without its names and texts is its outline, and
two flows of the same outlines are parallel if they mention a task again at the same places. -/
namespace ProcessDiagram

section pairs
variable {α β : Type} {xs xs' : List α} {ys ys' : List β} {a : α} {b : β}

def Paired (xs : List α) (ys : List β) (a : α) (b : β) : Prop := ∃ i : Nat, xs[i]? = some a ∧ ys[i]? = some b

theorem Paired.mono (h : Paired xs ys a b) (hx : xs <+: xs') (hy : ys <+: ys') : Paired xs' ys' a b := by
  have keep {γ : Type} {zs zs' : List γ} {c : γ} {i : Nat} (hz : zs <+: zs') (hc : zs[i]? = some c) :
      zs'[i]? = some c := by
    obtain ⟨hi, rfl⟩ := List.getElem?_eq_some_iff.mp hc
    exact List.prefix_iff_getElem?.mp hz i hi
  obtain ⟨i, ha, hb⟩ := h
  exact ⟨i, keep hx ha, keep hy hb⟩

theorem paired_concat (h : xs.length = ys.length) : Paired (xs ++ [a]) (ys ++ [b]) a b :=
  ⟨xs.length, List.getElem?_concat_length, h ▸ List.getElem?_concat_length⟩

private theorem forall₂_paired (h : xs.length = ys.length) : List.Forall₂ (Paired xs ys) xs ys :=
  List.forall₂_iff_get.mpr ⟨h, fun i hx hy => ⟨i, List.getElem?_eq_getElem hx, List.getElem?_eq_getElem hy⟩⟩

theorem biUnique_of_pattern (h : ∀ i j : Nat, xs[i]? = xs[j]? ↔ ys[i]? = ys[j]?) :
    Relator.BiUnique (Paired xs ys) := by
  constructor
  · rintro a b c ⟨i, ha, hb⟩ ⟨j, hc, hb'⟩
    exact Option.some_inj.mp (ha.symm.trans (((h i j).mpr (hb.trans hb'.symm)).trans hc))
  · rintro a b c ⟨i, ha, hb⟩ ⟨j, ha', hc⟩
    exact Option.some_inj.mp (hb.symm.trans (((h i j).mp (ha.trans ha'.symm)).trans hc))

/-- Without repetition a position is all that counts. -/
theorem biUnique_of_nodup (hx : xs.Nodup) (hy : ys.Nodup) : Relator.BiUnique (Paired xs ys) := by
  constructor
  · rintro a b c ⟨i, ha, hb⟩ ⟨j, hc, hb'⟩
    obtain rfl := List.getElem?_inj (List.getElem?_eq_some_iff.mp hb).1 hy |>.mp (hb.trans hb'.symm)
    exact Option.some_inj.mp (ha.symm.trans hc)
  · rintro a b c ⟨i, ha, hb⟩ ⟨j, ha', hc⟩
    obtain rfl := List.getElem?_inj (List.getElem?_eq_some_iff.mp ha).1 hx |>.mp (ha.trans ha'.symm)
    exact Option.some_inj.mp (hb.symm.trans hc)

end pairs

/-- An element without its names and texts: of a condition it is kept whether it is drawn, of branches and bodies how
many tasks they mention. -/
inductive Outline where
  | event (eventClass : EventClass) (noted : Bool)
  | task
  | gateway (kind : GatewayKind) (branches : List (Bool × Nat))
  | loop (tasks : Nat)
deriving DecidableEq, Repr

def Outline.mentions : Outline → Nat
  | event _ _ => 0
  | task => 1
  | gateway _ branches => branches.foldr (fun b n => b.2 + n) 0
  | loop n => n

namespace FlowElement

def outline : FlowElement → Outline
  | .event e => .event e.eventClass (Drawing.noteText e).isSome
  | .task _ => .task
  | .gateway g => .gateway g.kind (g.branches.map fun b => ((Drawing.branchCondition g b).isSome, b.tasks.length))
  | .loop l => .loop l.tasks.length

private theorem length_mentions (e : FlowElement) : e.mentions.length = e.outline.mentions := by
  cases e with
  | event e => rfl
  | task t => rfl
  | gateway g =>
    simp only [mentions, innerMentions, outline, Outline.mentions, List.foldr_map]
    induction g.branches with
    | nil => rfl
    | cons b rest ih => rw [List.flatMap_cons, List.length_append, List.length_map, List.foldr_cons, ih]
  | loop l => simp [mentions, innerMentions, outline, Outline.mentions]

end FlowElement

/-- Of a failing entry it matters only whether it lacks a type. -/
def entryOutline : Entry → Except Bool Outline
  | .ok e => .ok e.outline
  | .error e => .error e.isUntyped

def namesAt : Entry → List String
  | .ok e => e.mentions.map (·.1)
  | .error _ => []

private theorem length_namesAt {entry other : Entry} (h : entryOutline entry = entryOutline other) :
    (namesAt entry).length = (namesAt other).length := by
  cases entry with
  | ok e =>
    cases other with
    | ok e' => rw [namesAt, namesAt, List.length_map, List.length_map, e.length_mentions, e'.length_mentions,
        Except.ok.inj h]
    | error => cases h
  | error =>
    cases other with
    | ok => cases h
    | error => rfl

def taskNames (entries : List Entry) : List String := (taskMentions entries).map (·.1)

private theorem taskNames_eq (entries : List Entry) : taskNames entries = entries.flatMap namesAt := by
  induction entries with
  | nil => rfl
  | cons entry rest ih =>
    rw [List.flatMap_cons, ← ih]
    cases entry with
    | ok e => exact List.map_append
    | error e => rfl

/-- The two flows have the same outlines, entry by entry, and at any two places one of them mentions the same task
exactly if the other does. -/
structure Parallel (entries others : List Entry) : Prop where
  outlines : entries.map entryOutline = others.map entryOutline
  tasks : ∀ i j : Nat, (taskNames entries)[i]? = (taskNames entries)[j]? ↔ (taskNames others)[i]? = (taskNames others)[j]?

/-! The same, element by element, with a correspondence of task names. -/

section alike
variable (r : String → String → Prop)

def AlikeTasks : List TaskRef → List TaskRef → Prop := List.Forall₂ fun t t' => r t.taskName t'.taskName

structure AlikeBranches (g g' : Gateway) (b b' : Branch) : Prop where
  guarded : (Drawing.branchCondition g b).isSome = (Drawing.branchCondition g' b').isSome
  tasks : AlikeTasks r b.tasks b'.tasks

inductive AlikeElements : FlowElement → FlowElement → Prop where
  | event {e e' : Event} (eventClass : e.eventClass = e'.eventClass)
    (noted : (Drawing.noteText e).isSome = (Drawing.noteText e').isSome) : AlikeElements (.event e) (.event e')
  | task {t t' : Task} (h : r t.name t'.name) : AlikeElements (.task t) (.task t')
  | gateway {g g' : Gateway} (kind : g.kind = g'.kind)
    (branches : List.Forall₂ (AlikeBranches r g g') g.branches g'.branches) : AlikeElements (.gateway g) (.gateway g')
  | loop {l l' : Loop} (tasks : AlikeTasks r l.tasks l'.tasks) : AlikeElements (.loop l) (.loop l')

inductive AlikeEntries : Entry → Entry → Prop where
  | ok {e e' : FlowElement} (h : AlikeElements r e e') : AlikeEntries (.ok e) (.ok e')
  | error {e e' : DescriptionError} (h : e.isUntyped = e'.isUntyped) : AlikeEntries (.error e) (.error e')

variable {r}

private theorem alikeTasks_of_names {refs refs' : List TaskRef}
    (h : List.Forall₂ r ((refs.map TaskRef.mention).map (·.1)) ((refs'.map TaskRef.mention).map (·.1))) :
    AlikeTasks r refs refs' := by
  simp only [List.map_map, List.forall₂_map_left_iff, List.forall₂_map_right_iff] at h
  exact h

/-- Elements of one outline whose tasks correspond in order. -/
private theorem alikeElements_of_outline {e e' : FlowElement} (h : e.outline = e'.outline)
    (hn : List.Forall₂ r (e.mentions.map (·.1)) (e'.mentions.map (·.1))) : AlikeElements r e e' := by
  cases e with
  | event e =>
    cases e' with
    | event e' =>
      obtain ⟨hc, hs⟩ := Outline.event.inj h
      exact .event hc hs
    | _ => cases h
  | task t =>
    cases e' with
    | task t' => exact .task (List.forall₂_cons.mp hn).1
    | _ => cases h
  | gateway g =>
    cases e' with
    | gateway g' =>
      obtain ⟨hk, hb⟩ := Outline.gateway.inj h
      simp only [FlowElement.mentions, FlowElement.innerMentions, List.map_flatMap] at hn
      refine .gateway hk ((forall₂_of_flatMap (map_eq_iff_forall₂.mp hb) (fun b b' he => ?_) hn).imp fun b b' he => ?_)
      · simpa using (Prod.ext_iff.mp he).2
      · exact ⟨(Prod.ext_iff.mp he.1).1, alikeTasks_of_names he.2⟩
    | _ => cases h
  | loop l =>
    cases e' with
    | loop l' => exact .loop (alikeTasks_of_names hn)
    | _ => cases h

private theorem alikeEntries_of_outline {entry other : Entry} (h : entryOutline entry = entryOutline other)
    (hn : List.Forall₂ r (namesAt entry) (namesAt other)) : AlikeEntries r entry other := by
  cases entry with
  | ok e =>
    cases other with
    | ok e' => exact .ok (alikeElements_of_outline (Except.ok.inj h) hn)
    | error => cases h
  | error e =>
    cases other with
    | ok => cases h
    | error e' => exact .error (Except.error.inj h)

end alike

namespace Parallel
variable {entries others : List Entry} (h : Parallel entries others)
include h

theorem length_eq : entries.length = others.length := by
  have hl := congrArg List.length h.outlines
  rwa [List.length_map, List.length_map] at hl

theorem alike : List.Forall₂ (AlikeEntries (Paired (taskNames entries) (taskNames others))) entries others := by
  have hn := forall₂_paired (length_eq_of_pattern h.tasks)
  generalize Paired (taskNames entries) (taskNames others) = r at hn ⊢
  rw [taskNames_eq, taskNames_eq] at hn
  exact (forall₂_of_flatMap (map_eq_iff_forall₂.mp h.outlines) (fun _ _ => length_namesAt) hn).imp
    fun _ _ ha => alikeEntries_of_outline ha.1 ha.2

end Parallel

end ProcessDiagram
