import ProcessDiagram.Proofs.Depiction

/-! The label of a task is that of its first mention. -/
namespace ProcessDiagram

def firstLabel (mentions : List (String × String)) (name : String) : Option String :=
  (mentions.find? (·.1 = name)).map (·.2)

private theorem firstLabel_concat (mentions : List (String × String)) (name label other : String) :
    firstLabel (mentions ++ [(name, label)]) other =
      (firstLabel mentions other).or (if name = other then some label else none) := by
  rw [firstLabel, List.find?_append, Option.map_or, firstLabel]
  by_cases h : name = other <;> simp [h]

theorem isSome_firstLabel {mentions : List (String × String)} {name : String} :
    (firstLabel mentions name).isSome ↔ name ∈ mentions.map (·.1) := by
  simp [firstLabel]

namespace Drawing

/-- The ledger knows the tasks mentioned so far, and their nodes have the label of the first mention. -/
def Records (d : Drawing) (mentions : List (String × String)) : Prop :=
  ∀ name, Option.Rel (fun label id => Node.ofKind id label .task ∈ d.canvas.nodes)
    (firstLabel mentions name) (d.ledger.get? name)

namespace Records
variable {d : Drawing} {ms : List (String × String)}

private theorem of_nodes {d' : Drawing} (h : d.Records ms) (hl : d'.ledger = d.ledger)
    (hn : d.canvas.nodes ⊆ d'.canvas.nodes) : d'.Records ms := by
  intro name
  rw [hl]
  exact rel_imp (fun _ _ hm => hn hm) (h name)

theorem draw (h : d.Records ms) (key label : String) (kind : NodeKind) (style : NodeStyle) :
    (d.draw key label kind style).2.Records ms := h.of_nodes rfl (by simp)

/-- A mention adds its label if the name is new, and changes nothing otherwise. -/
theorem task (h : d.Records ms) (name label : String) :
    (d.task name label).2.Records (ms ++ [(name, label)]) := by
  obtain ⟨id, hg, he⟩ | ⟨hg, he⟩ := d.task_cases name label
  · rw [he]
    intro other
    rw [firstLabel_concat]
    by_cases hn : name = other
    · subst hn
      obtain ⟨l, hl⟩ := Option.ne_none_iff_exists'.mp (mt (rel_eq_none (h name)).mp (by simp [hg]))
      simpa [hl] using h name
    · simpa [hn] using h other
  · rw [he]
    intro other
    rw [firstLabel_concat, Ledger.get?_record _ _ hg]
    by_cases hn : name = other
    · subst hn
      rw [(rel_eq_none (h name)).mpr hg, hg]
      simp only [if_true, Option.none_or]
      exact .some (d.draw_mem name label .task NodeKind.task.style)
    · simpa [hn] using (h.draw name label .task NodeKind.task.style) other

private theorem placeTasks (h : d.Records ms) (refs : List TaskRef) :
    (placeTasks refs d).2.Records (ms ++ refs.map TaskRef.mention) := by
  induction refs generalizing d ms with
  | nil => simpa [Drawing.placeTasks] using h
  | cons t rest ih =>
    have ht := ih (h.task t.taskName t.label)
    rw [List.append_assoc] at ht
    exact ht

theorem placeBranch (h : d.Records ms) (g : Gateway) (i : Nat) (b : Branch) :
    (d.placeBranch g i b).2.Records (ms ++ b.tasks.map TaskRef.mention) := by
  cases hc : branchCondition g b with
  | none =>
    rw [d.placeBranch_none i hc]
    exact h.placeTasks b.tasks
  | some text =>
    rw [d.placeBranch_some i hc]
    exact (h.draw _ text _ _).placeTasks b.tasks

private theorem placeBranches (h : d.Records ms) (g : Gateway) (i : Nat) (bs : List Branch) :
    (placeBranches g i bs d).2.Records (ms ++ bs.flatMap fun b => b.tasks.map TaskRef.mention) := by
  induction bs generalizing i d ms with
  | nil => simpa [Drawing.placeBranches] using h
  | cons b rest ih =>
    rw [List.flatMap_cons, ← List.append_assoc]
    exact ih (h.placeBranch g i b) (i + 1)

theorem place (h : d.Records ms) (e : FlowElement) : (d.place e).2.Records (ms ++ e.mentions) := by
  cases e with
  | event e =>
    have hm : (FlowElement.event e).mentions = [] := rfl
    rw [hm, List.append_nil]
    have hn := h.draw ("evento_" ++ e.name) e.name (eventKind e.eventClass) (eventKind e.eventClass).style
    cases hr : noteText e with
    | none =>
      rw [d.place_event_none hr]
      exact hn
    | some reason =>
      rw [d.place_event_some hr]
      exact hn.draw _ reason _ _
  | task t => exact h.task t.name t.label
  | gateway g => exact ((h.draw _ _ _ _).draw _ _ _ _).placeBranches g 0 g.branches
  | loop l => exact (((h.draw _ _ _ _).draw _ _ _ _).placeTasks l.tasks).draw _ _ _ _

theorem placeSlots (h : d.Records ms) (entries : List Entry) :
    (placeSlots entries d).2.Records (ms ++ taskMentions entries) := by
  induction entries generalizing d ms with
  | nil => simpa [taskMentions, validElements, Drawing.placeSlots] using h
  | cons entry rest ih =>
    cases entry with
    | ok e =>
      have hm : taskMentions (.ok e :: rest) = e.mentions ++ taskMentions rest := rfl
      rw [hm, ← List.append_assoc]
      exact ih (h.place e)
    | error e => exact ih h

end Records
end Drawing

end ProcessDiagram
