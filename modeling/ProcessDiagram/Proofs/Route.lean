import Mathlib.Data.List.Chain
import ProcessDiagram.Proofs.Figure

/-! Routes through the figures of elements, and that each of them follows the edges. -/
namespace ProcessDiagram
namespace Figure

def pass (start test : String) (tasks : List String) : List String := start :: (tasks ++ [test])

theorem getLast?_pass (start test : String) (tasks : List String) :
    (pass start test tasks).getLast? = some test := by
  rw [pass, ← List.cons_append, List.getLast?_concat]

private theorem head?_passes {start test : String} {tasks : List String} {n : Nat} {id : String}
    (h : (List.replicate n (pass start test tasks)).flatten.head? = some id) : id = start := by
  cases n with
  | zero => cases h
  | succ n =>
    cases h
    rfl

private theorem getLast?_passes {start test : String} {tasks : List String} {n : Nat} {id : String}
    (h : (List.replicate n (pass start test tasks)).flatten.getLast? = some id) : id = test := by
  cases n with
  | zero => cases h
  | succ n =>
    rw [List.replicate_succ', List.flatten_append, List.getLast?_append, List.flatten_singleton,
      getLast?_pass] at h
    cases h
    rfl

inductive Route : Figure → List String → Prop where
  | event (id : String) (note : Option String) : Route (event id note) [id]
  | task (id : String) : Route (task id) [id]
  | gateway (decision merge : String) {arms : List Arm} {a : Arm} (h : a ∈ arms) :
    Route (gateway decision merge arms) (decision :: (a.stops ++ [merge]))
  | loop (start stop : String) (tasks : List String) (test : String) (n : Nat) :
    Route (loop start stop tasks test) ((List.replicate (n + 1) (pass start test tasks)).flatten ++ [stop])

inductive Routes : List Figure → List String → Prop where
  | nil : Routes [] []
  | cons {x : Figure} {rest : List Figure} {v w : List String} (first : x.Route v) (later : Routes rest w) :
    Routes (x :: rest) (v ++ w)

private theorem Route.head? {x : Figure} {w : List String} (h : x.Route w) : w.head? = some x.ends.entry := by
  cases h <;> rfl

theorem Route.getLast? {x : Figure} {w : List String} (h : x.Route w) : w.getLast? = some x.ends.exit := by
  cases h with
  | event => rfl
  | task => rfl
  | gateway => rw [← List.cons_append, List.getLast?_concat, ends]
  | loop => rw [List.getLast?_concat, ends]

private theorem isChain_trail {edges : List Edge} {cursor : String} {ids : List String}
    (h : trail cursor ids ⊆ edges) : List.IsChain (Joined edges) (cursor :: ids) := by
  induction ids generalizing cursor with
  | nil => exact .singleton _
  | cons id rest ih =>
    obtain ⟨hf, hr⟩ := List.cons_subset.mp h
    exact .cons_cons ⟨_, hf, rfl, rfl⟩ (ih hr)

/-- Passes over a loop follow one another along the edge back to the start. -/
private theorem isChain_passes {edges : List Edge} {start test : String} {tasks : List String}
    (h : List.IsChain (Joined edges) (pass start test tasks)) (hb : Joined edges test start) (n : Nat) :
    List.IsChain (Joined edges) (List.replicate n (pass start test tasks)).flatten := by
  induction n with
  | zero => exact .nil
  | succ n ih =>
    rw [List.replicate_succ, List.flatten_cons]
    refine h.append ih ?_
    intro a ha b hs
    rw [getLast?_pass] at ha
    cases ha
    rwa [head?_passes hs]

private theorem Route.isChain {x : Figure} {w : List String} (h : x.Route w) {edges : List Edge}
    (he : solid x.edges ⊆ edges) : List.IsChain (Joined edges) w := by
  cases h with
  | event => exact .singleton _
  | task => exact .singleton _
  | gateway decision merge ha =>
    exact isChain_trail fun e hm =>
      he (mem_solid.mpr ⟨mem_gateway_edges.mpr ⟨_, ha, hm⟩, style_of_mem_trail hm⟩)
  | loop start stop tasks test n =>
    have hp : List.IsChain (Joined edges) (pass start test tasks) :=
      isChain_trail fun e hm => he (mem_solid.mpr ⟨mem_loop_edges.mpr (.inl hm), style_of_mem_trail hm⟩)
    have hback : Joined edges test start :=
      ⟨_, he (mem_solid.mpr ⟨mem_loop_edges.mpr (.inr (.inl rfl)), rfl⟩), rfl, rfl⟩
    have hout : Joined edges test stop :=
      ⟨_, he (mem_solid.mpr ⟨mem_loop_edges.mpr (.inr (.inr rfl)), rfl⟩), rfl, rfl⟩
    refine (isChain_passes hp hback (n + 1)).append (.singleton _) ?_
    intro a ha b hb
    cases hb
    rwa [getLast?_passes ha]

def links : List Figure → List Edge
  | x :: y :: rest => .flow x.ends.exit y.ends.entry :: links (y :: rest)
  | _ => []

theorem exists_of_mem_links {xs : List Figure} {e : Edge} (h : e ∈ links xs) :
    ∃ x ∈ xs, ∃ y ∈ xs, e = .flow x.ends.exit y.ends.entry := by
  induction xs with
  | nil => cases h
  | cons x rest ih =>
    cases rest with
    | nil => cases h
    | cons y rest =>
      rcases List.mem_cons.mp h with rfl | h
      · exact ⟨x, List.mem_cons_self, y, List.mem_cons_of_mem _ List.mem_cons_self, rfl⟩
      · obtain ⟨u, hu, v, hv, he⟩ := ih h
        exact ⟨u, List.mem_cons_of_mem _ hu, v, List.mem_cons_of_mem _ hv, he⟩

def flows (xs : List Figure) : List Edge := xs.flatMap (fun x => solid x.edges) ++ links xs

theorem Routes.head? {xs : List Figure} {w : List String} (h : Routes xs w) {x : Figure}
    (hx : xs.head? = some x) : w.head? = some x.ends.entry := by
  cases h with
  | nil => cases hx
  | cons first later =>
    cases hx
    simp [first.head?]

theorem Routes.getLast? {xs : List Figure} {w : List String} (h : Routes xs w) {z : Figure}
    (hz : xs.getLast? = some z) : w.getLast? = some z.ends.exit := by
  induction h with
  | nil => cases hz
  | @cons x rest v w first later ih =>
    cases rest with
    | nil =>
      cases later
      cases hz
      simpa using first.getLast?
    | cons y rest =>
      rw [List.getLast?_append, ih (by simpa using hz)]
      rfl

theorem Routes.isChain {xs : List Figure} {w : List String} (h : Routes xs w) {edges : List Edge}
    (he : xs.flatMap (fun x => solid x.edges) ⊆ edges) (hl : links xs ⊆ edges) : List.IsChain (Joined edges) w := by
  induction h with
  | nil => exact .nil
  | @cons x rest v w first later ih =>
    obtain ⟨hx, hr⟩ := List.append_subset.mp he
    cases rest with
    | nil =>
      cases later
      simpa using first.isChain hx
    | cons y rest =>
      obtain ⟨hj, hl⟩ := List.cons_subset.mp hl
      refine (first.isChain hx).append (ih hr hl) ?_
      intro a ha b hb
      rw [first.getLast?] at ha
      rw [later.head? rfl] at hb
      cases ha
      cases hb
      exact ⟨_, hj, rfl, rfl⟩

end Figure
end ProcessDiagram
