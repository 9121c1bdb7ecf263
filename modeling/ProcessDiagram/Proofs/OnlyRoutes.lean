import Mathlib.Data.List.Nodup
import Mathlib.Data.List.Perm.Basic
import ProcessDiagram.Proofs.Route

/-! Where no node is shared, only routes lead through the figures: every walk from the entry of the first to
the exit of the last is one. -/
namespace ProcessDiagram

private theorem mem_trail_tail {cursor id : String} {ids : List String} {e : Edge} (h : e ∈ trail cursor (id :: ids))
    (hne : e.source ≠ cursor) : e ∈ trail id ids := by
  rcases List.mem_cons.mp h with rfl | h
  · exact absurd rfl hne
  · exact h

private theorem target_of_mem_trail {cursor id : String} {ids : List String} {e : Edge}
    (h : e ∈ trail cursor (id :: ids))
    (he : e.source = cursor) (hc : cursor ∉ (id :: ids).dropLast) : e.target = id := by
  rcases List.mem_cons.mp h with rfl | h
  · rfl
  · exact absurd (he ▸ (mem_of_mem_trail h).1) hc

/-- A walk that can only go on along a trail follows it to its end, unless it ends on the way. -/
private theorem follow_trail {step : String → String → Prop} {cursor : String} {ids walk : List String}
    (hn : (cursor :: ids).Nodup)
    (hs : ∀ a ∈ (cursor :: ids).dropLast, ∀ b, step a b → Joined (trail cursor ids) a b)
    (hw : List.IsChain step walk) (hh : walk.head? = some cursor)
    (hl : ∀ z, walk.getLast? = some z → z ∉ (cursor :: ids).dropLast) :
    ∃ rest, walk = cursor :: ids ++ rest := by
  induction ids generalizing cursor walk with
  | nil =>
    obtain ⟨w, rfl⟩ := List.head?_eq_some_iff.mp hh
    exact ⟨w, rfl⟩
  | cons id rest ih =>
    obtain ⟨w, rfl⟩ := List.head?_eq_some_iff.mp hh
    obtain ⟨hc, hn⟩ := List.nodup_cons.mp hn
    have hdrop : cursor ∉ (id :: rest).dropLast := fun h => hc (List.dropLast_subset _ h)
    cases w with
    | nil => exact absurd List.mem_cons_self (hl cursor rfl)
    | cons b w =>
      obtain ⟨hb, hw⟩ := List.isChain_cons_cons.mp hw
      obtain ⟨e, he, hsrc, rfl⟩ := hs cursor List.mem_cons_self b hb
      have hid : e.target = id := target_of_mem_trail he hsrc hdrop
      have forced : ∀ a ∈ (id :: rest).dropLast, ∀ b, step a b → Joined (trail id rest) a b := by
        intro a ha b hab
        obtain ⟨f, hf, rfl, rfl⟩ := hs a (List.mem_cons_of_mem _ ha) b hab
        exact ⟨f, mem_trail_tail hf fun h => hdrop (h ▸ ha), rfl, rfl⟩
      have hlast : ∀ z, (e.target :: w).getLast? = some z → z ∉ (id :: rest).dropLast := fun z hz hm =>
        hl z (by rw [List.getLast?_cons_cons]; exact hz) (List.mem_cons_of_mem _ hm)
      obtain ⟨later, hlater⟩ := ih hn forced hw (by rw [List.head?_cons, hid]) hlast
      exact ⟨later, by rw [hlater]; rfl⟩

namespace Figure

theorem entry_mem (x : Figure) : x.ends.entry ∈ x.nodes := by
  cases x <;> simp [ends, nodes, own, tasks, Endpoints.single]

theorem exit_mem (x : Figure) : x.ends.exit ∈ x.nodes := by
  cases x <;> simp [ends, nodes, own, tasks, Endpoints.single]

theorem perm_gateway (decision merge : String) (arms : List Arm) :
    (gateway decision merge arms).nodes.Perm (merge :: decision :: arms.flatMap Arm.stops) :=
  (((List.flatMap_append_perm arms (fun a => a.condition.toList) Arm.tasks).cons merge).cons decision).trans
    (.swap _ _ _)

theorem perm_loop (start stop : String) (tasks : List String) (test : String) :
    (loop start stop tasks test).nodes.Perm (stop :: pass start test tasks) :=
  ((List.Perm.cons start (List.Perm.cons stop (List.perm_append_singleton test tasks).symm))).trans
    (.swap _ _ _)

/-- The nodes of an element other than its exit. -/
private theorem inside_of_perm {x : Figure} {l : List String} (hn : x.nodes.Nodup)
    (hp : x.nodes.Perm (x.ends.exit :: l)) : l.Nodup ∧ ∀ a ∈ l, a ∈ x.nodes ∧ a ≠ x.ends.exit := by
  obtain ⟨he, hl⟩ := List.nodup_cons.mp (hp.nodup_iff.mp hn)
  refine ⟨hl, fun a ha => ⟨hp.mem_iff.mpr (List.mem_cons_of_mem _ ha), ?_⟩⟩
  rintro rfl
  exact he ha

/-- No edge of an element along which the process runs starts at its exit. -/
private theorem source_ne_exit {x : Figure} (hn : x.nodes.Nodup) {e : Edge} (he : e ∈ solid x.edges) :
    e.source ≠ x.ends.exit := by
  obtain ⟨he, hs⟩ := mem_solid.mp he
  cases x with
  | event id note =>
    obtain ⟨_, _, rfl⟩ := List.mem_map.mp he
    cases hs
  | task => cases he
  | gateway decision merge arms =>
    obtain ⟨_, inside⟩ := inside_of_perm hn (perm_gateway decision merge arms)
    obtain ⟨a, ha, he⟩ := mem_gateway_edges.mp he
    refine (inside _ ?_).2
    rcases List.mem_cons.mp (source_of_mem_trail he) with hm | hm
    · exact hm ▸ List.mem_cons_self
    · exact List.mem_cons_of_mem _ (List.mem_flatMap.mpr ⟨a, ha, hm⟩)
  | loop start stop tasks test =>
    obtain ⟨_, inside⟩ := inside_of_perm hn (perm_loop start stop tasks test)
    refine (inside _ ?_).2
    rcases mem_loop_edges.mp he with he | rfl | rfl
    · exact List.mem_append_left [test] (source_of_mem_trail he)
    · exact List.mem_of_getLast? (getLast?_pass start test tasks)
    · exact List.mem_of_getLast? (getLast?_pass start test tasks)

section element
variable {step : String → String → Prop} {walk : List String}

private theorem route_again {start stop test : String} {tasks v : List String}
    (h : (loop start stop tasks test).Route v) : (loop start stop tasks test).Route (pass start test tasks ++ v) := by
  cases h with
  | loop _ _ _ _ n =>
    rw [← List.append_assoc, ← List.flatten_cons, ← List.replicate_succ]
    exact .loop start stop tasks test (n + 1)

/-- A walk passes over the body of a loop, and from its test begins another pass or leaves for good. -/
private theorem loop_route_of_walk {start stop test : String} {tasks : List String} (hn : (pass start test tasks).Nodup)
    (hs : ∀ a ∈ pass start test tasks, ∀ b, step a b → Joined (loop start stop tasks test).edges a b)
    (hw : List.IsChain step walk) (hh : walk.head? = some start)
    (hl : ∀ z, walk.getLast? = some z → z ∉ pass start test tasks) :
    ∃ v rest, walk = v ++ rest ∧ (loop start stop tasks test).Route v := by
  have hb : (pass start test tasks).dropLast = start :: tasks := by
    rw [pass, ← List.cons_append, List.dropLast_concat]
  have htest : test ∉ start :: tasks := by
    rw [pass, ← List.cons_append, ← List.concat_eq_append, List.nodup_concat] at hn
    exact hn.1
  have hmem : test ∈ pass start test tasks := List.mem_of_getLast? (getLast?_pass start test tasks)
  have forced : ∀ a ∈ (pass start test tasks).dropLast, ∀ b, step a b →
      Joined (trail start (tasks ++ [test])) a b := by
    intro a ha b hab
    obtain ⟨e, he, rfl, rfl⟩ := hs a (List.dropLast_subset _ ha) b hab
    rw [hb] at ha
    rcases mem_loop_edges.mp he with he | rfl | rfl
    · exact ⟨e, he, rfl, rfl⟩
    · exact absurd ha htest
    · exact absurd ha htest
  -- the walk that is left after a pass is shorter
  induction hlen : walk.length using Nat.strong_induction_on generalizing walk with
  | _ n ih =>
    obtain ⟨rest, rfl⟩ := follow_trail hn forced hw hh fun z hz hm => hl z hz (List.dropLast_subset _ hm)
    obtain ⟨_, hr, hj⟩ := List.isChain_append.mp hw
    cases rest with
    | nil =>
      rw [List.append_nil] at hl
      exact absurd hmem (hl test (getLast?_pass start test tasks))
    | cons b rest =>
      have hstep := hj test (getLast?_pass start test tasks) b rfl
      obtain ⟨e, he, hsrc, rfl⟩ := hs test hmem b hstep
      rcases mem_loop_edges.mp he with he | rfl | rfl
      · exact absurd (hsrc ▸ source_of_mem_trail he) htest
      · obtain ⟨v, later, hv, hroute⟩ := ih _ (by simp [← hlen]; omega) hr rfl
          (fun z hz => hl z (by rw [List.getLast?_append, hz]; rfl)) rfl
        exact ⟨pass start test tasks ++ v, later, by rw [hv, ← List.append_assoc]; rfl, route_again hroute⟩
      · exact ⟨pass start test tasks ++ [stop], rest, by simp [pass, Edge.flow], by
          simpa using Route.loop start stop tasks test 0⟩

/-- An edge from a node of a branch belongs to that branch. -/
private theorem mem_branch_edges {decision merge : String} {arms : List Arm}
    (hn : (decision :: arms.flatMap Arm.stops).Nodup) {a : Arm} (ha : a ∈ arms) {e : Edge}
    (he : e ∈ (gateway decision merge arms).edges) (hs : e.source ∈ a.stops) :
    e ∈ trail decision (a.stops ++ [merge]) ∧ e.source ≠ decision := by
  obtain ⟨hd, hn⟩ := List.nodup_cons.mp hn
  have hne : e.source ≠ decision := fun h => hd (List.mem_flatMap.mpr ⟨a, ha, h ▸ hs⟩)
  obtain ⟨b, hb, he⟩ := mem_gateway_edges.mp he
  have hsb : e.source ∈ b.stops := (List.mem_cons.mp (source_of_mem_trail he)).resolve_left hne
  rw [mem_unique hn hb ha hsb hs] at he
  exact ⟨he, hne⟩

/-- A walk goes through a gateway by the branch that it takes at the decision. -/
private theorem gateway_route_of_walk {decision merge : String} {arms : List Arm}
    (hn : (decision :: arms.flatMap Arm.stops).Nodup) (hm : merge ∉ arms.flatMap Arm.stops)
    (hs : ∀ a ∈ decision :: arms.flatMap Arm.stops, ∀ b, step a b → Joined (gateway decision merge arms).edges a b)
    (hw : List.IsChain step walk) (hh : walk.head? = some decision)
    (hl : ∀ z, walk.getLast? = some z → z ∉ decision :: arms.flatMap Arm.stops) :
    ∃ v rest, walk = v ++ rest ∧ (gateway decision merge arms).Route v := by
  obtain ⟨w, rfl⟩ := List.head?_eq_some_iff.mp hh
  cases w with
  | nil => exact absurd List.mem_cons_self (hl decision rfl)
  | cons b w =>
    obtain ⟨hb, hw⟩ := List.isChain_cons_cons.mp hw
    obtain ⟨e, he, hsrc, rfl⟩ := hs decision List.mem_cons_self b hb
    obtain ⟨a, ha, he⟩ := mem_gateway_edges.mp he
    have hstops : ∀ id ∈ a.stops, id ∈ arms.flatMap Arm.stops := fun id hid => List.mem_flatMap.mpr ⟨a, ha, hid⟩
    obtain ⟨c, ids, hc⟩ := List.exists_cons_of_ne_nil (List.concat_ne_nil merge a.stops)
    have hdrop : (c :: ids).dropLast = a.stops := by rw [← hc, List.dropLast_concat]
    have hec : e.target = c := by
      refine target_of_mem_trail (hc ▸ he) hsrc fun h => ?_
      exact (List.nodup_cons.mp hn).1 (hstops _ (hdrop ▸ h))
    have hnc : (c :: ids).Nodup := by
      rw [← hc, ← List.concat_eq_append]
      exact List.Nodup.concat (fun h => hm (hstops _ h))
        ((List.nodup_flatMap.mp (List.nodup_cons.mp hn).2).1 a ha)
    have forced : ∀ s ∈ (c :: ids).dropLast, ∀ t, step s t → Joined (trail c ids) s t := by
      intro s hsa t hst
      rw [hdrop] at hsa
      obtain ⟨f, hf, rfl, rfl⟩ := hs s (List.mem_cons_of_mem _ (hstops s hsa)) t hst
      obtain ⟨hf, hne⟩ := mem_branch_edges hn ha hf hsa
      exact ⟨f, mem_trail_tail (hc ▸ hf) hne, rfl, rfl⟩
    have hlast : ∀ z, (e.target :: w).getLast? = some z → z ∉ (c :: ids).dropLast := fun z hz hzs =>
      hl z (by rw [List.getLast?_cons_cons]; exact hz) (List.mem_cons_of_mem _ (hstops z (hdrop ▸ hzs)))
    obtain ⟨rest, hrest⟩ := follow_trail hnc forced hw (by rw [List.head?_cons, hec]) hlast
    exact ⟨decision :: (a.stops ++ [merge]), rest, by rw [hrest, hc]; rfl, .gateway decision merge ha⟩

/-- A walk that enters an element goes through it by one of its routes. -/
private theorem route_of_walk {x : Figure} (hn : x.nodes.Nodup)
    (hs : ∀ a ∈ x.nodes, a ≠ x.ends.exit → ∀ b, step a b → Joined (solid x.edges) a b)
    (hw : List.IsChain step walk) (hh : walk.head? = some x.ends.entry)
    (hl : ∀ z, walk.getLast? = some z → z ∈ x.nodes → z = x.ends.exit) :
    ∃ v rest, walk = v ++ rest ∧ x.Route v := by
  have within : ∀ a ∈ x.nodes, a ≠ x.ends.exit → ∀ b, step a b → Joined x.edges a b :=
    fun a ha he b hb => (hs a ha he b hb).mono (List.filter_subset_self _)
  cases x with
  | event id note =>
    obtain ⟨w, rfl⟩ := List.head?_eq_some_iff.mp hh
    exact ⟨[id], w, rfl, .event id note⟩
  | task id =>
    obtain ⟨w, rfl⟩ := List.head?_eq_some_iff.mp hh
    exact ⟨[id], w, rfl, .task id⟩
  | gateway decision merge arms =>
    obtain ⟨hn, inside⟩ := inside_of_perm hn (perm_gateway decision merge arms)
    have hm : merge ∉ arms.flatMap Arm.stops := fun h => (inside merge (List.mem_cons_of_mem _ h)).2 rfl
    exact gateway_route_of_walk hn hm (fun a ha => within a (inside a ha).1 (inside a ha).2) hw hh
      fun z hz hm => (inside z hm).2 (hl z hz (inside z hm).1)
  | loop start stop tasks test =>
    obtain ⟨hn, inside⟩ := inside_of_perm hn (perm_loop start stop tasks test)
    exact loop_route_of_walk hn (fun a ha => within a (inside a ha).1 (inside a ha).2) hw hh
      fun z hz hm => (inside z hm).2 (hl z hz (inside z hm).1)

end element

private theorem source_of_mem_flows {xs : List Figure} {e : Edge} (h : e ∈ flows xs) : e.source ∈ xs.flatMap nodes := by
  rcases List.mem_append.mp h with h | h
  · obtain ⟨x, hx, he⟩ := List.mem_flatMap.mp h
    exact List.mem_flatMap.mpr ⟨x, hx, (mem_of_mem_edges (mem_solid.mp he).1).1⟩
  · obtain ⟨x, hx, _, _, rfl⟩ := exists_of_mem_links h
    exact List.mem_flatMap.mpr ⟨x, hx, x.exit_mem⟩

/-- An edge belongs to the first element, to the elements after it, or joins the first to the second. -/
private theorem mem_flows_cons {x : Figure} {rest : List Figure} {e : Edge} (h : e ∈ flows (x :: rest)) :
    e ∈ solid x.edges ∨ e ∈ flows rest ∨
      ∃ y, rest.head? = some y ∧ e = .flow x.ends.exit y.ends.entry := by
  simp only [flows, List.flatMap_cons, List.mem_append] at h ⊢
  cases rest with
  | nil => simpa [links] using h
  | cons y rest =>
    simp only [links, List.mem_cons] at h
    simp only [List.head?_cons, Option.some_inj, exists_eq_left']
    tauto

section cons
variable {x : Figure} {rest : List Figure} {a b : String}

private theorem joined_first (hd : List.Disjoint x.nodes (rest.flatMap nodes)) (ha : a ∈ x.nodes)
    (h : Joined (flows (x :: rest)) a b) :
    Joined (solid x.edges) a b ∨ a = x.ends.exit ∧ ∃ y, rest.head? = some y ∧ b = y.ends.entry := by
  obtain ⟨e, he, rfl, rfl⟩ := h
  rcases mem_flows_cons he with he | he | ⟨y, hy, rfl⟩
  · exact Or.inl ⟨e, he, rfl, rfl⟩
  · exact absurd (source_of_mem_flows he) (hd ha)
  · exact Or.inr ⟨rfl, y, hy, rfl⟩

private theorem joined_rest (hd : List.Disjoint x.nodes (rest.flatMap nodes)) (ha : a ∈ rest.flatMap nodes)
    (h : Joined (flows (x :: rest)) a b) : Joined (flows rest) a b := by
  obtain ⟨e, he, rfl, rfl⟩ := h
  rcases mem_flows_cons he with he | he | ⟨y, hy, rfl⟩
  · exact absurd ha (hd (mem_of_mem_edges (mem_solid.mp he).1).1)
  · exact ⟨e, he, rfl, rfl⟩
  · exact absurd ha (hd x.exit_mem)

private theorem last_cases {z : Figure} (hz : (x :: rest).getLast? = some z) :
    z = x ∧ rest = [] ∨ z.ends.exit ∈ rest.flatMap nodes ∧ rest.getLast? = some z := by
  cases rest with
  | nil => exact Or.inl ⟨(Option.some_inj.mp hz).symm, rfl⟩
  | cons y rest =>
    rw [List.getLast?_cons_cons] at hz
    exact Or.inr ⟨List.mem_flatMap.mpr ⟨z, List.mem_of_getLast? hz, z.exit_mem⟩, hz⟩

end cons

/-- Where no node is shared, a walk from the entry of the first element to the exit of the last goes
through one element after another by routes. -/
theorem routes_of_walk {xs : List Figure} (hn : (xs.flatMap nodes).Nodup) {step : String → String → Prop}
    (hs : ∀ a ∈ xs.flatMap nodes, ∀ b, step a b → Joined (flows xs) a b) {walk : List String}
    (hw : List.IsChain step walk) {x z : Figure} (hx : xs.head? = some x) (hz : xs.getLast? = some z)
    (hh : walk.head? = some x.ends.entry) (hl : walk.getLast? = some z.ends.exit) : Routes xs walk := by
  induction xs generalizing walk x with
  | nil => cases hx
  | cons x rest ih =>
    cases hx
    rw [List.flatMap_cons, List.nodup_append'] at hn
    obtain ⟨hn, hr, hd⟩ := hn
    have hx : ∀ a ∈ x.nodes, ∀ b, step a b → Joined (solid x.edges) a b ∨
        a = x.ends.exit ∧ ∃ y, rest.head? = some y ∧ b = y.ends.entry := fun a ha b hab =>
      joined_first hd ha (hs a (List.mem_append_left _ ha) b hab)
    have hrest : ∀ a ∈ rest.flatMap nodes, ∀ b, step a b → Joined (flows rest) a b := fun a ha b hab =>
      joined_rest hd ha (hs a (List.mem_append_right _ ha) b hab)
    have hlast := last_cases hz
    obtain ⟨v, w, rfl, hv⟩ := route_of_walk hn (fun a ha hne b hab => (hx a ha b hab).resolve_right fun h => hne h.1)
      hw hh fun a ha hm => by
        rw [hl] at ha
        cases ha
        rcases hlast with ⟨rfl, _⟩ | ⟨hzr, _⟩
        · rfl
        · exact absurd hzr (hd hm)
    obtain ⟨_, hw, hj⟩ := List.isChain_append.mp hw
    -- the only way on from the exit is to the entry of the next element
    have next : ∀ b, w.head? = some b → ∃ y, rest.head? = some y ∧ b = y.ends.entry := by
      intro b hb
      rcases hx _ x.exit_mem b (hj _ hv.getLast? b hb) with ⟨e, he, hsrc, _⟩ | ⟨_, hy⟩
      · exact absurd hsrc (source_ne_exit hn he)
      · exact hy
    refine .cons hv ?_
    cases w with
    | nil =>
      rw [List.append_nil, hv.getLast?] at hl
      rcases hlast with ⟨_, rfl⟩ | ⟨hzr, _⟩
      · exact .nil
      · exact absurd (Option.some_inj.mp hl ▸ hzr) (hd x.exit_mem)
    | cons b w =>
      obtain ⟨y, hy, rfl⟩ := next b rfl
      rcases hlast with ⟨_, rfl⟩ | ⟨_, hzr⟩
      · cases hy
      · rw [List.getLast?_append] at hl
        exact ih hr hrest hw hy hzr rfl (by simpa using hl)

end Figure
end ProcessDiagram
