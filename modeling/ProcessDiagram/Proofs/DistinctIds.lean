import ProcessDiagram.Proofs.MainFlow

/-! No two nodes of a diagram share an id. The ids of the legend have an underscore that no number
follows, which sets them apart from every id that a registry issues. -/
namespace ProcessDiagram

namespace Legend

/-- Some character of each key is no digit, so no key is a number. -/
private theorem key_ne_toString : ∀ s ∈ symbols, ∀ n : Nat, s.key ≠ toString n := by
  intro s hs n he
  have hd : ∀ c ∈ s.key.toList, c.isDigit := by
    intro c hc
    rw [he, Nat.toString_eq_repr, Nat.toList_repr] at hc
    exact Nat.isDigit_of_mem_toDigits (by decide) (by decide) hc
  have hk : ∀ s ∈ symbols, s.key.toList.all Char.isDigit = false := by decide
  exact Bool.false_ne_true ((hk s hs).symm.trans (List.all_eq_true.mpr hd))

private theorem not_isIdentifier : ∀ id ∈ legend.allNodes.map (·.id), ¬ IsIdentifier id := by
  have hids : legend.allNodes.map (·.id) =
      symbols.flatMap fun s => ["icon" ++ "_" ++ s.key, "label" ++ "_" ++ s.key] := by rfl
  rw [hids]
  intro id hid
  obtain ⟨s, hs, hid⟩ := List.mem_flatMap.mp hid
  have hk (word : String) : ¬ IsIdentifier (word ++ "_" ++ s.key) := by
    intro h
    obtain ⟨n, hn⟩ := h.tail_eq_toString
    exact key_ne_toString s hs n hn
  rcases List.mem_cons.mp hid with rfl | hid
  · exact hk _
  · exact List.mem_singleton.mp hid ▸ hk _

private theorem ids_nodup : (legend.allNodes.map (·.id)).Nodup := by decide

end Legend

namespace Diagram

private theorem spacerId_isIdentifier : IsIdentifier spacerId := by
  have ha : spacerId.toList.all Text.isAlphanumeric := by decide
  exact ⟨spacerId, List.all_eq_true.mp ha, Or.inl rfl⟩

/-- All nodes of a diagram have different ids. What stands in the registry in the end is the spacer's
id and the id of each node of the main cluster, and such an id never reads like one of the legend. -/
theorem node_ids_nodup (p : ProcessDescription) :
    ((ofProcess p).graph.nodes.map (·.id)).Nodup ∧
    ∃ main, (ofProcess p).graph.subgraph? mainCluster = some main ∧
      (ofProcess p).graph.nodes = .ofKind spacerId "" .spacer :: (main.nodes ++ legend.allNodes) ∧
      legend.allNodes.length = 14 ∧
      (drawing p).registry.issued = spacerId :: main.nodes.map (·.id) ∧
      ∀ id ∈ main.nodes.map (·.id), id ≠ spacerId ∧ id ∉ legend.allNodes.map (·.id) ∧
        ∀ s, id = "icon_" ++ s ∨ id = "label_" ++ s → ∃ n : Nat, s = toString n := by
  have hd := drawing_coherent p
  have hn : (spacerId :: (drawing p).nodeIds).Nodup := hd.issued ▸ hd.nodup
  have hi : ∀ id ∈ spacerId :: (drawing p).nodeIds, IsIdentifier id := by
    intro id hid
    rcases List.mem_cons.mp hid with rfl | hid
    · exact spacerId_isIdentifier
    · exact hd.identifiers id hid
  have hl : ∀ id ∈ spacerId :: (drawing p).nodeIds, id ∉ legend.allNodes.map (·.id) :=
    fun id hid hm => Legend.not_isIdentifier id hm (hi id hid)
  refine ⟨?_, _, main_of_ofProcess p, nodes_ofProcess p, by decide, hd.issued, ?_⟩
  · rw [nodes_ofProcess, List.map_cons, List.map_append]
    exact List.Nodup.append hn Legend.ids_nodup hl
  · intro id hid
    have hm := List.mem_cons_of_mem spacerId hid
    refine ⟨?_, hl id hm, ?_⟩
    · rintro rfl
      exact (List.nodup_cons.mp hn).1 hid
    · rintro s (rfl | rfl)
      · exact @IsIdentifier.tail_eq_toString "icon" s (hi _ hm)
      · exact @IsIdentifier.tail_eq_toString "label" s (hi _ hm)

/-- The nodes of the main cluster, the spacer and the legend keep apart. -/
theorem ids_apart (p : ProcessDescription) :
    ((placed p).2.nodeIds ++ spacerId :: legend.allNodes.map (·.id)).Nodup := by
  have hd := placed_coherent p
  rw [List.perm_middle.nodup_iff, ← List.cons_append]
  refine List.Nodup.append (hd.issued ▸ hd.nodup) Legend.ids_nodup fun id hid hm => ?_
  refine Legend.not_isIdentifier id hm ?_
  rcases List.mem_cons.mp hid with rfl | hid
  · exact spacerId_isIdentifier
  · exact hd.identifiers id hid

/-- Two tasks whose names read the same, up to symbols, as the first word of the legend's ids. -/
def icons : ProcessDescription :=
  .ofElements [.task { name := "icon" }, .task { name := "icon!" }, .task { name := "spacer" }]

theorem icons_node_ids_nodup : ((ofProcess icons).graph.nodes.map (·.id)).Nodup ∧
    "icon_1" ∈ (drawing icons).canvas.nodes.map (·.id) ∧ "icon_1" ≠ spacerId ∧
    "icon_1" ∉ legend.allNodes.map (·.id) ∧ ∃ n : Nat, "1" = toString n := by
  obtain ⟨hn, main, hmain, _, _, _, hids⟩ := node_ids_nodup icons
  rw [main_of_ofProcess] at hmain
  cases hmain
  have hm : "icon_1" ∈ (drawing icons).canvas.nodes.map (·.id) := by decide +kernel
  obtain ⟨hs, hl, hnum⟩ := hids _ hm
  exact ⟨hn, hm, hs, hl, hnum "1" (Or.inl rfl)⟩

end Diagram

end ProcessDiagram
