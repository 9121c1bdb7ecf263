import ProcessDiagram.Proofs.ElementRoundTrip
import ProcessDiagram.Proofs.GatewayFan
import ProcessDiagram.Proofs.TaggedElement

/-! Scalars as names of tasks. An element, a reference and an object read the same name off a scalar, and all mentions of
one name lead to one node. -/
namespace ProcessDiagram
open Json

def Json.scalarText : Json → String
  | .string s => s
  | v => v.compact

/-- Where an element mentions a task: as a whole, in a branch, or in the body of a loop. -/
inductive Site where
  | whole
  | branch (j k : Nat)
  | body (k : Nat)
deriving DecidableEq, Repr

def FlowElement.nameAt? : FlowElement → Site → Option String
  | .task t, .whole => some t.name
  | .gateway g, .branch j k => (g.branches[j]?.bind (·.tasks[k]?)).map TaskRef.taskName
  | .loop l, .body k => l.tasks[k]?.map TaskRef.taskName
  | _, _ => none

def Figure.nodeAt? : Figure → Site → Option String
  | .task id, .whole => some id
  | .gateway _ _ arms, .branch j k => arms[j]?.bind (·.tasks[k]?)
  | .loop _ _ tasks _, .body k => tasks[k]?
  | _, _ => none

/-- References to the task that a scalar names: the scalar itself, or an object with it as its name. -/
inductive Json.Refers (v : Json) : Json → Prop
  | bare : Refers v v
  | object : Refers v (.object [("name", v)])

inductive Json.NamedAt (v : Json) : Json → Site → Prop
  | whole {fields : List (String × Json)} (h : fields.Perm [("type", .string "tarea"), ("name", v)]) :
    NamedAt v (.object fields) .whole
  | branch {fields inner : List (String × Json)} {branches refs : List Json} {b r : Json} {j k : Nat}
    (htype : FlowElement.Typed .gateway fields) (hbranches : under ["ramas", "branches"] fields = [.array branches])
    (hb : branches[j]? = some b) (hinner : Decode.branch.fields? b = some inner)
    (htasks : under ["tareas", "tasks"] inner = [.array refs]) (hr : refs[k]? = some r) (h : v.Refers r) :
    NamedAt v (.object fields) (.branch j k)
  | body {fields : List (String × Json)} {refs : List Json} {r : Json} {k : Nat}
    (htype : FlowElement.Typed .loop fields) (htasks : under ["tareas", "tasks"] fields = [.array refs])
    (hr : refs[k]? = some r) (h : v.Refers r) : NamedAt v (.object fields) (.body k)

namespace Decode
variable {v : Json}

private theorem scalarName_eq (hv : v.IsScalar) : scalarName v = .ok v.scalarText := by
  cases v with
  | string s => rfl
  | number n => rfl
  | bool b => rfl
  | _ => exact hv.elim

private theorem task_of_scalar (hv : v.IsScalar) : task.ofFields [("name", v)] = .ok { name := v.scalarText } := by
  have hname : Required scalarName [v] v.scalarText := ⟨v, rfl, scalarName_eq hv⟩
  have hdescription : Given optionalText none [] none := .inl ⟨rfl, rfl⟩
  rw [task_ofFields]
  simpa using ⟨hname, hdescription⟩

private theorem task_of_typed {fields : List (String × Json)} (hv : v.IsScalar)
    (h : fields.Perm [("type", .string "tarea"), ("name", v)]) : task.ofFields fields = .ok { name := v.scalarText } := by
  refine task_follows.ofFields_perm h.symm (task_follows.ofFields_cons ?_ (task_of_scalar hv))
  simp [textRules, Rule.keys]

private theorem taskRef_object (hv : v.IsScalar) :
    taskRef (.object [("name", v)]) = .detailed { name := v.scalarText } :=
  taskRef_detailed (task_of_scalar hv)

private theorem taskName_bare (hv : v.IsScalar) : (taskRef v).taskName = v.scalarText := by
  cases v with
  | string s => rfl
  | number n => rfl
  | bool b => rfl
  | _ => exact hv.elim

private theorem taskName_refers {r : Json} (hv : v.IsScalar) (h : v.Refers r) :
    (taskRef r).taskName = v.scalarText := by
  cases h with
  | bare => exact taskName_bare hv
  | object =>
    rw [taskRef_object hv]
    rfl

/-- What is read from a list stands where it stood in the list. -/
private theorem Given.getElem? {α : Type} {item : Json → Result α} {items : List Json} {as : List α} {k : Nat}
    (h : Given (listOf item) [] [.array items] as) (hk : items[k]? = some v) :
    ∃ a, as[k]? = some a ∧ item v = .ok a := by
  obtain ⟨hnone, -⟩ | ⟨w, hw, hlist⟩ := h
  · cases hnone
  cases hw
  obtain ⟨_, ⟨⟩, hitems⟩ := listOf_eq_ok_iff.mp hlist
  have hread := rel_getElem? hitems k
  rw [hk] at hread
  generalize as[k]? = a at hread ⊢
  cases hread with
  | some ha => exact ⟨_, rfl, ha⟩

private theorem Given.taskName {refs : List Json} {ts : List TaskRef} {r : Json} {k : Nat} (hv : v.IsScalar)
    (h : Given taskRefs [] [.array refs] ts) (hr : refs[k]? = some r) (hrefers : v.Refers r) :
    ts[k]?.map TaskRef.taskName = some v.scalarText := by
  obtain ⟨t, ht, hread⟩ := Given.getElem? h hr
  rw [ht, ← Except.ok.inj hread, Option.map_some, taskName_refers hv hrefers]

end Decode

namespace FlowElement
open Decode
variable {v item : Json} {e : FlowElement} {fields : List (String × Json)}

private theorem Typed.unique {kind other : ElementKind} (h : Typed kind fields) (h' : Typed other fields) :
    kind = other := by
  obtain ⟨s, hs, hk⟩ := h
  obtain ⟨s', hs', hk'⟩ := h'
  cases hs.symm.trans hs'
  exact ElementKind.eq_of_mem_words hk hk'

private theorem ofJson_task (hv : v.IsScalar) (h : fields.Perm [("type", .string "tarea"), ("name", v)]) :
    ofJson (.object fields) = .ok (.task { name := v.scalarText }) :=
  ofJson_eq_ok_iff.mpr ⟨fields, rfl, typed_of_perm h (by simp), map_eq_ok_iff.mpr ⟨_, task_of_typed hv h, rfl⟩⟩

/-- Whichever way a scalar is written down as a name, the element read has its text as a name at that site. -/
private theorem nameAt_of_namedAt {site : Site} (hv : v.IsScalar) (h : v.NamedAt item site) (he : ofJson item = .ok e) :
    e.nameAt? site = some v.scalarText := by
  cases h with
  | whole h =>
    rw [ofJson_task hv h] at he
    cases he
    rfl
  | branch htype hbranches hb hinner htasks hr hrefers =>
    obtain ⟨_, ⟨⟩, htyped, hread⟩ := ofJson_eq_ok_iff.mp he
    have hkind := htyped.unique htype
    cases e with
    | gateway g =>
      obtain ⟨_, hg, ⟨⟩⟩ := map_eq_ok_iff.mp hread
      have hgiven := (gateway_ofFields.mp hg).2.2
      rw [hbranches] at hgiven
      obtain ⟨b, hb, hread⟩ := hgiven.getElem? hb
      obtain ⟨inner, hi, hfields⟩ := RecordFormat.decode_eq_ok_iff.mp hread
      cases hinner.symm.trans hi
      have hrefs := (branch_ofFields.mp hfields).2.2
      rw [htasks] at hrefs
      rw [nameAt?, hb]
      exact hrefs.taskName hv hr hrefers
    | _ => cases hkind
  | body htype htasks hr hrefers =>
    obtain ⟨_, ⟨⟩, htyped, hread⟩ := ofJson_eq_ok_iff.mp he
    have hkind := htyped.unique htype
    cases e with
    | loop l =>
      obtain ⟨_, hl, ⟨⟩⟩ := map_eq_ok_iff.mp hread
      have hrefs := (loop_ofFields.mp hl).2.2
      rw [htasks] at hrefs
      exact hrefs.taskName hv hr hrefers
    | _ => cases hkind

end FlowElement

/-- The ledger leads from the name at a site to the node there. -/
private theorem Drawing.Depicts.nodeAt {d : Drawing} {e : FlowElement} {x : Figure} (h : d.Depicts e x) (site : Site) :
    Option.Rel (fun name id => d.ledger.get? name = some id) (e.nameAt? site) (x.nodeAt? site) := by
  cases h with
  | task node =>
    cases site with
    | whole => exact .some node
    | _ => exact .none
  | gateway _ _ between =>
    cases site with
    | branch j k => exact rel_map_left (rel_bind (rel_getElem? between j) fun _ _ hb => rel_getElem? hb.tasks k)
    | _ => exact .none
  | loop _ _ body _ =>
    cases site with
    | body k => exact rel_map_left (rel_getElem? body k)
    | _ => exact .none
  | event => cases site <;> exact .none

/-- The flow of a document reads a scalar as the name of a task, at a site of the item at a position. -/
structure Mentioned (items : List Json) (v : Json) (i : Nat) (site : Site) : Prop where
  scalar : v.IsScalar
  item : ∃ item e, items[i]? = some item ∧ FlowElement.ofJson item = .ok e ∧ v.NamedAt item site

namespace Diagram
open Drawing
variable {p : ProcessDescription} {i : Nat}

def reached (p : ProcessDescription) (i : Nat) (site : Site) : Option String :=
  match p.entries[i]? with
  | some (.ok e) => ((upTo p.entries start i).place e).1.nodeAt? site
  | _ => none

/-- What is placed for an element stands for it in the whole diagram. -/
private theorem depicts_upTo {e : FlowElement} (h : p.entries[i]? = some (.ok e)) :
    (placed p).2.Depicts e ((upTo p.entries start i).place e).1 := by
  have hplaced : (placed p).2 = (placeSlots (p.entries.drop (i + 1))
      ((placeSlots (p.entries.take i) start).2.place e).2).2 := by
    conv_lhs => rw [placed, split_at h, placeSlots_fills.append]
    rfl
  rw [place_upTo, hplaced]
  exact (place_depicts _ e).grows (placeSlots_grows _ _)

private theorem reached_of_name {e : FlowElement} {site : Site} {name : String} (h : p.entries[i]? = some (.ok e))
    (hname : e.nameAt? site = some name) :
    ∃ id, reached p i site = some id ∧ (placed p).2.ledger.get? name = some id := by
  have hnode := (depicts_upTo h).nodeAt site
  rw [hname] at hnode
  have hreached : reached p i site = ((upTo p.entries start i).place e).1.nodeAt? site := by rw [reached, h]
  rw [hreached]
  generalize ((upTo p.entries start i).place e).1.nodeAt? site = id at hnode
  cases hnode with
  | some hget => exact ⟨_, rfl, hget⟩

/-- A mention in a document leads to the node that the ledger has under the text of the scalar. -/
private theorem reached_of_mentioned {items : List Json} {v : Json} {site : Site}
    (h : Mentioned items v i site) (hp : p.entries = items.map FlowElement.ofJson) :
    ∃ id, reached p i site = some id ∧ (placed p).2.ledger.get? v.scalarText = some id := by
  obtain ⟨item, e, hitem, he, hnamed⟩ := h.item
  refine reached_of_name ?_ (FlowElement.nameAt_of_namedAt h.scalar hnamed he)
  rw [hp, List.getElem?_map, hitem, Option.map_some, he]

/-- What the ledger has under a name is the id of one node, which is the node of a task. -/
private theorem node_of_name {name id : String} (h : (placed p).2.ledger.get? name = some id) :
    ∃ n ∈ (drawing p).canvas.nodes, n.kind = .task ∧
      ∀ m ∈ (drawing p).canvas.nodes, some id = some m.id ↔ m = n := by
  have hrecord := placed_records p name
  rw [h] at hrecord
  generalize firstLabel (taskMentions p.entries) name = label at hrecord
  rw [nodes_drawing]
  cases hrecord with
  | @some label _ hn =>
    refine ⟨_, hn, rfl, fun m hm => ?_⟩
    constructor
    · intro hid
      exact List.inj_on_of_nodup_map (placed_coherent p).nodeIds_nodup hm hn (Option.some.inj hid).symm
    · rintro rfl
      rfl

/-- As an element of its own, as a bare reference and as an object, a scalar names the same task: text as it is, and
other scalars by their JSON text. In a document each mention of a scalar leads to exactly one node, the node of a task,
and two mentions lead to the same node exactly if the texts are equal. -/
theorem scalar_names_meet :
    (∀ v : Json, v.IsScalar →
      FlowElement.ofJson (.object [("type", .string "tarea"), ("name", v)]) = .ok (.task { name := v.scalarText }) ∧
      (Decode.taskRef v).taskName = v.scalarText ∧
      Decode.taskRef (.object [("name", v)]) = .detailed { name := v.scalarText }) ∧
    ∀ (fields : List (String × Json)) (items : List Json), lookup fields "flow" = some (.array items) →
      ∃ p, ProcessDescription.ofJson (.object fields) = .ok p ∧
        ∃ main, (ofProcess p).graph.subgraph? mainCluster = some main ∧
        (∀ v i site, Mentioned items v i site → ∃ n ∈ main.nodes, n.kind = .task ∧
          ∀ m ∈ main.nodes, reached p i site = some m.id ↔ m = n) ∧
        ∀ v w i j s t, Mentioned items v i s → Mentioned items w j t →
          (reached p i s = reached p j t ↔ v.scalarText = w.scalarText) := by
  refine ⟨fun v hv => ⟨FlowElement.ofJson_task hv (List.Perm.refl _), Decode.taskName_bare hv,
    Decode.taskRef_object hv⟩, fun fields items hflow => ?_⟩
  let p : ProcessDescription := ⟨some (items.map FlowElement.ofJson)⟩
  have hp : ProcessDescription.ofJson (.object fields) = .ok p := by
    simp only [ProcessDescription.ofJson, hflow]
    rfl
  refine ⟨p, hp, _, main_of_ofProcess p, fun v i site h => ?_, fun v w i j s t hv hw => ?_⟩
  · obtain ⟨id, hreached, hget⟩ := reached_of_mentioned (p := p) h rfl
    rw [hreached]
    exact node_of_name hget
  · obtain ⟨id, hreached, hget⟩ := reached_of_mentioned (p := p) hv rfl
    obtain ⟨id', hreached', hget'⟩ := reached_of_mentioned (p := p) hw rfl
    rw [hreached, hreached', Option.some_inj]
    constructor
    · rintro rfl
      exact (placed_coherent p).get?_injective hget hget'
    · intro htext
      rw [htext, hget'] at hget
      exact (Option.some.inj hget).symm

def pick : List (String × Json) := [
  ("type", .string "Pasarela"), ("name", .string "pick"), ("branches", .array [
    .object [("tareas", .array [.bool true, .string "7"])],
    .array [.null, .string "yes", .array [.object [("name", .number (.integer 7))], .number (.integer 7)]]])]

def sevens : List Json := [
  .object [("name", .number (.integer 7)), ("type", .string "tarea")],
  .object pick,
  .object [("type", .string "loop"), ("name", .bool true), ("tasks", .array [.object [("name", .string "7")]])]]

private theorem sevens_mentioned : Mentioned sevens (.number (.integer 7)) 0 .whole ∧
    Mentioned sevens (.string "7") 1 (.branch 0 1) ∧ Mentioned sevens (.number (.integer 7)) 1 (.branch 1 0) ∧
    Mentioned sevens (.string "7") 2 (.body 0) ∧ Mentioned sevens (.bool true) 1 (.branch 0 0) := by
  have hpick : FlowElement.Typed .gateway pick := ⟨"Pasarela", rfl, by decide⟩
  refine ⟨⟨trivial, _, _, rfl, rfl, .whole (List.Perm.swap _ _ _)⟩, ⟨trivial, _, _, rfl, rfl, ?_⟩,
    ⟨trivial, _, _, rfl, rfl, ?_⟩, ⟨trivial, _, _, rfl, rfl, ?_⟩, ⟨trivial, _, _, rfl, rfl, ?_⟩⟩
  · exact .branch hpick rfl rfl rfl rfl rfl .bare
  · exact .branch hpick rfl rfl rfl rfl rfl .object
  · exact .body ⟨"loop", rfl, by decide⟩ rfl rfl .object
  · exact .branch hpick rfl rfl rfl rfl rfl .bare

theorem sevens_meet : FlowElement.ofJson (.object [("type", .string "tarea"), ("name", .number (.integer 7))]) =
      .ok (.task { name := "7" }) ∧
    ∃ p, ProcessDescription.ofJson (.object [("flow", .array sevens)]) = .ok p ∧
      reached p 0 .whole = reached p 1 (.branch 0 1) ∧ reached p 0 .whole = reached p 1 (.branch 1 0) ∧
      reached p 0 .whole = reached p 2 (.body 0) ∧ reached p 0 .whole ≠ reached p 1 (.branch 0 0) ∧
      ∃ n ∈ (drawing p).canvas.nodes, n.kind = .task ∧ reached p 0 .whole = some n.id := by
  obtain ⟨hforms, hmeet⟩ := scalar_names_meet
  have hseven : Json.IsScalar (.number (.integer 7)) := trivial
  obtain ⟨h₀, h₁, h₂, h₃, h₄⟩ := sevens_mentioned
  obtain ⟨p, hp, main, hmain, hnode, hsame⟩ := hmeet [("flow", .array sevens)] sevens rfl
  have hdistinct : Json.scalarText (.number (.integer 7)) ≠ Json.scalarText (.bool true) := by decide
  rw [main_of_ofProcess] at hmain
  cases hmain
  obtain ⟨n, hn, hkind, honly⟩ := hnode _ _ _ h₀
  refine ⟨(hforms _ hseven).1, p, hp, (hsame _ _ _ _ _ _ h₀ h₁).mpr rfl, (hsame _ _ _ _ _ _ h₀ h₂).mpr rfl,
    (hsame _ _ _ _ _ _ h₀ h₃).mpr rfl, fun h => hdistinct ((hsame _ _ _ _ _ _ h₀ h₄).mp h), n, hn, hkind, ?_⟩
  exact (honly n hn).mpr rfl

end Diagram

end ProcessDiagram
