import AccessControl.Proofs.Enforcer.Linked
import AccessControl.Proofs.Rbac.Text

/-!
# Installing a model

What becomes of the role graphs of an enforcer when it is given another model.  The graph of a
role definition that the enforcer had before is taken over as it is, and that of a new one has
no links: the role rows of the new model count only once links are built.  The main result is
`Enforcer.graph_setModel`.
-/

namespace AccessControl

open AccessControl.Action

/-! ### Graphs by key -/

/-- The first entry of a key, among entries that are made of definitions. -/
theorem lookup_map_key {α : Type} (f : Definition → α) (ds : List Definition) (key : String) :
  (ds.map fun d => (d.key, f d)).lookup key = (ds.find? (·.key == key)).map f
  := by
  induction ds with
  | nil => rfl
  | cons d rest ih =>
      rw [List.map_cons, List.lookup_cons, List.find?_cons, BEq.comm]
      cases d.key == key with
      | true => rfl
      | false => apply ih

theorem Model.find?_ofKind (m : Model) (kind : SectionKind) (key : String) :
  (m.ofKind kind).find? (·.key == key) = m.find? kind key
  := by
  rw [ofKind, List.find?_filter, find?]
  congr
  funext d
  rw [Bool.decide_and, Bool.decide_coe, Bool.decide_coe]

/-- What is made of an entry is found under its key. -/
theorem lookup_map_entry
    {α β : Type} (f : String → α → β) (entries : List (String × α)) (key : String) :
  (entries.map fun (k, a) => (k, f k a)).lookup key = (entries.lookup key).map (f key)
  := by
  induction entries with
  | nil => rfl
  | cons entry rest ih =>
      obtain ⟨k, a⟩ := entry
      rw [List.map_cons, List.lookup_cons, List.lookup_cons]
      cases h : key == k with
      | true =>
          rw [beq_iff_eq.mp h]
          rfl
      | false => apply ih

theorem Model.lookup_link (m : Model) (graphs : RoleGraphs) (key : String) :
  (m.link graphs).lookup key = (graphs.lookup key).map (·.rebuild (m.roleRows key))
  := lookup_map_entry (fun key (g : RoleGraph) => g.rebuild (m.roleRows key)) graphs key

namespace Enforcer

/-! ### Models -/

/-- A role definition gets the graph that there was for its key, or one without links. -/
theorem lookup_graphsFor
    {m : Model} {key : String} {d : Definition} (hd : m.find? .role key = some d) (e : Enforcer) :
  (e.graphsFor m).lookup key = some ((e.graphs.lookup key).getD e.emptyGraph)
  := by
  obtain ⟨-, -, hkey⟩ := Model.of_find? hd
  rw [graphsFor, lookup_map_key, Model.find?_ofKind, hd, Option.map_some, hkey]

/-- The graphs of a linked enforcer that gets another model are still those of the role rows of
the model it had. -/
theorem Linked.lookup_setModel
    {kind : EnforcerKind} {m₀ : Model} {graphs : RoleGraphs} {e : Enforcer}
    (he : Linked kind m₀ graphs e) {m : Model} (hm : m.validate = .ok ()) {key : String}
    {d : Definition} (hd : m.find? .role key = some d) {g : RoleGraph}
    (hg : graphs.lookup key = some g) :
  ((setModel m).perform e).2.graphs.lookup key = some (g.rebuild (e.model.roleRows key))
  := by
  simp only [perform_setModel, hm, lookup_graphsFor hd, he.linked, Model.lookup_link, hg,
    Option.map_some, Option.getD_some]

/-- A valid model is installed with the graphs that there were, or graphs without links for role
definitions that are new; building links makes them the graphs of the role rows of the model,
with the limits and the matchers that they have. -/
theorem graph_setModel
    {m : Model} (hm : m.validate = .ok ()) {key : String} {d : Definition}
    (hd : m.find? .role key = some d) (e : Enforcer) :
  let e₁ := ((setModel m).perform e).2
  let e₂ := (buildLinks.perform e₁).2
  ∃ g, g = (e.graphs.lookup key).getD { limit := .ofNat e.config.maxHierarchyLevel } ∧
    e₁.model = m ∧ e₁.graphs.lookup key = some g ∧
    e₂.model = m ∧ e₂.graphs.lookup key = some
      (d.rows.foldl RoleGraph.addRow
        { limit := g.limit, nameMatcher := g.nameMatcher, domainMatcher := g.domainMatcher })
  := by
  intro e₁ e₂
  have he₁ : e₁ = { e with
      model := m
      graphs := e.graphsFor m
      cache := []
      log := e.log ++ m.lineEvents } := by
    simp only [e₁, perform_setModel, hm]
  have hgraph := lookup_graphsFor hd e
  obtain ⟨log, hbuild⟩ := perform_buildLinks e₁
  have he₂ : e₂ = { e₁ with graphs := e₁.model.link e₁.graphs, cache := [], log } := by
    simp only [e₂, hbuild]
  refine ⟨_, rfl, ?_, ?_, ?_, ?_⟩
  · rw [he₁]
  · rw [he₁]
    apply hgraph
  · rw [he₂, he₁]
  · rw [he₂, he₁, Model.lookup_link, hgraph, Option.map_some, Model.roleRows, hd]
    rfl

/-- Building links after a model without rows was installed gives a graph without links. -/
theorem graph_setModel_empty :
  let e : Enforcer := { graphs := [("g", RoleGraph.rebuild {} [["alice", "admin"]])] }
  let e₂ := (buildLinks.perform ((setModel (Rbac.model [] [])).perform e).2).2
  (Rbac.model [] []).validate = .ok () ∧
    (Rbac.model [] []).find? .role "g" = some (Rbac.roleDefinition []) ∧
    e₂.graphs.lookup "g" = some {}
  := by
  intro e e₂
  have hm : (Rbac.model [] []).validate = .ok () := rfl
  have hd : (Rbac.model [] []).find? .role "g" = some (Rbac.roleDefinition []) := rfl
  obtain ⟨g, hg, -, -, -, hbuilt⟩ := graph_setModel hm hd e
  refine ⟨hm, hd, ?_⟩
  rw [hbuilt, hg]
  rfl

/-- The role of a row of the old model outlives this model, and the role of a row that a new
model already has is not seen: building links would take the one and give the other. -/
theorem setModel_stale :
  let without := Rbac.model [] []
  let filled := Rbac.model [] [["alice", "admin"]]
  let e := started without {} [[.text "g", .text "alice", .text "admin"]]
  let swapped := (setModel without).perform e
  let made := (start filled none).perform (.initial .full {} none .none {})
  e.autoBuild = true ∧ swapped.1 = .ok () ∧ made.1 = .ok () ∧
    (∃ g, swapped.2.graphs.lookup "g" = some g ∧
      g.hasLink (.text "alice") (.text "admin") defaultDomain = .ok true ∧
      (g.rebuild (without.roleRows "g")).hasLink (.text "alice") (.text "admin") defaultDomain
        = .ok false) ∧
    ∃ g, made.2.graphs.lookup "g" = some g ∧
      g.hasLink (.text "alice") (.text "admin") defaultDomain = .ok false ∧
      (g.rebuild (filled.roleRows "g")).hasLink (.text "alice") (.text "admin") defaultDomain
        = .ok true
  := by
  refine ⟨rfl, rfl, rfl, ⟨_, rfl, ?_, ?_⟩, ⟨_, rfl, ?_, ?_⟩⟩
  · apply ok_of_toOption (by decide +kernel)
  · apply ok_of_toOption (by decide +kernel)
  · apply ok_of_toOption (by decide +kernel)
  · apply ok_of_toOption (by decide +kernel)

end Enforcer

end AccessControl
