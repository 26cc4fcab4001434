import AccessControl.Proofs.Domains.Text
import AccessControl.Proofs.Enforcer.Calls
import AccessControl.Proofs.Enforcer.Installed
import AccessControl.Proofs.Model.Built
import AccessControl.Proofs.Roles.Order
import AccessControl.Proofs.Roles.Textual

/-!
# Role queries

An enforcer answers who has which role from its role graph, which every mutation of rows builds
anew.  The main result is `Enforcer.role_queries`: whatever mutations have led to an enforcer, what
it answers are the roles, the users and the domains of its role rows, in the order of the rows.
-/

namespace AccessControl

open AccessControl.Action

/-! ### Built models -/

/-- An edit that a model takes makes a model that has been built. -/
theorem RowEdit.becomes
    {kind : RowKind} {key : String} {edit : RowEdit} {m : Model} {made : Model × Bool}
    (h : edit.onModel kind key m = .ok made) :
  m.Becomes made.1
  := by
  cases edit with
  | add row => apply Model.Becomes.addRow h
  | addAll rows => apply Model.Becomes.addRows h
  | update old new => apply Model.Becomes.updateRow h
  | remove row => apply Model.Becomes.removeRow h
  | removeAll rows => apply Model.Becomes.removeRows h
  | removeWhere f =>
      obtain ⟨⟨m', removed⟩, hremove, h⟩ := bind_eq_ok.mp h
      cases h
      apply Model.Becomes.removeWhere hremove

namespace Enforcer

/-- The model of an enforcer has been built. -/
def Built (e : Enforcer) : Prop := e.model.Built

namespace Built

theorem keeps_edit (kind : RowKind) (key : String) (edit : RowEdit) :
  Keeps Built (edit.act kind key)
  := by
  intro e he
  rw [RowEdit.act_eq_mutate, perform_mutate]
  rcases hchange : edit.onModel kind key e.model with failure | ⟨m, _ | _⟩
  · apply he
  · apply he
  · have hm : m.Built := he.tail (RowEdit.becomes hchange)
    dsimp only
    obtain ⟨result, source, log, heq⟩ :=
      perform_persist edit.operation (edit.onSource key) { e with model := m }
    rw [heq]
    cases result with
    | error failure => apply hm
    | ok u =>
        obtain ⟨log', hlog⟩ := perform_rowsChanged kind.kind { e with model := m, source, log }
        dsimp only
        rw [hlog]
        apply hm

theorem keeps_loadPolicy : Keeps Built loadPolicy := by
  intro e he
  obtain hs | ⟨s, hs⟩ := Option.eq_none_or_eq_some e.source
  · rw [perform_loadPolicy_none hs]
    apply he
  · obtain ⟨log, heq⟩ := perform_loadPolicy hs
    have hloaded := Model.Built.loadSource (he.tail .clearRows) e.files s
    rw [heq]
    generalize s.load e.files e.model.clearRows = r at hloaded
    obtain ⟨failure | u, m, events⟩ := r
    · apply hloaded
    · have hsorted := hloaded.tail .sortByPriority
      dsimp only at hsorted ⊢
      generalize m.sortByPriority = r at hsorted
      obtain ⟨failure | u, m'⟩ := r
      · apply hsorted
      · apply hsorted

theorem keeps_act (x : Mutation) :
  Keeps Built x.act
  := by
  apply Mutation.keeps_act keeps_edit keeps_loadPolicy
  · intro e he
    obtain ⟨log, heq⟩ := perform_buildLinks e
    rw [heq]
    apply he
  · intro _ e he
    obtain ⟨log, heq⟩ := perform_clearPolicy e
    rw [heq]
    apply he.tail .clearRows

/-- The model of a new enforcer has been built if it was before. -/
theorem start
    {m : Model} (hm : m.Built) {source : Option Source} {e₀ e : Enforcer}
    (hnone : e₀.source = none) (h : (Enforcer.start m source).perform e₀ = (.ok (), e)) :
  Built e
  := by
  obtain ⟨log, -, ⟨rfl, rfl⟩ | ⟨s, rfl, hload⟩⟩ := of_start hnone h
  · apply hm
  · have hkeeps := keeps_loadPolicy { e₀ with
      model := m, graphs := e₀.graphsFor m, source := some s, cache := [], log } hm
    rw [hload] at hkeeps
    apply hkeeps

end Built

end Enforcer

/-! ### Runs -/

/-- Whenever rows are loaded in a run of mutations, loading them succeeds. -/
def Mutation.Loads : List Mutation → Enforcer → Prop
  | [], _ => True
  | x :: rest, e =>
    (x = .loadPolicy → (Enforcer.loadPolicy.perform e).1 = .ok ()) ∧
      Loads rest (x.act.perform e).2

namespace Enforcer

/-- A run of mutations in which loading succeeds keeps track. -/
theorem Tracked.run
    {k : EnforcerKind} {switch : Value} {m₀ : Model} {graphs : RoleGraphs} {e : Enforcer}
    (he : Tracked k switch m₀ graphs e) {mutations : List Mutation}
    (hloads : Mutation.Loads mutations e) :
  Tracked k switch m₀ graphs (Mutation.run mutations e)
  := by
  induction mutations generalizing e with
  | nil => apply he
  | cons x rest ih =>
      obtain ⟨hload, hrest⟩ := hloads
      apply ih (he.mutate x fun hx => Or.inr (hload hx)) hrest

/-! ### Answers -/

/-- Texts as a host sees them. -/
def textsAnswer (texts : List String) : Answer := .value (.list (texts.map .text))

/-- An enforcer answers questions about roles by some rows, and is left as it is. -/
structure AnswersBy (rows : List Row) (e : Enforcer) : Prop where
  rolesOf : ∀ (user : String) (domain : Option String),
    (Question.rolesOf (.text user) (RoleGraph.domainValue domain)).act.perform e
      = (.ok (textsAnswer (rolesInRows rows user (domain.getD ""))), e)
  usersOf : ∀ (role : String) (domain : Option String),
    (Question.usersOf (.text role) (RoleGraph.domainValue domain)).act.perform e
      = (.ok (textsAnswer (usersInRows rows role (domain.getD ""))), e)
  hasRole : ∀ (user role : String) (domain : Option String),
    (Question.hasRole (.text user) (.text role) (RoleGraph.domainValue domain)).act.perform e
      = (.ok (.bool (Decidable.decide (∃ row ∈ rows, row[0]? = some user ∧ row[1]? = some role ∧
          domainOfRow row = domain.getD ""))), e)
  allDomains : Question.allDomains.act.perform e = (.ok (textsAnswer (domainsInRows rows)), e)

/-- An enforcer fails to answer questions about roles, for there is no role definition. -/
structure LacksRoles (e : Enforcer) : Prop where
  rolesOf : ∀ user domain, (Question.rolesOf user domain).act.perform e
    = (.error (.model (.noRoleDefinition (.text roleKey))), e)
  usersOf : ∀ role domain, (Question.usersOf role domain).act.perform e
    = (.error (.model (.noRoleDefinition (.text roleKey))), e)
  hasRole : ∀ user role domain, (Question.hasRole user role domain).act.perform e
    = (.error (.model (.noRoleDefinition (.text roleKey))), e)
  allDomains : Question.allDomains.act.perform e
    = (.error (.model (.noRoleDefinition (.text roleKey))), e)

theorem perform_graph (key : String) (e : Enforcer) :
  (graph key).perform e =
    match e.graphs.lookup key with
    | some g => (.ok g, e)
    | none => (.error (.model (.noRoleDefinition (.text key))), e)
  := by
  rw [graph]
  simp only [perform_bind, perform_get]
  cases e.graphs.lookup key <;> rfl

theorem LacksRoles.of_lookup {e : Enforcer} (h : e.graphs.lookup roleKey = none) :
  LacksRoles e
  := by
  have hgraph := perform_graph roleKey e
  rw [h] at hgraph
  constructor
  · intro user domain
    simp only [Question.act, Question.named, Enforcer.rolesOf, perform_bind, hgraph]
  · intro role domain
    simp only [Question.act, Question.named, Enforcer.usersOf, perform_bind, hgraph]
  · intro user role domain
    simp only [Question.act, Enforcer.hasRole, Enforcer.rolesOf, perform_map, perform_bind, hgraph]
    rfl
  · simp only [Question.act, Question.named, Enforcer.allDomains, perform_bind, hgraph]

/-- Where no name was given by another value than a text, texts are shown as they are. -/
theorem perform_valuesOf {e : Enforcer} (hgiven : ∀ x ∈ e.graphs, x.2.given = [])
    (texts : List String) :
  (valuesOf (texts.map .text)).perform e = (.ok (texts.map .text), e)
  := by
  have hvalue : ∀ s : String, RoleGraph.valueIn (e.graphs.map (·.2)) (.text s) = .text s := by
    intro s
    rw [RoleGraph.valueIn, List.findSome?_eq_none_iff.mpr]
    · rfl
    · rintro g hg
      obtain ⟨x, hx, rfl⟩ := List.mem_map.mp hg
      rw [hgiven x hx]
      rfl
  have hvalues : (RoleGraph.valueIn (e.graphs.map (·.2)) ∘ Name.text) = Value.text :=
    funext hvalue
  simp only [valuesOf, perform_bind, perform_get, perform_pure, List.map_map, hvalues]

theorem perform_named {e : Enforcer} (hgiven : ∀ x ∈ e.graphs, x.2.given = [])
    {act : Action (List Name)} {texts : List String}
    (hact : act.perform e = (.ok (texts.map .text), e)) :
  (Question.named act).perform e = (.ok (textsAnswer texts), e)
  := by
  rw [Question.named]
  simp only [perform_bind, hact, perform_valuesOf hgiven, perform_pure]
  rfl

/-- An enforcer whose role graph is built from rows answers by them. -/
theorem AnswersBy.of_lookup
    {e : Enforcer} {g : RoleGraph} (hnames : g.nameMatcher = none) (hdomains : g.domainMatcher = none)
    {rows : List Row} {arity : Nat} (harity : arity = 2 ∨ arity = 3)
    (hrows : ∀ row ∈ rows, row.length = arity) (hnodup : rows.Nodup)
    (hgiven : ∀ x ∈ e.graphs, x.2.given = [])
    (h : e.graphs.lookup roleKey = some (g.rebuild rows)) :
  AnswersBy rows e
  := by
  have hgraph := perform_graph roleKey e
  rw [h] at hgraph
  have hroles : ∀ user domain, (Enforcer.rolesOf (.text user) (RoleGraph.domainValue domain)).perform e
      = (.ok ((rolesInRows rows user (domain.getD "")).map .text), e) := by
    intro user domain
    rw [Enforcer.rolesOf, perform_bind, hgraph]
    dsimp only
    rw [perform_lift, RoleGraph.rolesOf_texts]
    congr 1
    apply RoleGraph.roles_rebuild hnames hdomains harity hrows hnodup
  constructor
  · intro user domain
    apply perform_named hgiven (hroles user domain)
  · intro role domain
    apply perform_named hgiven
    rw [Enforcer.usersOf, perform_bind, hgraph]
    dsimp only
    rw [perform_lift, RoleGraph.usersOf_texts]
    congr 1
    apply RoleGraph.users_rebuild hnames hdomains harity hrows hnodup
  · intro user role domain
    rw [Question.act, perform_map, Enforcer.hasRole, perform_bind, hroles]
    dsimp only
    have hmem : ((rolesInRows rows user (domain.getD "")).map Name.text).contains
          (.ofValue (.text role))
        = Decidable.decide (∃ row ∈ rows, row[0]? = some user ∧ row[1]? = some role ∧
          domainOfRow row = domain.getD "") := by
      rw [Bool.eq_iff_iff, List.contains_iff_mem, decide_eq_true_eq, ← mem_rolesInRows,
        Name.ofValue_text, List.mem_map_of_injective fun _ _ h => Name.text.inj h]
    rw [perform_pure, hmem]
    rfl
  · apply perform_named hgiven
    rw [Enforcer.allDomains, perform_bind, hgraph]
    dsimp only
    rw [perform_pure, RoleGraph.domains_rebuild harity hrows hnodup]

/-- An enforcer that builds links automatically, started with the model of a text, answers
questions about roles by its role rows, after any mutations among which loading succeeds: it
lists roles, users and domains in the order of the rows.  It fails to answer if the model has no
role definition. -/
theorem role_queries
    {text : String} {m : Model} {events : List LogEvent}
    (hm : Model.ofText text = (.ok m, events)) {config : Config}
    (hbuild : config.autoBuildRoleLinks = true) {kind : EnforcerKind} {sink : Option Sink}
    {tag : Value} {files : Files} {source : Option Source} {e₀ : Enforcer}
    (hstart : (start m source).perform (.initial kind config sink tag files) = (.ok (), e₀))
    {mutations : List Mutation} (hloads : Mutation.Loads mutations e₀) :
  let e := Mutation.run mutations e₀
  (∀ rows, e.model.rows .role roleKey = .ok rows → AnswersBy rows e) ∧
    (∀ failure, e.model.rows .role roleKey = .error failure → LacksRoles e)
  := by
  intro e
  have htracked : Tracked kind (.bool config.enforceEnabled) m
      (m.unlinked config.maxHierarchyLevel) e :=
    Tracked.run (Tracked.start (Model.wellFormed_ofText hm) (Model.clearRows_ofText hm) hbuild hstart)
      hloads
  have hbuilt : Built e :=
    Mutation.run_keeps (fun x _ => Built.keeps_act x) (Built.start (Model.built_ofText hm) rfl hstart)
  have hlookup : e.graphs.lookup roleKey
      = (m.find? .role roleKey).map fun _ =>
        ({ limit := .ofNat config.maxHierarchyLevel } : RoleGraph).rebuild
          (e.model.roleRows roleKey) := by
    rw [htracked.linked, Model.lookup_link, Model.unlinked, lookup_map_key, Model.find?_ofKind,
      Option.map_map]
    rfl
  have hgiven : ∀ x ∈ e.graphs, x.2.given = [] := by
    intro x hx
    rw [htracked.linked] at hx
    obtain ⟨y, -, rfl⟩ := List.mem_map.mp hx
    apply RoleGraph.given_rebuild
  constructor
  · intro rows hrows
    obtain ⟨d, hget, rfl⟩ := map_eq_ok.mp hrows
    have hd : e.model.find? RowKind.role.kind roleKey = some d := Model.get_eq_ok hget
    obtain ⟨rows₀, hd₀⟩ := htracked.shape.find? hd
    rw [RowKind.kind] at hd hd₀
    obtain ⟨hmem₀, hkind₀, -⟩ := Model.of_find? hd₀
    have hsound := hbuilt.sound.definitions d (Model.of_find? hd).1
    rw [hd₀, Option.map_some, Model.roleRows, hd] at hlookup
    exact .of_lookup rfl rfl ((Model.fresh_ofText hm _ hmem₀).places hkind₀) hsound.fit hsound.nodup
      hgiven hlookup
  · intro failure hfailure
    apply LacksRoles.of_lookup
    rw [hlookup, Option.map_eq_none_iff]
    cases hd₀ : m.find? RowKind.role.kind roleKey with
    | none => apply hd₀
    | some d₀ =>
        obtain ⟨rows, hd⟩ := htracked.shape.symm.find? hd₀
        rw [RowKind.kind] at hd
        rw [Model.rows, Model.get_eq hd] at hfailure
        cases hfailure

/-- Rows that are loaded, added, replaced and removed are answered by in the order that they
have at the end. -/
theorem role_queries_reloaded :
  let start := (start (Domains.model [] []) (some (.memory
    [[.text "g", .text "alice", .text "admin", .text "acme"],
     [.text "g", .text "bob", .text "staff", .text ""],
     [.text "g", .text "alice", .text "staff", .text "acme"]]))).perform
    (.initial .cached {} none .none {})
  let mutations : List Mutation :=
    [.addRole (.text "alice") (.text "root") (some (.text "umbra")), .loadPolicy,
     .edit .role "g" (.update [.text "alice", .text "admin", .text "acme"]
       [.text "alice", .text "owner", .text "acme"]),
     .deleteUser (.text "bob")]
  let e := Mutation.run mutations start.2
  start.1 = .ok () ∧ Mutation.Loads mutations start.2 ∧
    (Question.rolesOf (.text "alice") (.text "acme")).act.perform e
      = (.ok (textsAnswer ["owner", "staff"]), e) ∧
    (Question.usersOf (.text "staff") .none).act.perform e = (.ok (textsAnswer []), e) ∧
    (Question.hasRole (.text "alice") (.text "root") (.text "umbra")).act.perform e
      = (.ok (.bool true), e) ∧
    Question.allDomains.act.perform e = (.ok (textsAnswer ["acme", "umbra"]), e)
  := by
  intro start mutations e
  obtain ⟨events, hm⟩ := Domains.ofText Domains.entries_text
  have hstart : start.1 = .ok () := ok_of_toOption (by decide +kernel)
  have hloads : Mutation.Loads mutations start.2 := by
    refine ⟨nofun, ?_, nofun, nofun, trivial⟩
    intro _
    apply ok_of_toOption (by decide +kernel)
  have hrows : e.model.rows .role roleKey
      = .ok [["alice", "owner", "acme"], ["alice", "staff", "acme"], ["alice", "root", "umbra"]] :=
    ok_of_toOption (by decide +kernel)
  have hanswers := (role_queries hm rfl (Prod.ext hstart rfl) hloads).1 _ hrows
  exact ⟨hstart, hloads, hanswers.rolesOf "alice" (some "acme"), hanswers.usersOf "staff" none,
    hanswers.hasRole "alice" "root" (some "umbra"), hanswers.allDomains⟩

end Enforcer

end AccessControl
