import AccessControl.Proofs.Enforcer.Installed

/-!
# Loading again

What loading does to what is derived from rows: to remembered decisions and to role graphs.
Loading that succeeds leaves none of it behind.  Loading that fails has already replaced rows,
and leaves all of it behind until links are built.  The main result is
`Enforcer.loadPolicy_fresh`.
-/

namespace AccessControl

open AccessControl.Action

namespace Enforcer

/-- What is derived from rows is derived from the rows that there are: nothing is remembered,
and the role graphs are some graphs, built anew from the role rows of the model. -/
structure Fresh (graphs : RoleGraphs) (e : Enforcer) : Prop where
  forgets : ∀ request, e.cached? request = none
  linked : ∀ key, e.graphs.lookup key = (graphs.lookup key).map (·.rebuild (e.model.roleRows key))

namespace Fresh

variable {graphs : RoleGraphs} {e : Enforcer}

theorem of_link (hcache : e.cache = []) (hgraphs : e.graphs = e.model.link graphs) :
  Fresh graphs e
  := by
  constructor
  · intro request
    rw [cached?, hcache]
    rfl
  · intro key
    rw [hgraphs, Model.lookup_link]

/-- Who remembers nothing answers the verdict. -/
theorem enforce_eq (he : Fresh graphs e) (request : List Value) :
  ((enforce request).perform e).1 = (e.verdict request).map Prod.fst
  := enforce_eq_verdict fun _ => he.forgets request

end Fresh

/-- Building links derives everything anew, and keeps the rows. -/
theorem buildLinks_fresh (e : Enforcer) :
  ((buildLinks.perform e).2).model = e.model ∧ Fresh e.graphs (buildLinks.perform e).2
  := by
  obtain ⟨log, hbuild⟩ := perform_buildLinks e
  rw [hbuild]
  exact ⟨rfl, .of_link rfl rfl⟩

/-- Loading that fails changes rows and reports only. -/
theorem perform_loadPolicy_error {e : Enforcer} (h : (loadPolicy.perform e).1 ≠ .ok ()) :
  ∃ model log, (loadPolicy.perform e).2 = { e with model, log }
  := by
  obtain hsource | ⟨s, hsource⟩ := Option.eq_none_or_eq_some e.source
  · rw [perform_loadPolicy_none hsource]
    exact ⟨e.model, e.log, rfl⟩
  · obtain ⟨log, hperform⟩ := perform_loadPolicy hsource
    rw [hperform] at h ⊢
    generalize s.load e.files e.model.clearRows = loaded at h ⊢
    obtain ⟨failure | u, m, events⟩ := loaded
    · exact ⟨m, log, rfl⟩
    · dsimp only at h ⊢
      generalize m.sortByPriority = sorted at h ⊢
      obtain ⟨failure | u, m'⟩ := sorted
      · exact ⟨m', log, rfl⟩
      · apply absurd rfl h

/-- Loading that succeeds derives everything anew, if links are built automatically. -/
theorem fresh_of_loadPolicy
    {e : Enforcer} (hbuild : e.autoBuild = true) (h : (loadPolicy.perform e).1 = .ok ()) :
  Fresh e.graphs (loadPolicy.perform e).2
  := by
  have hload : loadPolicy.perform e = (.ok (), (loadPolicy.perform e).2) := Prod.ext h rfl
  obtain ⟨s, m, events, m', log, -, -, -, heq⟩ := loadPolicy_eq_ok hload
  rw [heq]
  apply Fresh.of_link rfl
  simp only [hbuild, if_true]

/-- Loading that fails stops at one row, where those before it are loaded, or else loads all
rows and fails to order them. -/
theorem loadPolicy_stopped
    {e : Enforcer} {rows : List StoredRow} (hs : e.source = some (.memory rows))
    {failure : Failure} (h : (loadPolicy.perform e).1 = .error failure) :
  let e' := (loadPolicy.perform e).2
  (∃ before row after, rows = before ++ row :: after ∧
    runSteps Source.loadRow e.model.clearRows before = (.ok (), e'.model) ∧
    Source.loadRow e'.model row = .error failure) ∨
  ∃ m, runSteps Source.loadRow e.model.clearRows rows = (.ok (), m) ∧
    m.sortByPriority = (.error failure, e'.model)
  := by
  intro e'
  obtain ⟨log, hperform⟩ := perform_loadPolicy hs
  have he' : e' = (loadPolicy.perform e).2 := rfl
  rw [hperform, Source.load] at h he'
  rcases hload : runSteps Source.loadRow e.model.clearRows rows with ⟨failure' | u, m⟩
  · left
    rw [hload] at h he'
    obtain rfl := Except.error.inj h
    obtain ⟨before, row, after, hrows, hbefore, hrow⟩ := runSteps_eq_error hload
    rw [he']
    exact ⟨before, row, after, hrows, hbefore, hrow⟩
  · right
    rw [hload] at h he'
    dsimp only at h he'
    use m, rfl
    rcases hsort : m.sortByPriority with ⟨failure' | u, m'⟩
    · rw [hsort] at h he'
      obtain rfl := Except.error.inj h
      rw [he']
    · rw [hsort] at h
      cases h

/-- When links are built automatically, loading that succeeds leaves no decision and no link of
the rows that there were before: every answer is the verdict of the rows that were loaded.
Loading that fails, for whatever row, leaves rows that may be others, but every decision that
was remembered is given again, and every role graph is what it was, until links are built. -/
theorem loadPolicy_fresh {e : Enforcer} (hbuild : e.autoBuild = true) :
  let result := (loadPolicy.perform e).1
  let e₁ := (loadPolicy.perform e).2
  let e₂ := (buildLinks.perform e₁).2
  (result = .ok () → Fresh e.graphs e₁ ∧
    ∀ request, ((enforce request).perform e₁).1 = (e₁.verdict request).map Prod.fst) ∧
  (result ≠ .ok () → e₁.graphs = e.graphs ∧
    (∀ request allowed, e.remembers request = true → e.cached? request = some allowed →
      ((enforce request).perform e₁).1 = .ok allowed) ∧
    e₂.model = e₁.model ∧ Fresh e.graphs e₂ ∧
    ∀ request, ((enforce request).perform e₂).1 = (e₂.verdict request).map Prod.fst)
  := by
  intro result e₁ e₂
  constructor
  · intro hok
    have hfresh : Fresh e.graphs e₁ := fresh_of_loadPolicy hbuild hok
    exact ⟨hfresh, hfresh.enforce_eq⟩
  · intro herror
    obtain ⟨model, log, he₁⟩ := perform_loadPolicy_error herror
    have hgraphs : e₁.graphs = e.graphs := by
      simp only [e₁, he₁]
    obtain ⟨hmodel, hfresh⟩ := buildLinks_fresh e₁
    rw [hgraphs] at hfresh
    refine ⟨hgraphs, ?_, hmodel, hfresh, hfresh.enforce_eq⟩
    intro request allowed hremembers hcached
    have hremembers₁ : e₁.remembers request = true := by
      simp only [e₁, he₁]
      apply hremembers
    have hcached₁ : e₁.cached? request = some allowed := by
      simp only [e₁, he₁]
      apply hcached
    rw [perform_enforce_hit hremembers₁ hcached₁]

/-- An enforcer that remembers a permission forgets it with the row that gave it. -/
theorem loadPolicy_fresh_revoked :
  let request := [.text "alice", .text "data", .text "read"]
  let e := started (Rbac.model [] []) {} [.text "p" :: request]
  let asked := { e with kind := .cached, cache := [(request, true)], source := some (.memory []) }
  asked.autoBuild = true ∧ (loadPolicy.perform asked).1 = .ok () ∧
    ((enforce request).perform (loadPolicy.perform asked).2).1 = .ok false
  := by
  intro request e asked
  have hbuild : asked.autoBuild = true := rfl
  have hload : (loadPolicy.perform asked).1 = .ok () := ok_of_toOption (by decide +kernel)
  obtain ⟨hfresh, -⟩ := loadPolicy_fresh hbuild
  refine ⟨hbuild, hload, ?_⟩
  rw [(hfresh hload).2]
  apply ok_of_toOption (by decide +kernel)

/-- A permission and a role outlive their rows when one row that is loaded in their place has
too few values. -/
theorem loadPolicy_stale :
  let request := [.text "alice", .text "data", .text "read"]
  let rows := [.text "p" :: request, [.text "g", .text "alice", .text "admin"]]
  let made := (start (Rbac.model [] []) (some (.memory rows))).perform
    (initial .cached {} none .none {})
  let asked := (enforce request).perform made.2
  let reloaded := loadPolicy.perform
    { asked.2 with source := some (.memory [[.text "p", .text "alice"]]) }
  let e := reloaded.2
  made.1 = .ok () ∧ asked.1 = .ok true ∧ e.autoBuild = true ∧ reloaded.1 ≠ .ok () ∧
    e.verdict request = .ok (false, []) ∧ ((enforce request).perform e).1 = .ok true ∧
    ∃ g, e.graphs.lookup "g" = some g ∧
      (g.rebuild (e.model.roleRows "g")).hasLink (.text "alice") (.text "admin") defaultDomain
        = .ok false ∧
      g.hasLink (.text "alice") (.text "admin") defaultDomain = .ok true
  := by
  refine ⟨rfl, ?_, rfl, ?_, ?_, ?_, _, rfl, ?_, ?_⟩
  · apply ok_of_toOption (by decide +kernel)
  · nofun
  · apply ok_of_toOption (by decide +kernel)
  · apply ok_of_toOption (by decide +kernel)
  · apply ok_of_toOption (by decide +kernel)
  · apply ok_of_toOption (by decide +kernel)

end Enforcer

end AccessControl
