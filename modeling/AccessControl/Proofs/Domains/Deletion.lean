import AccessControl.Proofs.Enforcer.Removal
import AccessControl.Proofs.Enforcer.RoleQueries

/-!
# Deletions of domains

What is gone after domains were deleted: the policy rows and the role rows of these domains, and
with them their users and their roles.  The main result is `Enforcer.deleteDomains_exact`, for
whatever mutations came before, and whether or not they brought the role graphs up to date.
-/

namespace AccessControl

open AccessControl.Action

namespace Enforcer

/-! ### Descendants -/

/-- An enforcer descends from a model and its role graphs: its model differs from that in rows
only, its rows fit, its source can be loaded now and after every edit, and building its role
graphs anew makes of them what it makes of the given ones.  What its own role graphs are is left
open, as links need not be built automatically, and loading may stop before they are. -/
structure Descends (m₀ : Model) (graphs : RoleGraphs) (e : Enforcer) : Prop where
  wellFormed : e.model.WellFormed
  rowsFit : e.model.RowsFit
  shape : e.model.SameShape m₀
  supplied : Supplied e.files e.model e.source
  relinked : ∀ m : Model, m.link e.graphs = m.link graphs

namespace Descends

variable {m₀ : Model} {graphs : RoleGraphs} {e : Enforcer}

/-- Other rows, and role graphs that are as they were or built anew. -/
theorem change
    (he : Descends m₀ graphs e) {e' : Enforcer} (hshape : e'.model.SameShape e.model)
    (hrows : e'.model.RowsFit) (hsource : Supplied e'.files e.model e'.source)
    (hgraphs : e'.graphs = e.graphs ∨ ∃ m' : Model, e'.graphs = m'.link e.graphs) :
  Descends m₀ graphs e'
  := by
  refine ⟨he.wellFormed.of_sameShape hshape.symm, hrows, hshape.trans he.shape,
    hsource.of_sameShape hshape.symm, ?_⟩
  intro m
  obtain heq | ⟨m', heq⟩ := hgraphs
  · rw [heq, he.relinked]
  · rw [heq, Model.link_link, he.relinked]

theorem keeps_edit (kind : RowKind) (key : String) (edit : RowEdit) :
  Keeps (Descends m₀ graphs) (edit.act kind key)
  := by
  intro e he
  obtain ⟨result, heq⟩ | ⟨d, c, rows, source, log, hd, hreads, honRows, hsupplied, heq⟩ :=
    RowEdit.perform_act_of he.rowsFit kind key edit (fun _ => Supplied e.files e.model)
      fun m d c hd hreads => he.supplied.persist he.wellFormed hd hreads m
  · rw [heq]
    apply he
  · rw [heq]
    refine he.change (Model.SameShape.withRows e.model kind key rows) ?_ hsupplied ?_
    · apply he.rowsFit.withRows hd
      intro row hrow
      obtain hrow | hrow := RowChange.of_mem_onRows honRows hrow
      · apply he.rowsFit kind key d hd row hrow
      · apply hreads.length_of_added hrow
    · dsimp only [graphsAfter]
      split
      · right
        exact ⟨_, rfl⟩
      · left
        rfl

theorem keeps_loadPolicy : Keeps (Descends m₀ graphs) loadPolicy := by
  intro e he
  obtain hs | ⟨s, hs⟩ := Option.eq_none_or_eq_some e.source
  · rw [perform_loadPolicy_none hs]
    apply he
  · obtain ⟨log, heq⟩ := perform_loadPolicy hs
    obtain ⟨hshape, hrows⟩ := Model.load_keeps e.files (Model.SameShape.clearRows e.model)
      (Model.rowsFit_clearRows e.model) s
    rw [heq]
    generalize s.load e.files e.model.clearRows = r at hshape hrows
    obtain ⟨failure | u, m, events⟩ := r
    · exact he.change hshape hrows he.supplied (.inl rfl)
    · have hsorted := (Model.SameShape.sortByPriority m).trans hshape
      have hfit := Model.RowsFit.sortByPriority hrows
      dsimp only at hsorted hfit ⊢
      generalize m.sortByPriority = r at hsorted hfit ⊢
      obtain ⟨failure | u, m'⟩ := r
      · exact he.change hsorted hfit he.supplied (.inl rfl)
      · refine he.change hsorted hfit he.supplied ?_
        dsimp only
        split
        · right
          exact ⟨_, rfl⟩
        · left
          rfl

theorem keeps_buildLinks : Keeps (Descends m₀ graphs) buildLinks := by
  intro e he
  obtain ⟨log, heq⟩ := perform_buildLinks e
  rw [heq]
  exact he.change (.refl _) he.rowsFit he.supplied (.inr ⟨_, rfl⟩)

theorem keeps_clearPolicy : Keeps (Descends m₀ graphs) clearPolicy := by
  intro e he
  obtain ⟨log, heq⟩ := perform_clearPolicy e
  rw [heq]
  exact he.change (Model.SameShape.clearRows e.model) (Model.rowsFit_clearRows e.model) he.supplied
    (.inr ⟨_, rfl⟩)

/-- Whatever is mutated, and whether or not that succeeds, an enforcer still descends. -/
theorem keeps_act (x : Mutation) :
  Keeps (Descends m₀ graphs) x.act
  := Mutation.keeps_act keeps_edit keeps_loadPolicy keeps_buildLinks x fun _ => keeps_clearPolicy

/-- An enforcer that has started with a model descends from it. -/
theorem start
    {m : Model} (hwell : m.WellFormed) (hrows : m.RowsFit) {source : Option Source}
    {e₀ e : Enforcer} (hnone : e₀.source = none)
    (h : (Enforcer.start m source).perform e₀ = (.ok (), e)) :
  Descends m (e₀.graphsFor m) e
  := by
  obtain ⟨log, -, ⟨rfl, rfl⟩ | ⟨s, rfl, hload⟩⟩ := of_start hnone h
  · exact ⟨hwell, hrows, .refl m, .backed .none, fun _ => rfl⟩
  · have hkeeps := keeps_loadPolicy _
      ⟨hwell, hrows, .refl m, supplied_of_loadPolicy hload, fun _ => rfl⟩
    rw [hload] at hkeeps
    apply hkeeps

/-- Its source does not refuse removals. -/
theorem not_refuses (he : Descends m₀ graphs e) :
  ¬ e.Refuses
  := by
  rintro ⟨-, s, hs, hrefuses⟩
  have hsupplied := he.supplied
  rw [hs] at hsupplied
  cases hsupplied with
  | backed h =>
      cases h with
      | memory hfits =>
          obtain ⟨x, -, hx⟩ := List.mem_map.mp hrefuses
          cases hx
  | file h => exact hrefuses

/-- If it saves to a source in step, the source stays in step where nothing is cleared. -/
theorem inStep_act
    (he : Descends m₀ graphs e) (hsave : e.autoSave = true) {kept : List KeptRow}
    (hsource : e.source = some (.memory (kept.map KeptRow.stored))) (hstep : InStep e.model kept)
    {x : Mutation} (hx : x.clears = false) {result : Except Failure Bool} {e' : Enforcer}
    (hperform : x.act.perform e = (result, e')) :
  ∃ kept' : List KeptRow, e'.source = some (.memory (kept'.map KeptRow.stored)) ∧
    InStep e'.model kept'
  := by
  have hbacked : RowEdit.Backed e.model e.source := by
    rw [hsource]
    apply RowEdit.Backed.memory hstep.fits
  have hmirrored : Mirrored e :=
    ⟨⟨he.wellFormed, he.rowsFit, hbacked⟩, hsave, kept, hsource, hstep⟩
  have hkept := (Mirrored.keeps_act hx e hmirrored).inStep
  rw [hperform] at hkept
  apply hkept

end Descends

end Enforcer

/-! ### Domains of rows -/

/-- The policy rows of a model have a domain at a position, and its role rows have one after the
user and the role. -/
structure Model.DomainAt (m : Model) (i : Nat) : Prop where
  policy : ∃ d, m.find? .policy Enforcer.policyKey = some d ∧
    d.fieldIndex? Enforcer.domainField = some i
  role : ∃ d, m.find? .role Enforcer.roleKey = some d ∧ d.arity = 3

/-- The places of domains in rows. -/
def domainPlaces (i : Nat) : List RowPlace :=
  [⟨.policy, Enforcer.policyKey, i⟩, ⟨.role, Enforcer.roleKey, 2⟩]

/-- A row has one of some domains. -/
def inDomains (i : Nat) (domains : List String) (kind : RowKind) (key : String) (row : Row) :
    Bool :=
  domains.any fun domain => (domainPlaces i).any (·.names domain kind key row)

/-- A model without the rows of some domains has no row in any of them. -/
theorem Model.Without.not_in
    {m m' : Model} {i : Nat} {domains : List String} (h : m.Without (inDomains i domains) m')
    {domain : String} (hdomain : domain ∈ domains) :
  (∀ row, m'.Holds .policy Enforcer.policyKey row → row[i]? ≠ some domain) ∧
    ∀ row, m'.Holds .role Enforcer.roleKey row → row[2]? ≠ some domain
  := by
  have hnot : ∀ kind key row, m'.Holds kind key row →
      (domainPlaces i).any (·.names domain kind key row) = false := by
    intro kind key row hrow
    have hdomains := ((h.holds_iff kind key row).mp hrow).2
    rw [inDomains, List.any_eq_false] at hdomains
    rw [← Bool.not_eq_true]
    apply hdomains domain hdomain
  constructor
  · intro row hrow hin
    have hplaces := hnot .policy Enforcer.policyKey row hrow
    simp [domainPlaces, RowPlace.names, RowPlace.covers, hin] at hplaces
  · intro row hrow hin
    have hplaces := hnot .role Enforcer.roleKey row hrow
    simp [domainPlaces, RowPlace.names, RowPlace.covers, hin] at hplaces

namespace Model.DomainAt

variable {m m' : Model} {i : Nat}

theorem of_sameShape (h : m.DomainAt i) (hshape : m.SameShape m') :
  m'.DomainAt i
  := by
  constructor
  · obtain ⟨d, (hd : m.find? RowKind.policy.kind Enforcer.policyKey = some d), hi⟩ := h.policy
    obtain ⟨rows, hd'⟩ := hshape.find? hd
    exact ⟨_, hd', hi⟩
  · obtain ⟨d, (hd : m.find? RowKind.role.kind Enforcer.roleKey = some d), harity⟩ := h.role
    obtain ⟨rows, hd'⟩ := hshape.find? hd
    exact ⟨_, hd', harity⟩

theorem fieldIndex (h : m.DomainAt i) :
  m.fieldIndex Enforcer.policyKey (.text Enforcer.domainField) = .ok i
  := by
  obtain ⟨d, hd, hi⟩ := h.policy
  simp only [Model.fieldIndex, Model.get_eq hd, bind, Except.bind, Value.text?, Option.bind, hi]
  rfl

/-- There are definitions for the places of domains. -/
theorem has (h : m.DomainAt i) :
  ∀ place ∈ domainPlaces i, m.has place.kind.kind place.key = true
  := by
  obtain ⟨p, hp, -⟩ := h.policy
  obtain ⟨g, hg, -⟩ := h.role
  intro place hplace
  simp only [domainPlaces, List.mem_cons, List.not_mem_nil, or_false] at hplace
  obtain rfl | rfl := hplace
  · exact Option.isSome_iff_exists.mpr ⟨p, hp⟩
  · exact Option.isSome_iff_exists.mpr ⟨g, hg⟩

theorem hasDomains (h : m.DomainAt i) :
  Enforcer.hasDomains m = true
  := by
  obtain ⟨d, hd, harity⟩ := h.role
  rw [Enforcer.hasDomains, hd]
  simp [harity]

end Model.DomainAt

namespace Enforcer

variable {e : Enforcer} {i : Nat}

theorem perform_domainIndex (h : e.model.DomainAt i) :
  domainIndex.perform e = (.ok (some i), e)
  := by
  rw [domainIndex, perform_bind, perform_get]
  dsimp only
  rw [h.fieldIndex]
  rfl

/-! ### Deletions -/

/-- The rows of a domain are removed place by place. -/
theorem perform_deleteUsersInDomain (h : e.model.DomainAt i) (domain : String) :
  (deleteUsersInDomain (.text domain)).perform e
    = ((fun _ => true) <$> removeAt (domainPlaces i) domain).perform e
  := by
  let policyPlace : RowPlace := ⟨.policy, policyKey, i⟩
  let rolePlace : RowPlace := ⟨.role, roleKey, 2⟩
  have hleft : (deleteUsersInDomain (.text domain)).perform e = (do
      let _ ← policyPlace.remove domain
      if hasDomains (← get).model then
        let _ ← rolePlace.remove domain
      return true : Action Bool).perform e := by
    rw [deleteUsersInDomain, perform_bind, perform_domainIndex h]
    rfl
  have hright : ((fun _ => true) <$> removeAt (domainPlaces i) domain).perform e = (do
      let _ ← policyPlace.remove domain
      let _ ← rolePlace.remove domain
      return true : Action Bool).perform e := by
    simp [domainPlaces, removeAt, policyPlace, rolePlace]
  rw [hleft, hright, perform_bind, perform_bind]
  obtain ⟨hremoves, -⟩ := policyPlace.perform_remove domain e
  generalize (policyPlace.remove domain).perform e = r at hremoves
  obtain ⟨failure | here, e'⟩ := r
  · rfl
  · obtain ⟨hwithout, -⟩ := hremoves.exact here rfl
    have hdomains := (h.of_sameShape hwithout.shape.symm).hasDomains
    dsimp only
    rw [perform_bind, perform_get]
    dsimp only
    rw [if_pos hdomains]

/-- The rows of some domains are removed domain by domain. -/
theorem perform_deleteEach (h : e.model.DomainAt i) (hnot : ¬ e.Refuses) {domains : List String}
    (hdomains : "" ∉ domains) :
  ∃ e', (deleteEach (domains.map .text)).perform e = (.ok true, e') ∧
    e.model.Without (inDomains i domains) e'.model
  := by
  induction domains generalizing e with
  | nil => exact ⟨e, rfl, .refl fun _ _ _ _ => rfl⟩
  | cons domain rest ih =>
      rw [List.mem_cons, not_or] at hdomains
      obtain ⟨hdomain, hrest⟩ := hdomains
      obtain ⟨hremoves, hreturns⟩ := perform_removeAt (domainPlaces i) domain e
      simp only [RowPlace.picks_eq_names _ (Ne.symm hdomain)] at hremoves
      obtain ⟨⟨removed, hremoved⟩, hnot'⟩ := hreturns h.has hnot
      obtain ⟨hwithout, -⟩ := hremoves.exact removed hremoved
      obtain ⟨e', heach, hwithout'⟩ := ih (h.of_sameShape hwithout.shape.symm) hnot' hrest
      refine ⟨e', ?_, hwithout.trans hwithout'⟩
      rw [List.map_cons, deleteEach, perform_bind, perform_deleteUsersInDomain h, perform_map,
        hremoved]
      apply heach

/-- After domains are deleted, the role graphs are built from the role rows that are left. -/
theorem Descends.perform_deleteDomains
    {m₀ : Model} {graphs : RoleGraphs} (he : Descends m₀ graphs e) (h : e.model.DomainAt i)
    {domains : List String} (hsome : domains ≠ []) (hdomains : "" ∉ domains) :
  ∃ e', (deleteDomains (domains.map .text)).perform e = (.ok true, e') ∧
    e.model.Without (inDomains i domains) e'.model ∧ e'.graphs = e'.model.link graphs
  := by
  obtain ⟨e₁, heach, hwithout⟩ := perform_deleteEach h he.not_refuses hdomains
  have he₁ := Mutation.deleteEach_of (Keeps.composes (Descends m₀ graphs))
    (fun kind key edit _ => keeps_edit kind key edit) (domains.map .text) e he
  rw [heach] at he₁
  obtain ⟨log, hlink⟩ := perform_buildLinks e₁
  refine ⟨{ e₁ with graphs := e₁.model.link e₁.graphs, cache := [], log }, ?_, hwithout,
    he₁.relinked e₁.model⟩
  have hempty : ¬ (domains.map Value.text).isEmpty = true := by simpa using hsome
  rw [deleteDomains, if_neg hempty, perform_bind, heach]
  dsimp only
  rw [if_pos rfl, perform_bind, hlink]
  rfl

/-! ### What is left -/

theorem subjectsAt_eq_nil {rows : List Row} {domain : String}
    (h : ∀ row ∈ rows, row[i]? ≠ some domain) :
  subjectsAt i (.text domain) rows = []
  := by
  have hnone : (rows.filter fun row => row[i]?.any fun s => (Value.text domain).equals (.text s))
      = [] := by
    rw [List.filter_eq_nil_iff]
    intro row hrow hany
    obtain ⟨s, hs, hequals⟩ := (Option.any_eq_true _ _).mp hany
    obtain rfl : domain = s := beq_iff_eq.mp hequals
    exact h row hrow hs
  rw [subjectsAt, hnone]
  rfl

/-- A domain has no users when no row is in it. -/
theorem perform_usersInDomain
    (h : e.model.DomainAt i) {domain : String}
    (hpolicy : ∀ row, e.model.Holds .policy policyKey row → row[i]? ≠ some domain)
    (hrole : ∀ row, e.model.Holds .role roleKey row → row[2]? ≠ some domain) :
  (usersInDomain (.text domain)).perform e = (.ok [], e)
  := by
  obtain ⟨p, hp, -⟩ := h.policy
  obtain ⟨g, hg, -⟩ := h.role
  have hsubjects : subjectsAt i (.text domain) p.rows = [] :=
    subjectsAt_eq_nil fun row hrow => hpolicy row ⟨p, hp, hrow⟩
  have hmembers : subjectsAt 2 (.text domain) g.rows = [] :=
    subjectsAt_eq_nil fun row hrow => hrole row ⟨g, hg, hrow⟩
  rw [usersInDomain, perform_bind, perform_domainIndex h]
  simp only [perform_bind, perform_get, perform_lift, Model.rows, Model.get_eq hp, Model.get_eq hg,
    Except.map, hsubjects, hmembers, perform_pure]
  rfl

end Enforcer

/-- A domain of rows is the third text of one of them. -/
theorem not_mem_domainsInRows {rows : List Row} {domain : String} (hdomain : domain ≠ "")
    (h : ∀ row ∈ rows, row[2]? ≠ some domain) :
  domain ∉ domainsInRows rows
  := by
  intro hmem
  rw [domainsInRows, List.mem_filter, List.mem_eraseDups] at hmem
  obtain ⟨row, hrow, hof⟩ := List.mem_map.mp hmem.1
  rw [domainOfRow, List.getD_eq_getElem?_getD] at hof
  cases hget : row[2]? with
  | none =>
      rw [hget] at hof
      exact hdomain hof.symm
  | some s =>
      rw [hget, Option.getD_some] at hof
      apply h row hrow
      rw [hget, hof]

/-- The role graphs of a model without links have, after they were linked, the rows of the model
that links them. -/
theorem Model.lookup_link_unlinked (m m₀ : Model) (level : Nat) (key : String) :
  (m.link (m₀.unlinked level)).lookup key = (m₀.find? .role key).map fun _ =>
    ({ limit := .ofNat level } : RoleGraph).rebuild (m.roleRows key)
  := by
  rw [Model.lookup_link, Model.unlinked, lookup_map_key, Model.find?_ofKind, Option.map_map]
  rfl

namespace Enforcer

/-- Domains are deleted: exactly the policy rows and the role rows in these domains are gone.
A source that was in step stays in step, the domains have no users, and roles are answered from
the role rows that are left, so that the domains are no longer listed. -/
theorem deleteDomains_exact
    {m : Model} (hm : m.Built) {i : Nat} (hat : m.DomainAt i) {config : Config}
    {kind : EnforcerKind} {sink : Option Sink} {tag : Value} {files : Files}
    {source : Option Source} {e₀ : Enforcer}
    (hstart : (start m source).perform (.initial kind config sink tag files) = (.ok (), e₀))
    (mutations : List Mutation) {domains : List String} (hsome : domains ≠ [])
    (hnames : "" ∉ domains) :
  let e := Mutation.run mutations e₀
  ∃ e', (deleteDomains (domains.map .text)).perform e = (.ok true, e') ∧
    e.model.Without (inDomains i domains) e'.model ∧
    (∀ domain ∈ domains,
      (∀ row, e'.model.Holds .policy policyKey row → row[i]? ≠ some domain) ∧
      (∀ row, e'.model.Holds .role roleKey row → row[2]? ≠ some domain) ∧
      (usersInDomain (.text domain)).perform e' = (.ok [], e')) ∧
    (e.autoSave = true → ∀ kept : List KeptRow,
      e.source = some (.memory (kept.map KeptRow.stored)) → InStep e.model kept →
      ∃ kept' : List KeptRow, e'.source = some (.memory (kept'.map KeptRow.stored)) ∧
        InStep e'.model kept') ∧
    ∃ rows, e'.model.rows .role roleKey = .ok rows ∧
      e'.graphs.lookup roleKey
        = some (({ limit := .ofNat config.maxHierarchyLevel } : RoleGraph).rebuild rows) ∧
      AnswersBy rows e' ∧ ∀ domain ∈ domains, domain ∉ domainsInRows rows
  := by
  intro e
  have hdescends : Descends m (m.unlinked config.maxHierarchyLevel) e := by
    apply Mutation.run_keeps fun x _ => Descends.keeps_act x
    apply Descends.start hm.sound.wellFormed hm.sound.rowsFit rfl hstart
  have hbuilt : Built e := by
    apply Mutation.run_keeps fun x _ => Built.keeps_act x
    apply Built.start hm rfl hstart
  obtain ⟨e', hperform, hwithout, hgraphs⟩ := hdescends.perform_deleteDomains
    (hat.of_sameShape hdescends.shape.symm) hsome hnames
  let x := Mutation.deleteDomains (domains.map .text)
  have hx : x.clears = false := by simpa [x, Mutation.clears] using hsome
  have hbuilt' := Built.keeps_act x e hbuilt
  rw [show x.act.perform e = _ from hperform] at hbuilt'
  have hat' := (hat.of_sameShape hdescends.shape.symm).of_sameShape hwithout.shape.symm
  refine ⟨e', hperform, hwithout, ?_, ?_, ?_⟩
  · intro domain hdomain
    obtain ⟨hpolicy, hrole⟩ := hwithout.not_in hdomain
    exact ⟨hpolicy, hrole, perform_usersInDomain hat' hpolicy hrole⟩
  · intro hsave kept hsource hstep
    apply hdescends.inStep_act hsave hsource hstep hx hperform
  · obtain ⟨d, hd, harity⟩ := hat'.role
    obtain ⟨d₀, hd₀, -⟩ := hat.role
    have hlookup : e'.graphs.lookup roleKey
        = some (({ limit := .ofNat config.maxHierarchyLevel } : RoleGraph).rebuild d.rows) := by
      rw [hgraphs, Model.lookup_link_unlinked, hd₀, Option.map_some,
        Model.roleRows, hd]
      rfl
    have hgiven : ∀ y ∈ e'.graphs, y.2.given = [] := by
      intro y hy
      rw [hgraphs] at hy
      obtain ⟨z, -, rfl⟩ := List.mem_map.mp hy
      apply RoleGraph.given_rebuild
    have hsound := hbuilt'.sound.definitions d (Model.of_find? hd).1
    refine ⟨d.rows, ?_, hlookup, ?_, ?_⟩
    · rw [Model.rows, Model.get_eq hd]
      rfl
    · exact .of_lookup rfl rfl (.inr harity) hsound.fit hsound.nodup hgiven hlookup
    · intro domain hdomain
      apply not_mem_domainsInRows (ne_of_mem_of_not_mem hdomain hnames)
      intro row hrow
      apply (hwithout.not_in hdomain).2 row ⟨d, hd, hrow⟩

/-- A domain that is named twice is deleted once, and another domain stays, also when links are
not built automatically. -/
theorem deleteDomains_exact_acme :
  let start := (start (Domains.model [] []) (some (Source.ofRows
    [[.text "p", .text "admin", .text "acme", .text "data", .text "read"],
     [.text "p", .text "admin", .text "umbra", .text "data", .text "read"],
     [.text "g", .text "alice", .text "admin", .text "acme"]]))).perform
      (.initial .full { autoBuildRoleLinks := false } none .none {})
  let e := Mutation.run
    [.addRole (.text "bob") (.text "admin") (some (.text "umbra"))] start.2
  let e' := ((deleteDomains [.text "acme", .text "acme"]).perform e).2
  start.1 = .ok () ∧
    e.model.rows .role "g" = .ok [["alice", "admin", "acme"], ["bob", "admin", "umbra"]] ∧
    e.model.Without (inDomains 1 ["acme", "acme"]) e'.model ∧
    e'.model.rows .policy "p" = .ok [["admin", "umbra", "data", "read"]] ∧
    e'.model.rows .role "g" = .ok [["bob", "admin", "umbra"]] ∧
    (usersInDomain (.text "acme")).perform e' = (.ok [], e') ∧
    Question.allDomains.act.perform e' = (.ok (textsAnswer ["umbra"]), e')
  := by
  intro start e e'
  obtain ⟨events, hm⟩ := Domains.ofText Domains.entries_text
  have hstart : start.1 = .ok () := ok_of_toOption (by decide +kernel)
  have hat : (Domains.model [] []).DomainAt 1 :=
    ⟨⟨Domains.policyDefinition [], rfl, rfl⟩, ⟨Domains.roleDefinition [], rfl, rfl⟩⟩
  have hroles : e'.model.rows .role "g" = .ok [["bob", "admin", "umbra"]] :=
    ok_of_toOption (by decide +kernel)
  obtain ⟨e'', hperform, hwithout, hgone, -, rows, hrows, -, hanswers, -⟩ :=
    deleteDomains_exact (Model.built_ofText hm) hat (Prod.ext hstart rfl)
      [.addRole (.text "bob") (.text "admin") (some (.text "umbra"))]
      (List.cons_ne_nil "acme" ["acme"]) (by decide)
  obtain rfl : e' = e'' := congrArg Prod.snd hperform
  obtain rfl := Except.ok.inj (hrows.symm.trans hroles)
  refine ⟨hstart, ?_, hwithout, ?_, hroles, (hgone "acme" List.mem_cons_self).2.2,
    hanswers.allDomains⟩
  · apply ok_of_toOption (by decide +kernel)
  · apply ok_of_toOption (by decide +kernel)

end Enforcer

end AccessControl
