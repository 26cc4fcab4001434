import AccessControl.Proofs.Enforcer.Decision
import AccessControl.Proofs.Enforcer.Mutation
import AccessControl.Proofs.Model.Text
import AccessControl.Proofs.Roles.Rows

/-!
# Linked enforcers

The role graphs of an enforcer that builds links automatically are those of its own role rows.
This holds of a new enforcer and is kept by every mutation, whatever source the rows come
from: a source that could be loaded once can be loaded again, so no mutation stops between the
rows and the graphs.
-/

namespace AccessControl

open AccessControl.Action

/-- Policy rows do not matter to role graphs. -/
theorem Model.link_withRows_policy
    (m : Model) (key : String) (rows : List Row) (graphs : RoleGraphs) :
  (m.withRows .policy key rows).link graphs = m.link graphs
  := by
  apply List.map_congr_left
  rintro ⟨key', g⟩ -
  dsimp only [roleRows]
  rw [find?_withRows_other _ _ (by rintro ⟨⟨⟩, -⟩)]

/-- The role graphs of a model without links, all with one limit. -/
def Model.unlinked (m : Model) (level : Nat) : RoleGraphs :=
  (m.ofKind .role).map fun d => (d.key, { limit := .ofNat level })

/-- A model without role rows links nothing. -/
theorem Model.link_unlinked {m : Model} (h : m.clearRows = m) (level : Nat) :
  m.link (m.unlinked level) = m.unlinked level
  := by
  have hrows : ∀ key, m.roleRows key = [] := by
    intro key
    rw [← h, roleRows, show SectionKind.role = RowKind.role.kind from rfl, find?_clearRows]
    cases m.find? RowKind.role.kind key <;> rfl
  rw [link, unlinked, List.map_map]
  apply List.map_congr_left
  intro d _
  simp only [Function.comp, hrows]
  rfl

namespace Enforcer

/-! ### Sources -/

/-- Rows can be loaded from a source, if there is one, now and after every edit: its rows fit
the model, or they are in a file, which no edit changes. -/
inductive Supplied (files : Files) (m : Model) : Option Source → Prop
  | backed {source : Option Source} (h : RowEdit.Backed m source) : Supplied files m source
  | file {path : Location} (h : (Source.load files m.clearRows (.file path)).1 = .ok ()) :
      Supplied files m (some (.file path))

namespace Supplied

variable {files : Files} {m m' : Model} {source : Option Source}

theorem of_sameShape (h : Supplied files m source) (hshape : m.SameShape m') :
  Supplied files m' source
  := by
  cases h with
  | backed h => apply backed (h.of_sameShape hshape)
  | file h =>
      apply file
      rw [← hshape]
      apply h

theorem load {s : Source} (h : Supplied files m (some s)) (hm : m.WellFormed) :
  (s.load files m.clearRows).1 = .ok ()
  := by
  cases h with
  | file h => apply h
  | backed h =>
      cases h with
      | memory hfits =>
          have hshape := (Model.SameShape.clearRows m).symm
          obtain ⟨m', hload, -, -⟩ := Model.load_fits (hm.of_sameShape hshape)
            (Model.rowsFit_clearRows m) fun x hx => (hfits x hx).of_sameShape hshape
          rw [Source.load, hload]

/-- A source takes every edit that the model does, or is none of those that take edits. -/
theorem persist
    {e : Enforcer} (h : Supplied e.files e.model e.source) (hm : e.model.WellFormed)
    {kind : RowKind} {key : String} {edit : RowEdit} {d : Definition} {c : RowChange}
    (hd : e.model.find? kind.kind key = some d) (hreads : RowEdit.Reads d.arity edit c)
    (m : Model) :
  ∃ source log, Supplied e.files e.model source ∧
    (Enforcer.persist edit.operation (edit.onSource key)).perform { e with model := m }
      = (.ok (), { e with model := m, source, log })
  := by
  obtain ⟨source, hsource⟩ : ∃ source, e.source = source := ⟨_, rfl⟩
  rw [hsource] at h
  cases h with
  | backed h =>
      rw [← hsource] at h
      obtain ⟨source, hpasses, hperform⟩ := h.persist hm hd hreads m
      exact ⟨source, e.log, backed (hpasses.backed h hd fun _ hrow => hreads.length_of_added hrow),
        hperform⟩
  | @file path h =>
      use e.source
      obtain hskip | ⟨-, -, hsave⟩ := e.skips_or_saves
      · exact ⟨e.log, hsource ▸ file h, perform_persist_skip (e := { e with model := m }) _ _ hskip⟩
      · have hedit : edit.onSource key (.file path) = .error Source.unsupported := by
          cases edit <;> rfl
        obtain ⟨log, hperform⟩ := perform_persist_unsupported (e := { e with model := m })
          edit.operation (edit.onSource key) hsource hsave hedit nofun
        exact ⟨log, hsource ▸ file h, hperform⟩

end Supplied

/-- A source that has been loaded can be loaded again. -/
theorem supplied_of_loadPolicy
    {e e' : Enforcer} (h : loadPolicy.perform e = (.ok (), e')) :
  Supplied e.files e.model e.source
  := by
  cases hsource : e.source with
  | none => apply Supplied.backed .none
  | some s =>
      cases s with
      | memory rows =>
          obtain ⟨kept, rfl, hfits⟩ := of_loadPolicy hsource h
          apply Supplied.backed (.memory hfits)
      | file path =>
          apply Supplied.file
          obtain ⟨log, hperform⟩ := perform_loadPolicy hsource
          rw [hperform] at h
          rcases hload : Source.load e.files e.model.clearRows (.file path)
            with ⟨failure | u, m, events⟩
          · rw [hload] at h
            cases h
          · rfl
      | bare =>
          obtain ⟨log, hperform⟩ := perform_loadPolicy hsource
          rw [hperform] at h
          cases h
      | foreign v =>
          obtain ⟨log, hperform⟩ := perform_loadPolicy hsource
          rw [hperform] at h
          cases h

/-! ### Tracked enforcers -/

/-- An enforcer of some kind, switched in some way, with a model of some shape, remembers nothing,
and has role graphs that are built from its role rows, each with the limit and the matchers of
a given graph. -/
structure Tracked (kind : EnforcerKind) (switch : Value) (m₀ : Model) (graphs : RoleGraphs)
    (e : Enforcer) : Prop where
  kind_eq : e.kind = kind
  switch_eq : e.enabled = switch
  wellFormed : e.model.WellFormed
  rowsFit : e.model.RowsFit
  shape : e.model.SameShape m₀
  supplied : Supplied e.files e.model e.source
  autoBuild : e.autoBuild = true
  forgetful : kind = .cached → e.cache = []
  linked : e.graphs = e.model.link graphs

namespace Tracked

variable {k : EnforcerKind} {switch : Value} {m₀ : Model} {graphs : RoleGraphs} {e : Enforcer}

theorem keeps_edit (kind : RowKind) (key : String) (edit : RowEdit) :
  Keeps (Tracked k switch m₀ graphs) (edit.act kind key)
  := by
  intro e he
  obtain ⟨result, heq⟩ | ⟨d, c, rows, source, log, hd, hreads, honRows, hsupplied, heq⟩ :=
    RowEdit.perform_act_of he.rowsFit kind key edit (fun _ => Supplied e.files e.model)
      fun m d c hd hreads => he.supplied.persist he.wellFormed hd hreads m
  · rw [heq]
    apply he
  · rw [heq]
    have hshape := Model.SameShape.withRows e.model kind key rows
    refine ⟨he.kind_eq, he.switch_eq, he.wellFormed.of_sameShape hshape.symm, ?_,
      hshape.trans he.shape, hsupplied.of_sameShape hshape.symm, he.autoBuild, fun _ => rfl, ?_⟩
    · apply he.rowsFit.withRows hd
      intro row hrow
      obtain hrow | hrow := RowChange.of_mem_onRows honRows hrow
      · apply he.rowsFit kind key d hd row hrow
      · apply hreads.length_of_added hrow
    · dsimp only
      cases kind with
      | policy =>
          rw [RowKind.kind, Model.link_withRows_policy]
          apply he.linked
      | role =>
          simp only [graphsAfter, RowKind.kind, he.autoBuild, he.linked, Model.link_link]
          rfl

/-- Loading keeps track if it succeeds, or if there is nothing to load from. -/
theorem loadPolicy
    (he : Tracked k switch m₀ graphs e)
    (h : e.source = none ∨ (Enforcer.loadPolicy.perform e).1 = .ok ()) :
  Tracked k switch m₀ graphs (Enforcer.loadPolicy.perform e).2
  := by
  cases hsource : e.source with
  | none =>
      rw [perform_loadPolicy_none hsource]
      apply he
  | some s =>
      obtain ⟨log, hperform⟩ := perform_loadPolicy hsource
      have hloaded : (Enforcer.loadPolicy.perform e).1 = .ok () := by
        rw [hsource] at h
        simpa using h
      obtain ⟨hshape, hrows⟩ := Model.load_keeps e.files (Model.SameShape.clearRows e.model)
        (Model.rowsFit_clearRows e.model) s
      rw [hperform] at hloaded ⊢
      generalize Source.load e.files e.model.clearRows s = r at hloaded hshape hrows ⊢
      obtain ⟨failure | u, m, events⟩ := r
      · cases hloaded
      · have hsorted := (Model.SameShape.sortByPriority m).trans hshape
        have hfit := Model.RowsFit.sortByPriority hrows
        dsimp only at hloaded hsorted hfit ⊢
        generalize m.sortByPriority = r at hloaded hsorted hfit ⊢
        obtain ⟨failure | u, m'⟩ := r
        · cases hloaded
        · refine ⟨he.kind_eq, he.switch_eq, he.wellFormed.of_sameShape hsorted.symm, hfit,
            hsorted.trans he.shape, he.supplied.of_sameShape hsorted.symm, he.autoBuild,
            fun _ => rfl, ?_⟩
          simp only [he.autoBuild, if_true, he.linked, Model.link_link]

/-- Without priorities by which rows could fail to be ordered, there is a source to load from
or none. -/
theorem loads
    (he : Tracked k switch m₀ graphs e) (hranked : ∀ d ∈ m₀.definitions, d.isRanked = false) :
  e.source = none ∨ (Enforcer.loadPolicy.perform e).1 = .ok ()
  := by
  cases hsource : e.source with
  | none =>
      left
      rfl
  | some s =>
      right
      obtain ⟨log, hperform⟩ := perform_loadPolicy hsource
      have hload := (hsource ▸ he.supplied).load he.wellFormed
      obtain ⟨hshape, -⟩ := Model.load_keeps e.files (Model.SameShape.clearRows e.model)
        (Model.rowsFit_clearRows e.model) s
      rw [hperform]
      generalize Source.load e.files e.model.clearRows s = r at hload hshape
      obtain ⟨result, m, events⟩ := r
      obtain rfl : result = .ok () := hload
      dsimp only at hshape ⊢
      rw [(hshape.trans he.shape).sortByPriority_eq hranked]

theorem keeps_buildLinks : Keeps (Tracked k switch m₀ graphs) buildLinks := by
  intro e he
  obtain ⟨log, heq⟩ := perform_buildLinks e
  rw [heq]
  refine ⟨he.kind_eq, he.switch_eq, he.wellFormed, he.rowsFit, he.shape, he.supplied,
    he.autoBuild, fun _ => rfl, ?_⟩
  simp only [he.linked, Model.link_link]

theorem keeps_clearPolicy : Keeps (Tracked k switch m₀ graphs) clearPolicy := by
  intro e he
  obtain ⟨log, heq⟩ := perform_clearPolicy e
  have hshape := Model.SameShape.clearRows e.model
  rw [heq]
  refine ⟨he.kind_eq, he.switch_eq, he.wellFormed.of_sameShape hshape.symm,
    Model.rowsFit_clearRows e.model, hshape.trans he.shape,
    he.supplied.of_sameShape hshape.symm, he.autoBuild, fun _ => rfl, ?_⟩
  simp only [he.linked, Model.link_link]

/-- Mutations keep track, but for loading that fails. -/
theorem mutate
    (he : Tracked k switch m₀ graphs e) (x : Mutation)
    (hload : x = .loadPolicy → e.source = none ∨ (Enforcer.loadPolicy.perform e).1 = .ok ()) :
  Tracked k switch m₀ graphs (x.act.perform e).2
  := by
  by_cases hx : x = .loadPolicy
  · subst hx
    have hloaded := he.loadPolicy (hload rfl)
    rw [Mutation.act, perform_bind]
    generalize Enforcer.loadPolicy.perform e = r at hloaded
    obtain ⟨failure | u, e'⟩ := r
    · apply hloaded
    · apply hloaded
  · apply Mutation.act_of (Keeps.composes (Tracked k switch m₀ graphs)) x
      (fun kind key edit _ => keeps_edit kind key edit) (fun h => absurd h hx) keeps_buildLinks
      (fun _ => keeps_clearPolicy) e he

/-- An enforcer that has started with a model without rows is tracked. -/
theorem start
    {m : Model} (hwell : m.WellFormed) (hclear : m.clearRows = m) {config : Config}
    (hbuild : config.autoBuildRoleLinks = true) {kind : EnforcerKind} {sink : Option Sink}
    {tag : Value} {files : Files} {source : Option Source} {e : Enforcer}
    (h : (Enforcer.start m source).perform (.initial kind config sink tag files) = (.ok (), e)) :
  Tracked kind (.bool config.enforceEnabled) m (m.unlinked config.maxHierarchyLevel) e
  := by
  have hrows : m.RowsFit := by
    rw [← hclear]
    apply Model.rowsFit_clearRows
  have hgraphs : (initial kind config sink tag files).graphsFor m
      = m.link (m.unlinked config.maxHierarchyLevel) := (Model.link_unlinked hclear _).symm
  obtain ⟨log, -, ⟨rfl, rfl⟩ | ⟨s, rfl, hload⟩⟩ := of_start rfl h
  · exact ⟨rfl, rfl, hwell, hrows, .refl m, .backed .none, hbuild, fun _ => rfl, hgraphs⟩
  · have htracked := loadPolicy
      ⟨rfl, rfl, hwell, hrows, .refl m, supplied_of_loadPolicy hload, hbuild, fun _ => rfl,
        hgraphs⟩
      (Or.inr (congrArg Prod.fst hload))
    rw [hload] at htracked
    apply htracked

/-- The answer of a tracked enforcer is its verdict. -/
theorem enforce_eq (he : Tracked k switch m₀ graphs e) (request : List Value) :
  ((enforce request).perform e).1 = (e.verdict request).map Prod.fst
  := by
  apply enforce_eq_verdict
  intro hremembers
  have hkind : e.kind = .cached := by
    rw [remembers, Bool.and_eq_true, Bool.and_eq_true] at hremembers
    apply beq_iff_eq.mp hremembers.1.1
  rw [cached?, he.forgetful (he.kind_eq.symm.trans hkind)]
  rfl

end Tracked

/-! ### Linked enforcers -/

/-- An enforcer of some kind, with a model of some shape, is switched on, remembers nothing, and
has role graphs that are built from its role rows, each with the limit and the matchers of a
given graph. -/
structure Linked (kind : EnforcerKind) (m₀ : Model) (graphs : RoleGraphs) (e : Enforcer) :
    Prop where
  kind_eq : e.kind = kind
  wellFormed : e.model.WellFormed
  rowsFit : e.model.RowsFit
  shape : e.model.SameShape m₀
  supplied : Supplied e.files e.model e.source
  enabled : e.enabled.isTruthy = true
  autoBuild : e.autoBuild = true
  forgetful : kind = .cached → e.cache = []
  linked : e.graphs = e.model.link graphs

namespace Linked

variable {k : EnforcerKind} {m₀ : Model} {graphs : RoleGraphs} {e : Enforcer}

/-- A linked enforcer is a tracked one that is switched on. -/
theorem iff_tracked :
  Linked k m₀ graphs e ↔ ∃ switch, switch.isTruthy = true ∧ Tracked k switch m₀ graphs e
  := by
  constructor
  · intro he
    exact ⟨e.enabled, he.enabled, he.kind_eq, rfl, he.wellFormed, he.rowsFit, he.shape,
      he.supplied, he.autoBuild, he.forgetful, he.linked⟩
  · rintro ⟨switch, hswitch, he⟩
    exact ⟨he.kind_eq, he.wellFormed, he.rowsFit, he.shape, he.supplied,
      (congrArg Value.isTruthy he.switch_eq).trans hswitch, he.autoBuild, he.forgetful, he.linked⟩

/-- Mutations keep an enforcer linked, if its model has no priorities by which rows could fail
to be ordered. -/
theorem keeps_act
    (hranked : ∀ d ∈ m₀.definitions, d.isRanked = false) (x : Mutation) :
  Keeps (Linked k m₀ graphs) x.act
  := by
  intro e he
  obtain ⟨switch, hswitch, htracked⟩ := iff_tracked.mp he
  apply iff_tracked.mpr
  use switch, hswitch
  apply htracked.mutate
  intro _
  apply htracked.loads hranked

/-- An enforcer that has started with a model without rows is linked. -/
theorem start
    {m : Model} (hwell : m.WellFormed) (hclear : m.clearRows = m) {config : Config}
    (henabled : config.enforceEnabled = true) (hbuild : config.autoBuildRoleLinks = true)
    {kind : EnforcerKind} {sink : Option Sink} {tag : Value} {files : Files}
    {source : Option Source} {e : Enforcer}
    (h : (Enforcer.start m source).perform (.initial kind config sink tag files) = (.ok (), e)) :
  Linked kind m (m.unlinked config.maxHierarchyLevel) e
  := by
  apply iff_tracked.mpr
  use .bool config.enforceEnabled
  constructor
  · rw [henabled]
    rfl
  · apply Tracked.start hwell hclear hbuild h

/-- The answer of a linked enforcer is its verdict. -/
theorem enforce_eq (he : Linked k m₀ graphs e) (request : List Value) :
  ((enforce request).perform e).1 = (e.verdict request).map Prod.fst
  := by
  obtain ⟨switch, -, htracked⟩ := iff_tracked.mp he
  apply htracked.enforce_eq

end Linked

/-! ### Reached enforcers -/

/-- The enforcers that are reached with a configuration from a text with some entries: those
that have started with the model of the text, and with a source of rows or without, after any
mutations. -/
inductive Reached (entries : List Entry) (config : Config) : Enforcer → Prop
  | intro {text : String} {m : Model} {events : List LogEvent} {kind : EnforcerKind}
      {sink : Option Sink} {tag : Value} {files : Files} {source : Option Source} {e : Enforcer}
      (htext : ModelText.entries text = .ok entries) (hm : Model.ofText text = (.ok m, events))
      (hstart : (start m source).perform (.initial kind config sink tag files) = (.ok (), e))
      (mutations : List Mutation) : Reached entries config (Mutation.run mutations e)

/-- The enforcer that starts with a model, a configuration and some stored rows. -/
def started (m : Model) (config : Config) (rows : List StoredRow) : Enforcer :=
  ((start m (some (.memory rows))).perform (.initial .full config none .none {})).2

theorem Reached.started
    {entries : List Entry} {text : String} (htext : ModelText.entries text = .ok entries)
    {m : Model} {events : List LogEvent} (hm : Model.ofText text = (.ok m, events))
    {config : Config} {rows : List StoredRow}
    (h : ((start m (some (.memory rows))).perform (.initial .full config none .none {})).1 = .ok ())
    (mutations : List Mutation) :
  Reached entries config (Mutation.run mutations (started m config rows))
  := .intro htext hm (Prod.ext h rfl) mutations

/-- Reached enforcers are linked, when enforcement and the building of links are on. -/
theorem Reached.linked
    {entries : List Entry} {m₀ : Model}
    (hentries : ∀ {text : String}, ModelText.entries text = .ok entries →
      ∃ events, Model.ofText text = (.ok m₀, events))
    (hranked : ∀ d ∈ m₀.definitions, d.isRanked = false) {config : Config}
    (henabled : config.enforceEnabled = true) (hbuild : config.autoBuildRoleLinks = true)
    {e : Enforcer} (h : Reached entries config e) :
  ∃ kind, Linked kind m₀ (m₀.unlinked config.maxHierarchyLevel) e
  := by
  cases h with
  | @intro _ _ _ kind _ _ _ _ _ htext hm hstart mutations =>
      use kind
      obtain ⟨events, hm'⟩ := hentries htext
      rw [hm'] at hm
      obtain rfl := Except.ok.inj (Prod.mk.inj hm).1
      apply Mutation.run_keeps fun x _ => Linked.keeps_act hranked x
      apply Linked.start (Model.wellFormed_ofText hm') (Model.clearRows_ofText hm') henabled hbuild
        hstart

end Enforcer

end AccessControl
