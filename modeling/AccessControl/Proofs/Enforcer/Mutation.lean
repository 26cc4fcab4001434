import AccessControl.Proofs.Enforcer.Edit
import AccessControl.Proofs.Model.Priority

/-!
# Mutations

The operations through which a host changes the rows of an enforcer.  All of them are made of
edits, of loading, of clearing, and of building role links; what these keep, every sequence
of mutations keeps.  The first such property is `Enforcer.Orderly`: the model is well formed,
its rows fit, and so do the rows of the source.
-/

namespace AccessControl

open AccessControl.Action

/-- A mutation of the rows of an enforcer. -/
inductive Mutation where
  | edit (kind : RowKind) (key : String) (edit : RowEdit)
  | addRole (user role : Value) (domain : Option Value)
  | deleteRoleOf (user role : Value) (domain : Option Value)
  | deleteRolesOf (user : Value) (domain : Option Value)
  | deleteUser (user : Value)
  | deleteRole (role : Value)
  | deletePermission (permission : List Value)
  | deletePermissionsOf (user : Value)
  | deleteUsersInDomain (domain : Value)
  | deleteDomains (domains : List Value)
  | loadPolicy
  | clearPolicy

namespace Mutation

/-- The operation of an enforcer that makes a mutation. -/
def act : Mutation → Action Bool
  | .edit kind key e => e.act kind key
  | .addRole user role domain => Enforcer.addRole user role domain
  | .deleteRoleOf user role domain => Enforcer.deleteRoleOf user role domain
  | .deleteRolesOf user domain => Enforcer.deleteRolesOf user domain
  | .deleteUser user => Enforcer.deleteUser user
  | .deleteRole role => Enforcer.deleteRole role
  | .deletePermission permission => Enforcer.deletePermission permission
  | .deletePermissionsOf user => Enforcer.deletePermissionsOf user
  | .deleteUsersInDomain domain => Enforcer.deleteUsersInDomain domain
  | .deleteDomains domains => Enforcer.deleteDomains domains
  | .loadPolicy => do
    Enforcer.loadPolicy
    return true
  | .clearPolicy => do
    Enforcer.clearPolicy
    return true

/-- A mutation drops all rows of the model without a word to the source. -/
def clears : Mutation → Bool
  | .clearPolicy => true
  | .deleteDomains domains => domains.isEmpty
  | _ => false

/-- The enforcer after some mutations, whether they succeed or fail. -/
def run (mutations : List Mutation) (e : Enforcer) : Enforcer :=
  mutations.foldl (fun e x => (x.act.perform e).2) e

/-! ### Parts of mutations -/

section Parts

variable {P : (α : Type) → Action α → Prop} (hP : Composes P)

include hP

theorem domainIndex_of : P _ Enforcer.domainIndex := by
  apply hP.look
  · intro e
    rfl
  · intro e
    split
    · apply hP.pure
    · apply hP.pure
    · apply hP.throw

variable (hedit : ∀ (kind : RowKind) (key : String) (edit : RowEdit), edit.Indexed →
  P _ (edit.act kind key))

include hedit

omit hP in
theorem removeWhere_of (kind : RowKind) (key : String) (i : Nat) (values : List Value) :
  P _ (Enforcer.removeWhere kind.kind key (Enforcer.filterAt i values))
  := hedit kind key (.removeWhere _) ⟨i, rfl, Int.natCast_nonneg i⟩

theorem deleteUsersInDomain_of (domain : Value) :
  P _ (Enforcer.deleteUsersInDomain domain)
  := by
  apply hP.bind (domainIndex_of hP)
  intro index
  cases index with
  | none => apply hP.pure
  | some i =>
      apply hP.bind (removeWhere_of hedit .policy _ _ _)
      intro _
      apply hP.look
      · intro e
        rfl
      · intro e
        split
        · apply hP.bind (removeWhere_of hedit .role _ 2 _)
          intro _
          apply hP.pure
        · apply hP.pure

theorem deleteEach_of (domains : List Value) :
  P _ (Enforcer.deleteEach domains)
  := by
  induction domains with
  | nil => apply hP.pure
  | cons domain rest ih =>
      apply hP.bind (deleteUsersInDomain_of hP hedit domain)
      intro more
      split
      · apply ih
      · apply hP.pure

omit hedit in
/-- What composes, and holds of the parts that a mutation is made of, holds of the mutation. -/
theorem act_of
    (x : Mutation)
    (hedit : ∀ (kind : RowKind) (key : String) (edit : RowEdit),
      edit.Indexed ∨ x = .edit kind key edit → P _ (edit.act kind key))
    (hload : x = .loadPolicy → P _ Enforcer.loadPolicy) (hlink : P _ Enforcer.buildLinks)
    (hclear : x.clears = true → P _ Enforcer.clearPolicy) :
  P _ x.act
  := by
  have hindexed := fun kind key edit h => hedit kind key edit (Or.inl h)
  cases x with
  | edit kind key e => apply hedit kind key e (Or.inr rfl)
  | addRole user role domain => apply hindexed .role _ (.add _) trivial
  | deleteRoleOf user role domain => apply hindexed .role _ (.remove _) trivial
  | deleteRolesOf user domain => apply removeWhere_of hindexed .role _ 0
  | deleteUser user =>
      apply hP.bind (removeWhere_of hindexed .role _ 0 _)
      intro roles
      apply hP.bind (removeWhere_of hindexed .policy _ 0 _)
      intro permissions
      apply hP.pure
  | deleteRole role =>
      apply hP.bind (removeWhere_of hindexed .role _ 1 _)
      intro members
      apply hP.bind (removeWhere_of hindexed .policy _ 0 _)
      intro permissions
      apply hP.pure
  | deletePermission permission => apply removeWhere_of hindexed .policy _ 1
  | deletePermissionsOf user => apply removeWhere_of hindexed .policy _ 0
  | deleteUsersInDomain domain => apply deleteUsersInDomain_of hP hindexed
  | deleteDomains domains =>
      rw [act, Enforcer.deleteDomains]
      split
      case isTrue hempty =>
        apply hP.bind (hclear hempty)
        intro _
        apply hP.pure
      case isFalse =>
        apply hP.bind (deleteEach_of hP hindexed domains)
        intro all
        split
        · apply hP.bind hlink
          intro _
          apply hP.pure
        · apply hP.pure
  | loadPolicy =>
      apply hP.bind (hload rfl)
      intro _
      apply hP.pure
  | clearPolicy =>
      apply hP.bind (hclear rfl)
      intro _
      apply hP.pure

end Parts

/-- What edits, loading and building links keep, and clearing where it happens, a mutation
keeps. -/
theorem keeps_act
    {I : Enforcer → Prop} (hedit : ∀ kind key edit, Keeps I (RowEdit.act kind key edit))
    (hload : Keeps I Enforcer.loadPolicy) (hlink : Keeps I Enforcer.buildLinks) (x : Mutation)
    (hclear : x.clears = true → Keeps I Enforcer.clearPolicy) :
  Keeps I x.act
  := act_of (Keeps.composes I) x (fun kind key edit _ => hedit kind key edit) (fun _ => hload)
    hlink hclear

/-- What every mutation of a sequence keeps holds at its end. -/
theorem run_keeps {I : Enforcer → Prop} {mutations : List Mutation}
    (h : ∀ x ∈ mutations, Keeps I x.act) {e : Enforcer} (he : I e) :
  I (run mutations e)
  := by
  induction mutations generalizing e with
  | nil => apply he
  | cons x rest ih =>
      obtain ⟨hx, hrest⟩ := List.forall_mem_cons.mp h
      apply ih hrest (hx e he)

end Mutation

namespace Enforcer

/-! ### Orderly enforcers -/

/-- The model of an enforcer is well formed, and the rows of the model and of the source fit
its definitions. -/
structure Orderly (e : Enforcer) : Prop where
  wellFormed : e.model.WellFormed
  rowsFit : e.model.RowsFit
  backed : RowEdit.Backed e.model e.source

namespace Orderly

theorem keeps_edit (kind : RowKind) (key : String) (edit : RowEdit) :
  Keeps Orderly (edit.act kind key)
  := by
  intro e he
  obtain ⟨result, heq⟩ | ⟨d, c, rows, source, log, hd, hreads, honRows, hpasses, heq⟩ :=
    RowEdit.perform_act he.wellFormed he.rowsFit he.backed kind key edit
  · rw [heq]
    apply he
  · rw [heq]
    have hshape := (Model.SameShape.withRows e.model kind key rows).symm
    have hadded : ∀ row ∈ c.added, row.length = d.arity := fun row hrow => hreads.length_of_added hrow
    constructor
    · apply he.wellFormed.of_sameShape hshape
    · apply he.rowsFit.withRows hd
      intro row hrow
      obtain hrow | hrow := RowChange.of_mem_onRows honRows hrow
      · apply he.rowsFit kind key d hd row hrow
      · apply hadded row hrow
    · apply (hpasses.backed he.backed hd hadded).of_sameShape hshape

/-- Loading from a source of rows that fit reads all of them; it fails only where rows cannot
be ordered. -/
theorem perform_loadPolicy
    {e : Enforcer} (he : Orderly e) {kept : List KeptRow}
    (hsource : e.source = some (.memory (kept.map KeptRow.stored))) :
  ∃ m log, runSteps Source.loadRow e.model.clearRows (kept.map KeptRow.stored) = (.ok (), m) ∧
    m.SameShape e.model ∧ m.RowsFit ∧
    Enforcer.loadPolicy.perform e =
      match m.sortByPriority with
      | (.error failure, m) => (.error failure, { e with model := m, log })
      | (.ok (), m) =>
        (.ok (),
          { e with
            model := m
            graphs := if e.autoBuild then m.link e.graphs else e.graphs
            cache := []
            log })
  := by
  have hshape := Model.SameShape.clearRows e.model
  obtain ⟨kept', hsource', hfits⟩ := he.backed.exists_kept (by rw [hsource]; simp)
  rw [hsource, Option.some.injEq, Source.memory.injEq] at hsource'
  obtain rfl := List.map_injective_iff.mpr KeptRow.stored_injective hsource'
  obtain ⟨m, hm, hshape', hrows⟩ := Model.load_fits (he.wellFormed.of_sameShape hshape.symm)
    (Model.rowsFit_clearRows e.model) fun x hx => (hfits x hx).of_sameShape hshape.symm
  obtain ⟨log, hlog⟩ := Enforcer.perform_loadPolicy hsource
  rw [Source.load, hm] at hlog
  exact ⟨m, log, hm, hshape'.trans hshape, hrows, hlog⟩

theorem keeps_loadPolicy : Keeps Orderly Enforcer.loadPolicy := by
  intro e he
  cases hsource : e.source with
  | none =>
      rw [perform_loadPolicy_none hsource]
      apply he
  | some s =>
      obtain ⟨kept, hkept, -⟩ := he.backed.exists_kept (by rw [hsource]; simp)
      obtain ⟨m, log, -, hshape, hrows, heq⟩ := he.perform_loadPolicy hkept
      have hsorted := (Model.SameShape.sortByPriority m).trans hshape
      have hfit := hrows.sortByPriority
      rw [heq]
      generalize m.sortByPriority = r at hsorted hfit
      obtain ⟨failure | u, m'⟩ := r
      · exact ⟨he.wellFormed.of_sameShape hsorted.symm, hfit, he.backed.of_sameShape hsorted.symm⟩
      · exact ⟨he.wellFormed.of_sameShape hsorted.symm, hfit, he.backed.of_sameShape hsorted.symm⟩

theorem keeps_buildLinks : Keeps Orderly Enforcer.buildLinks := by
  intro e he
  obtain ⟨log, heq⟩ := perform_buildLinks e
  rw [heq]
  exact ⟨he.wellFormed, he.rowsFit, he.backed⟩

theorem keeps_clearPolicy : Keeps Orderly Enforcer.clearPolicy := by
  intro e he
  obtain ⟨log, heq⟩ := perform_clearPolicy e
  have hshape := (Model.SameShape.clearRows e.model).symm
  rw [heq]
  exact ⟨he.wellFormed.of_sameShape hshape, Model.rowsFit_clearRows e.model,
    he.backed.of_sameShape hshape⟩

/-- Mutations keep an enforcer orderly. -/
theorem keeps_act (x : Mutation) :
  Keeps Orderly x.act
  := Mutation.keeps_act keeps_edit keeps_loadPolicy keeps_buildLinks x fun _ => keeps_clearPolicy

end Orderly

/-! ### Starting -/

/-- A new enforcer that could be given its model and its source has loaded the rows of the
source. -/
theorem of_start
    {m : Model} {source : Option Source} {e₀ e : Enforcer} (hnone : e₀.source = none)
    (h : (start m source).perform e₀ = (.ok (), e)) :
  ∃ log, let e₁ := { e₀ with model := m, graphs := e₀.graphsFor m, source, cache := [], log }
    m.validate = .ok () ∧ ((source = none ∧ e = e₁) ∨
      ∃ s, source = some s ∧ loadPolicy.perform e₁ = (.ok (), e))
  := by
  rw [start.eq_def, perform_bind, perform_setModel] at h
  cases hvalid : m.validate with
  | error failure =>
      rw [hvalid] at h
      cases h
  | ok u =>
      rw [hvalid] at h
      refine ⟨e₀.log ++ m.lineEvents, rfl, ?_⟩
      cases source with
      | none =>
          left
          use rfl
          rw [← (Prod.mk.inj h).2, ← hnone]
      | some s =>
          right
          use s, rfl
          apply h

/-- Rows that could be loaded from a source in memory are kept rows that fit the model. -/
theorem of_loadPolicy
    {e e' : Enforcer} {rows : List StoredRow} (hsource : e.source = some (.memory rows))
    (h : loadPolicy.perform e = (.ok (), e')) :
  ∃ kept : List KeptRow, rows = kept.map KeptRow.stored ∧ ∀ x ∈ kept, e.model.Fits x
  := by
  obtain ⟨log, hlog⟩ := perform_loadPolicy hsource
  rw [hlog, Source.load] at h
  have hshape := Model.SameShape.clearRows e.model
  cases hload : runSteps Source.loadRow e.model.clearRows rows with
  | mk result m =>
      rw [hload] at h
      cases result with
      | error failure => cases h
      | ok u =>
          obtain ⟨kept, hkept, hfits⟩ := Model.of_load hload
          use kept, hkept
          intro x hx
          apply (hfits x hx).of_sameShape hshape

/-- The enforcer that starts with a well-formed model, and with no source or one in memory, is
orderly. -/
theorem orderly_start
    {m : Model} (hm : m.WellFormed) (hrows : m.RowsFit) {source : Option Source}
    (hsource : ∀ s ∈ source, ∃ rows, s = .memory rows) {e₀ e : Enforcer}
    (hnone : e₀.source = none) (h : (start m source).perform e₀ = (.ok (), e)) :
  Orderly e
  := by
  obtain ⟨log, -, ⟨rfl, rfl⟩ | ⟨s, rfl, hload⟩⟩ := of_start hnone h
  · exact ⟨hm, hrows, RowEdit.Backed.none⟩
  · obtain ⟨rows, rfl⟩ := hsource s rfl
    obtain ⟨kept, rfl, hfits⟩ := of_loadPolicy rfl hload
    have hkeeps := Orderly.keeps_loadPolicy _ ⟨hm, hrows, RowEdit.Backed.memory hfits⟩
    rw [hload] at hkeeps
    apply hkeeps

end Enforcer

end AccessControl
