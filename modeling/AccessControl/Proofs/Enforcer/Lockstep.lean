import AccessControl.Proofs.Enforcer.Cache
import AccessControl.Proofs.Enforcer.Calls
import AccessControl.Proofs.Enforcer.Twins
import AccessControl.Proofs.Rbac.Text

/-!
# Enforcers in lockstep

An enforcer that remembers decisions and one that does not, made of the same parts, answer
every call in the same way.  What is kept from one call to the next is that they are twins, and
that the first is sound.
-/

namespace AccessControl

open AccessControl.Action

/-- Twins of which the first is sound. -/
structure Paired (e e' : Enforcer) : Prop where
  twins : Twins e e'
  sound : e.Sound

namespace Paired

theorem composes :
  Composes fun _ a => Relates Paired a
  := Relates.composes fun _ _ h => h.twins.core

/-- What relates twins, and keeps the first of them sound, relates pairs. -/
theorem of_twins
    {α : Type} {a : Action α} (ha : Relates Twins a) (hkeeps : Keeps Enforcer.Sound a) :
  Relates Paired a
  := by
  intro e e' h
  obtain ⟨hresult, hafter⟩ := ha e e' h.twins
  exact ⟨hresult, hafter, hkeeps e h.sound⟩

/-! ### Decisions -/

theorem enforceEx (request : List Value) : Relates Paired (Enforcer.enforceEx request) := by
  apply of_twins (Twins.enforceEx request)
  intro e he
  obtain ⟨log, traces, hperform⟩ := Enforcer.perform_enforceEx request e
  rw [hperform]
  exact ⟨he.recalls, he.settled⟩

/-- A decision that is remembered is the decision that would be made. -/
theorem enforce {request : List Value} (hrequest : ∀ v ∈ request, v.Plain) :
  Relates Paired (Enforcer.enforce request)
  := by
  intro e e' h
  have hnew : e'.remembers request = false := by
    rw [Enforcer.remembers, beq_eq_false_iff_ne.mpr h.twins.plain]
    rfl
  obtain ⟨log', traces', hperform'⟩ := Enforcer.perform_enforce_new hnew
  rw [hperform', ← h.twins.verdict_eq]
  cases hremembers : e.remembers request with
  | false =>
      obtain ⟨log, traces, hperform⟩ := Enforcer.perform_enforce_new hremembers
      rw [hperform]
      exact ⟨rfl, ⟨h.twins.core, h.twins.plain⟩, ⟨h.sound.recalls, h.sound.settled⟩⟩
  | true =>
      cases hcached : e.cached? request with
      | some allowed =>
          rw [Enforcer.perform_enforce_hit hremembers hcached,
            h.sound.verdict_of_cached hrequest hcached]
          exact ⟨rfl, ⟨h.twins.core, h.twins.plain⟩, h.sound⟩
      | none =>
          obtain ⟨log, traces, hperform⟩ := Enforcer.perform_enforce_miss hremembers hcached
          rw [hperform]
          cases hverdict : e.verdict request with
          | error failure =>
              exact ⟨rfl, ⟨h.twins.core, h.twins.plain⟩, ⟨h.sound.recalls, h.sound.settled⟩⟩
          | ok answer =>
              exact ⟨rfl, ⟨h.twins.core, h.twins.plain⟩,
                h.sound.remember hrequest hverdict log traces⟩

theorem enforceAll
    {requests : List (List Value)} (h : ∀ request ∈ requests, ∀ v ∈ request, v.Plain) :
  Relates Paired (Enforcer.enforceAll requests)
  := by
  induction requests with
  | nil => apply composes.pure
  | cons request rest ih =>
      obtain ⟨hrequest, hrest⟩ := List.forall_mem_cons.mp h
      refine composes.bind (enforce hrequest) ?_
      intro allowed
      refine composes.bind (ih hrest) ?_
      intro others
      apply composes.pure

/-! ### Rows and parts -/

theorem buildLinks :
  Relates Paired Enforcer.buildLinks
  := of_twins Twins.buildLinks Enforcer.Sound.keeps_buildLinks

/-- Every mutation but loading keeps pairs. -/
theorem mutate
    {x : Mutation} (hx : x ≠ .loadPolicy)
    (hedit : ∀ kind key edit, x = .edit kind key edit → edit.Indexed) :
  Relates Paired x.act
  := by
  apply Mutation.act_of composes
  · intro kind key edit h
    apply of_twins (Twins.edit kind key edit)
    apply Enforcer.Sound.keeps_edit
    obtain h | h := h
    · apply h
    · apply hedit kind key edit h
  · intro h
    exact absurd h hx
  · apply buildLinks
  · intro _
    apply of_twins Twins.clearPolicy Enforcer.Sound.keeps_clearPolicy

/-- Loading keeps pairs when it succeeds; when it fails it changes rows and forgets nothing. -/
theorem loadPolicy
    {e e' : Enforcer} (h : Paired e e') (hloads : (Enforcer.loadPolicy.perform e').1 = .ok ()) :
  (Enforcer.loadPolicy.perform e).1 = .ok () ∧
    Paired (Enforcer.loadPolicy.perform e).2 (Enforcer.loadPolicy.perform e').2
  := by
  obtain ⟨hresult, hafter⟩ := Twins.loadPolicy e e' h.twins
  rw [hloads] at hresult
  refine ⟨hresult, hafter, ?_⟩
  apply Enforcer.Sound.of_loadPolicy (Prod.ext hresult rfl)

/-- Switching a cache, or dropping answers from it, keeps pairs: the first of a pair remembers
no more than before, and the second has no cache. -/
theorem onCache
    {a : Action Unit}
    (ha : ∀ e, ∃ cacheEnabled cache, cache ⊆ e.cache ∧
      a.perform e = (.ok (), { e with cacheEnabled, cache })) :
  Relates Paired (Call.onCache a)
  := by
  intro e e' h
  have hother : (Call.onCache a).perform e' = (.ok .nothing, e') := by
    rw [Call.onCache]
    simp only [perform_bind, perform_get, beq_eq_false_iff_ne.mpr h.twins.plain,
      Bool.false_eq_true, if_false, perform_pure]
  rw [hother]
  obtain ⟨cacheEnabled, cache, hcache, hperform⟩ := ha e
  cases hkind : e.kind == .cached with
  | true =>
      have hown : (Call.onCache a).perform e = (.ok .nothing, { e with cacheEnabled, cache }) := by
        rw [Call.onCache]
        simp only [perform_bind, perform_get, hkind, if_true, hperform, perform_pure]
      rw [hown]
      refine ⟨rfl, ⟨h.twins.core, h.twins.plain⟩, ?_, h.sound.settled⟩
      intro entry hentry
      apply h.sound.recalls entry (hcache hentry)
  | false =>
      have hown : (Call.onCache a).perform e = (.ok .nothing, e) := by
        rw [Call.onCache]
        simp only [perform_bind, perform_get, hkind, Bool.false_eq_true, if_false, perform_pure]
      rw [hown]
      exact ⟨rfl, h⟩

end Paired

namespace Call

/-- A call as hosts make it: requests have plain values, and no edit looks for fields before
the first. -/
def Proper : Call → Prop
  | .enforce request => ∀ v ∈ request, v.Plain
  | .enforceEx request => ∀ v ∈ request, v.Plain
  | .enforceAll requests => ∀ request ∈ requests, ∀ v ∈ request, v.Plain
  | .mutate (.edit _ _ edit) => edit.Indexed
  | .ask (.usersWith permission) => ∀ v ∈ permission, v.Plain
  | _ => True

/-- Every call but loading relates pairs. -/
theorem relates {call : Call} (hproper : call.Proper) (hload : call ≠ .mutate .loadPolicy) :
  Relates Paired call.act
  := by
  have hmap : ∀ {α : Type} (f : α → Answer) {a : Action α}, Relates Paired a →
      Relates Paired (f <$> a) := fun f _ ha => Question.map_of Paired.composes f ha
  cases call with
  | enforce request => apply hmap _ (Paired.enforce hproper)
  | enforceEx request => apply hmap _ (Paired.enforceEx request)
  | enforceAll requests => apply hmap _ (Paired.enforceAll hproper)
  | mutate x =>
      apply hmap
      apply Paired.mutate
      · rintro rfl
        apply hload rfl
      · rintro kind key edit rfl
        apply hproper
  | ask q =>
      apply Question.act_of Paired.composes
      rintro permission name rfl
      apply Paired.enforce
      rw [List.forall_mem_cons]
      exact ⟨.text name, hproper⟩
  | savePolicy =>
      apply hmap
      apply Paired.of_twins Twins.savePolicy Enforcer.Sound.keeps_savePolicy
  | buildLinks => apply hmap _ Paired.buildLinks
  | setModel m =>
      apply hmap
      apply Paired.of_twins (Twins.setModel m) (Enforcer.Sound.keeps_setModel m)
  | setGraph key g =>
      apply hmap
      apply Paired.of_twins (Twins.setGraph key g) (Enforcer.Sound.keeps_setGraph key g)
  | register name f =>
      apply hmap
      apply Paired.of_twins (Twins.register name f) (Enforcer.Sound.keeps_register name f)
  | enable switch =>
      apply hmap
      apply Paired.of_twins (Twins.enable switch) (Enforcer.Sound.keeps_enable switch)
  | enableAutoSave on =>
      refine hmap _ (Paired.of_twins (Twins.update (fun _ => rfl) fun _ => rfl) ?_)
      intro e he
      exact ⟨he.recalls, he.settled⟩
  | enableAutoBuild on =>
      refine hmap _ (Paired.of_twins (Twins.update (fun _ => rfl) fun _ => rfl) ?_)
      intro e he
      exact ⟨he.recalls, he.settled⟩
  | enableCache switch =>
      apply Paired.onCache
      intro e
      rw [Enforcer.enableCache]
      cases switch.isTruthy with
      | true => exact ⟨true, e.cache, List.Subset.refl _, rfl⟩
      | false => exact ⟨false, [], List.nil_subset _, rfl⟩
  | invalidateCache =>
      apply Paired.onCache
      intro e
      exact ⟨e.cacheEnabled, [], List.nil_subset _, Enforcer.perform_invalidate e⟩

/-- A call on a pair has one answer, and leaves a pair. -/
theorem step
    {call : Call} (hproper : call.Proper) {e e' : Enforcer} (h : Paired e e')
    (hload : call = .mutate .loadPolicy → (Enforcer.loadPolicy.perform e').1 = .ok ()) :
  (call.act.perform e).1 = (call.act.perform e').1 ∧
    Paired (call.act.perform e).2 (call.act.perform e').2
  := by
  by_cases hcall : call = .mutate .loadPolicy
  · obtain ⟨hresult, hafter⟩ := h.loadPolicy (hload hcall)
    have hact : ∀ e, (Enforcer.loadPolicy.perform e).1 = .ok () →
        call.act.perform e = (.ok .nothing, (Enforcer.loadPolicy.perform e).2) := by
      intro e hok
      rw [hcall, act, Mutation.act, perform_map, perform_bind]
      generalize Enforcer.loadPolicy.perform e = r at hok
      obtain ⟨failure | u, e⟩ := r
      · cases hok
      · rfl
    rw [hact e hresult, hact e' (hload hcall)]
    exact ⟨rfl, hafter⟩
  · apply relates hproper hcall e e' h

/-- A run of calls on a pair has the same answers, and leaves a pair. -/
theorem run_paired
    {calls : List Call} (hproper : ∀ call ∈ calls, call.Proper) {e e' : Enforcer}
    (h : Paired e e') (hloads : Loads calls e') :
  (run calls e).1 = (run calls e').1 ∧ Paired (run calls e).2 (run calls e').2
  := by
  induction calls generalizing e e' with
  | nil => exact ⟨rfl, h⟩
  | cons call rest ih =>
      obtain ⟨hcall, hrest⟩ := List.forall_mem_cons.mp hproper
      obtain ⟨hload, hloads⟩ := hloads
      obtain ⟨hanswer, hafter⟩ := step hcall h hload
      obtain ⟨hanswers, hend⟩ := ih hrest hafter hloads
      refine ⟨?_, hend⟩
      rw [run_cons, run_cons, hanswer, hanswers]

end Call

namespace Enforcer

end Enforcer

end AccessControl
