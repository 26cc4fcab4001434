import AccessControl.Proofs.Enforcer.Decision
import AccessControl.Proofs.Enforcer.Edit

/-!
# Twins

Two enforcers of one core do the same whatever they are asked to do: what an enforcer
remembers and reports has no influence on its rows, its role graphs and its source.
-/

namespace AccessControl

open AccessControl.Action

/-- Two enforcers of one core, the second of which does not remember decisions. -/
structure Twins (e e' : Enforcer) : Prop where
  core : e.core = e'.core
  plain : e'.kind ≠ .cached

namespace Twins

theorem composes : Composes fun _ a => Relates Twins a := Relates.composes fun _ _ h => h.core

/-- Twins stay twins when their cores are changed alike. -/
theorem update
    {f : Enforcer → Enforcer} (hcore : ∀ e, (f e).core = (f e.core).core)
    (hkind : ∀ e, (f e).kind = e.kind) :
  Relates Twins (modify f)
  := by
  intro e e' h
  refine ⟨rfl, ?_, ?_⟩
  · rw [perform_modify, perform_modify]
    dsimp only
    rw [hcore, h.core, ← hcore]
  · rw [perform_modify]
    dsimp only
    rw [hkind]
    apply h.plain

/-! ### Reports and links -/

theorem reportAll (events : List LogEvent) :
  Relates Twins (Enforcer.reportAll events)
  := Twins.update (fun _ => rfl) fun _ => rfl

theorem report (level : LogLevel) (message : String) (extra : List (String × Value)) :
  Relates Twins (Enforcer.report level message extra)
  := by
  refine composes.look (fun _ => rfl) ?_
  intro e
  apply reportAll

theorem invalidate : Relates Twins Enforcer.invalidate := Twins.update (fun _ => rfl) fun _ => rfl

theorem relink : Relates Twins Enforcer.relink := by
  refine composes.look (fun _ => rfl) ?_
  intro e
  refine composes.bind (Twins.update (fun _ => rfl) fun _ => rfl) ?_
  intro _
  apply reportAll

theorem buildLinks : Relates Twins Enforcer.buildLinks := by
  refine composes.bind relink ?_
  intro _
  apply invalidate

/-! ### Rows -/

theorem rowsChanged (kind : SectionKind) : Relates Twins (Enforcer.rowsChanged kind) := by
  refine composes.look (fun _ => rfl) ?_
  intro e
  split
  · refine composes.bind relink ?_
    intro _
    apply invalidate
  · apply invalidate

theorem persist (operation : String) (edit : Source → Except Failure (Source × Bool)) :
  Relates Twins (Enforcer.persist operation edit)
  := by
  refine composes.look (fun _ => rfl) ?_
  intro e
  split
  · apply composes.pure
  · split
    · apply composes.pure
    · split
      · apply composes.throw
      · exact Twins.update (fun _ => rfl) fun _ => rfl
      · apply report
      · apply composes.throw

theorem mutate
    (kind : SectionKind) (operation : String) (change : Model → Except Failure (Model × Bool))
    (edit : Source → Except Failure (Source × Bool)) :
  Relates Twins (Enforcer.mutate kind operation change edit)
  := by
  refine composes.look (fun _ => rfl) ?_
  intro e
  refine composes.bind (composes.lift _) ?_
  rintro ⟨m, changed⟩
  cases changed with
  | false => apply composes.pure
  | true =>
      refine composes.bind (Twins.update (fun _ => rfl) fun _ => rfl) ?_
      intro _
      refine composes.bind (persist _ _) ?_
      intro _
      refine composes.bind (rowsChanged _) ?_
      intro _
      apply composes.pure

theorem edit (kind : RowKind) (key : String) (edit : RowEdit) :
  Relates Twins (edit.act kind key)
  := by
  rw [RowEdit.act_eq_mutate]
  apply mutate

theorem clearPolicy : Relates Twins Enforcer.clearPolicy := by
  refine composes.bind (Twins.update (fun _ => rfl) fun _ => rfl) ?_
  intro _
  apply buildLinks

/-! ### Sources -/

theorem theSource : Relates Twins Enforcer.theSource := by
  refine composes.look (fun _ => rfl) ?_
  intro e
  split
  · apply composes.pure
  · apply composes.throw

theorem savePolicy : Relates Twins Enforcer.savePolicy := by
  refine composes.bind theSource ?_
  intro s
  refine composes.look (fun _ => rfl) ?_
  intro e
  refine composes.bind (composes.lift _) ?_
  rintro ⟨files, s, events⟩
  refine composes.bind (Twins.update (fun _ => rfl) fun _ => rfl) ?_
  intro _
  apply reportAll

theorem readSource (s : Source) : Relates Twins (Enforcer.readSource s) := by
  refine composes.look (fun _ => rfl) ?_
  intro e
  refine composes.bind (Twins.update (fun _ => rfl) fun _ => rfl) ?_
  intro _
  refine composes.bind (reportAll _) ?_
  intro _
  apply composes.lift

theorem sortRows : Relates Twins Enforcer.sortRows := by
  refine composes.look (fun _ => rfl) ?_
  intro e
  refine composes.bind (Twins.update (fun _ => rfl) fun _ => rfl) ?_
  intro _
  apply composes.lift

theorem loadPolicy : Relates Twins Enforcer.loadPolicy := by
  have hreport : Relates Twins (do
      Enforcer.invalidate
      Enforcer.report .info "Policy loaded" [("rows", .int (← get).model.rowCount)]) := by
    refine composes.bind invalidate ?_
    intro _
    refine composes.look (fun _ => rfl) ?_
    intro e
    apply report
  refine composes.bind theSource ?_
  intro s
  refine composes.bind (Twins.update (fun _ => rfl) fun _ => rfl) ?_
  intro _
  refine composes.bind (readSource s) ?_
  intro _
  refine composes.bind sortRows ?_
  intro _
  refine composes.look (fun _ => rfl) ?_
  intro e
  split
  · refine composes.bind relink ?_
    intro _
    apply hreport
  · apply hreport

/-! ### Parts -/

theorem setModel (m : Model) : Relates Twins (Enforcer.setModel m) := by
  refine composes.bind (composes.lift _) ?_
  intro _
  refine composes.bind (Twins.update (fun _ => rfl) fun _ => rfl) ?_
  intro _
  refine composes.bind (reportAll _) ?_
  intro _
  apply invalidate

theorem setGraph (key : String) (g : RoleGraph) : Relates Twins (Enforcer.setGraph key g) := by
  refine composes.bind (Twins.update (fun _ => rfl) fun _ => rfl) ?_
  intro _
  refine composes.look (fun _ => rfl) ?_
  intro e
  split
  · refine composes.bind buildLinks ?_
    intro _
    apply invalidate
  · apply invalidate

theorem register (name : String) (f : MatcherFunction) :
  Relates Twins (Enforcer.register name f)
  := by
  refine composes.look (fun _ => rfl) ?_
  intro e
  refine composes.bind (composes.lift _) ?_
  intro functions
  refine composes.bind (Twins.update (fun _ => rfl) fun _ => rfl) ?_
  intro _
  apply invalidate

theorem enable (switch : Value) : Relates Twins (Enforcer.enable switch) := by
  have hswitch : Relates Twins (do
      modify fun e : Enforcer => { e with enabled := switch }
      Enforcer.invalidate) := by
    refine composes.bind (Twins.update (fun _ => rfl) fun _ => rfl) ?_
    intro _
    apply invalidate
  rw [Enforcer.enable]
  split
  · refine composes.bind (report _ _ _) ?_
    intro _
    apply hswitch
  · apply hswitch

theorem start (m : Model) (source : Option Source) :
  Relates Twins (Enforcer.start m source)
  := by
  refine composes.bind (setModel m) ?_
  intro _
  cases source with
  | none => apply composes.pure
  | some s =>
      refine composes.bind (Twins.update (fun _ => rfl) fun _ => rfl) ?_
      intro _
      apply loadPolicy

/-! ### Decisions -/

/-- Twins answer a request in one way. -/
theorem verdict_eq {e e' : Enforcer} (h : Twins e e') (request : List Value) :
  e.verdict request = e'.verdict request
  := congrArg (fun e => e.verdict request) h.core

theorem enforceEx (request : List Value) : Relates Twins (Enforcer.enforceEx request) := by
  intro e e' h
  obtain ⟨log, traces, hperform⟩ := Enforcer.perform_enforceEx request e
  obtain ⟨log', traces', hperform'⟩ := Enforcer.perform_enforceEx request e'
  rw [hperform, hperform']
  exact ⟨h.verdict_eq request, h.core, h.plain⟩

end Twins

end AccessControl
