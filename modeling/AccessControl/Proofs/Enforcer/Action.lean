import AccessControl.Enforcer.Roles
import Mathlib.Tactic

/-!
# Actions

What the actions of an enforcer do, as equations between the enforcer before and the one
after.  An action is performed on an enforcer, `Action.perform`; the equations say what is
returned, and which parts of the enforcer are other than before.  What is reported is never
told apart.
-/

namespace AccessControl

namespace Action

variable {α β : Type}

/-- The result of an action of an enforcer, and the enforcer after it. -/
def perform (a : Action α) (e : Enforcer) : Except Failure α × Enforcer := a.run.run e

@[simp] theorem perform_pure (x : α) (e : Enforcer) :
  perform (pure x) e = (.ok x, e)
  := rfl

@[simp] theorem perform_get (e : Enforcer) :
  perform get e = (.ok e, e)
  := rfl

@[simp] theorem perform_modify (f : Enforcer → Enforcer) (e : Enforcer) :
  perform (modify f) e = (.ok (), f e)
  := rfl

@[simp] theorem perform_throw (failure : Failure) (e : Enforcer) :
  perform (throw failure : Action α) e = (.error failure, e)
  := rfl

@[simp] theorem perform_lift (x : Except Failure α) (e : Enforcer) :
  perform (liftM x) e = (x, e)
  := by
  cases x <;> rfl

/-- The second of two actions is performed where the first ends, unless that fails. -/
@[simp] theorem perform_bind (a : Action α) (f : α → Action β) (e : Enforcer) :
  perform (a >>= f) e =
    match perform a e with
    | (.ok x, e) => perform (f x) e
    | (.error failure, e) => (.error failure, e)
  := by
  change StateT.run (a.run >>= ExceptT.bindCont f : StateM Enforcer _) e = _
  rw [StateT.run_bind]
  change (ExceptT.bindCont f (perform a e).1).run (perform a e).2 = _
  rcases perform a e with ⟨x | x, e'⟩ <;> rfl

@[simp] theorem perform_map (f : α → β) (a : Action α) (e : Enforcer) :
  perform (f <$> a) e = ((perform a e).1.map f, (perform a e).2)
  := by
  rw [map_eq_pure_bind, perform_bind]
  rcases perform a e with ⟨x | x, e'⟩ <;> rfl

/-! ### What actions keep -/

/-- An action keeps what holds of an enforcer, also when it fails. -/
def Keeps (I : Enforcer → Prop) (a : Action α) : Prop := ∀ e, I e → I (a.perform e).2

namespace Keeps

variable {I : Enforcer → Prop}

theorem pure (x : α) : Keeps I (pure x : Action α) := fun _ h => h

theorem throw (failure : Failure) : Keeps I (throw failure : Action α) := fun _ h => h

theorem get : Keeps I get := fun _ h => h

theorem lift (x : Except Failure α) :
  Keeps I (liftM x : Action α)
  := by
  intro e h
  rw [perform_lift]
  apply h

theorem bind {a : Action α} {f : α → Action β} (ha : Keeps I a) (hf : ∀ x, Keeps I (f x)) :
  Keeps I (a >>= f)
  := by
  intro e h
  have h' := ha e h
  rw [perform_bind]
  generalize a.perform e = r at h'
  obtain ⟨failure | x, e'⟩ := r
  · apply h'
  · apply hf x e' h'

theorem map {a : Action α} (f : α → β) (ha : Keeps I a) :
  Keeps I (f <$> a)
  := by
  intro e h
  rw [perform_map]
  apply ha e h

end Keeps

end Action

/-- An enforcer apart from its kind, from what it remembers and from what it has reported. -/
def Enforcer.core (e : Enforcer) : Enforcer :=
  { e with kind := .full, cacheEnabled := true, cache := [], log := [], traces := [] }

namespace Action

/-- A property of actions composes if it holds of actions that only return or fail, of one
action after another, and of those that look at the core of an enforcer first. -/
structure Composes (P : (α : Type) → Action α → Prop) : Prop where
  pure : ∀ {α : Type} (x : α), P α (pure x)
  throw : ∀ {α : Type} (failure : Failure), P α (throw failure)
  bind : ∀ {α β : Type} {a : Action α} {f : α → Action β},
    P α a → (∀ x, P β (f x)) → P β (a >>= f)
  look : ∀ {α : Type} {f : Enforcer → Action α},
    (∀ e, f e = f e.core) → (∀ e, P α (f e)) → P α (get >>= f)

/-- What composes and holds of returning and failing holds of a result that is given. -/
theorem Composes.lift
    {P : (α : Type) → Action α → Prop} (hP : Composes P) {α : Type} (x : Except Failure α) :
  P α (liftM x)
  := by
  cases x with
  | ok a => apply hP.pure a
  | error failure => apply hP.throw failure

theorem Keeps.composes (I : Enforcer → Prop) :
  Composes fun _ a => Keeps I a
  := by
  constructor
  · intro α x
    apply Keeps.pure
  · intro α failure
    apply Keeps.throw
  · intro α β a f ha hf
    apply Keeps.bind ha hf
  · intro α f _ hf
    apply Keeps.bind Keeps.get hf

/-! ### What actions relate -/

/-- Performed on related enforcers, an action gives one result and leaves related enforcers. -/
def Relates {α : Type} (R : Enforcer → Enforcer → Prop) (a : Action α) : Prop :=
  ∀ e e', R e e' → (a.perform e).1 = (a.perform e').1 ∧ R (a.perform e).2 (a.perform e').2

namespace Relates

variable {α β : Type} {R : Enforcer → Enforcer → Prop}

theorem bind
    {a : Action α} {f : α → Action β} (ha : Relates R a) (hf : ∀ x, Relates R (f x)) :
  Relates R (a >>= f)
  := by
  intro e e' h
  obtain ⟨hresult, hafter⟩ := ha e e' h
  rw [perform_bind, perform_bind]
  generalize a.perform e = r at hresult hafter
  generalize a.perform e' = r' at hresult hafter
  obtain ⟨result, e₁⟩ := r
  obtain ⟨result', e₁'⟩ := r'
  obtain rfl : result = result' := hresult
  cases result with
  | error failure => exact ⟨rfl, hafter⟩
  | ok x => apply hf x e₁ e₁' hafter

/-- A relation of enforcers of one core is kept by what is composed of actions that keep
it. -/
theorem composes (hR : ∀ e e', R e e' → e.core = e'.core) :
  Composes fun _ a => Relates R a
  := by
  constructor
  · intro α x e e' h
    exact ⟨rfl, h⟩
  · intro α failure e e' h
    exact ⟨rfl, h⟩
  · intro α β a f ha hf
    apply bind ha hf
  · intro α f hlook hf e e' h
    rw [perform_bind, perform_bind, perform_get, perform_get]
    dsimp only
    rw [hlook e, hR e e' h, ← hlook e']
    apply hf e' e e' h

end Relates

end Action

namespace Enforcer

open AccessControl.Action

/-! ### Reports and links -/

theorem perform_reportAll (events : List LogEvent) (e : Enforcer) :
  (reportAll events).perform e = (.ok (), { e with log := e.log ++ events })
  := rfl

theorem perform_report (level : LogLevel) (message : String) (extra : List (String × Value))
    (e : Enforcer) :
  ∃ log, (report level message extra).perform e = (.ok (), { e with log })
  := ⟨_, rfl⟩

theorem perform_invalidate (e : Enforcer) :
  invalidate.perform e = (.ok (), { e with cache := [] })
  := rfl

theorem perform_relink (e : Enforcer) :
  ∃ log, relink.perform e = (.ok (), { e with graphs := e.model.link e.graphs, log })
  := ⟨_, rfl⟩

theorem perform_buildLinks (e : Enforcer) :
  ∃ log, buildLinks.perform e =
    (.ok (), { e with graphs := e.model.link e.graphs, cache := [], log })
  := ⟨_, rfl⟩

theorem perform_clearPolicy (e : Enforcer) :
  ∃ log, clearPolicy.perform e =
    (.ok (),
      { e with
        model := e.model.clearRows
        graphs := e.model.clearRows.link e.graphs
        cache := []
        log })
  := ⟨_, rfl⟩

/-- The role graphs after a change of rows of a kind: they are built anew after a change of
role rows, when links are built automatically. -/
def graphsAfter (kind : SectionKind) (e : Enforcer) : RoleGraphs :=
  if kind == .role && e.autoBuild then e.model.link e.graphs else e.graphs

theorem perform_rowsChanged (kind : SectionKind) (e : Enforcer) :
  ∃ log, (rowsChanged kind).perform e =
    (.ok (), { e with graphs := graphsAfter kind e, cache := [], log })
  := by
  rw [rowsChanged, graphsAfter]
  simp only [perform_bind, perform_get]
  by_cases h : kind == .role && e.autoBuild
  · obtain ⟨log, hlog⟩ := perform_relink e
    use log
    simp only [h, if_true, perform_bind, hlog, perform_invalidate]
  · use e.log
    simp only [h]
    rfl

/-! ### Parts -/

/-- Another model comes with its role graphs; one that is not valid is refused. -/
theorem perform_setModel (m : Model) (e : Enforcer) :
  (setModel m).perform e =
    match m.validate with
    | .error failure => (.error failure, e)
    | .ok () =>
      (.ok (),
        { e with
          model := m
          graphs := e.graphsFor m
          cache := []
          log := e.log ++ m.lineEvents })
  := by
  rw [setModel, perform_bind, perform_lift]
  cases m.validate <;> rfl

theorem perform_setGraph (key : String) (g : RoleGraph) (e : Enforcer) :
  ∃ graphs log, (setGraph key g).perform e = (.ok (), { e with graphs, cache := [], log })
  := by
  rw [setGraph]
  simp only [perform_bind, perform_modify, perform_get]
  by_cases hbuild : e.autoBuild
  · simp only [hbuild, if_true]
    exact ⟨_, _, rfl⟩
  · simp only [hbuild]
    exact ⟨_, _, rfl⟩

theorem perform_register (name : String) (f : MatcherFunction) (e : Enforcer) :
  (register name f).perform e =
    match e.functions.register name f with
    | .error failure => (.error failure, e)
    | .ok functions => (.ok (), { e with functions, cache := [] })
  := by
  rw [register]
  simp only [perform_bind, perform_get, perform_lift]
  cases e.functions.register name f <;> rfl

theorem perform_enable (switch : Value) (e : Enforcer) :
  ∃ log, (enable switch).perform e = (.ok (), { e with enabled := switch, cache := [], log })
  := by
  rw [enable]
  cases switch.isTruthy
  · exact ⟨_, rfl⟩
  · exact ⟨_, rfl⟩

/-! ### Changes of rows -/

/-- A change of rows goes to the model, then to the source, and what is derived from the rows
is brought up to date at the end. -/
theorem perform_mutate
    (kind : SectionKind) (operation : String) (change : Model → Except Failure (Model × Bool))
    (edit : Source → Except Failure (Source × Bool)) (e : Enforcer) :
  (mutate kind operation change edit).perform e =
    match change e.model with
    | .error failure => (.error failure, e)
    | .ok (_, false) => (.ok false, e)
    | .ok (m, true) =>
      match (persist operation edit).perform { e with model := m } with
      | (.error failure, e) => (.error failure, e)
      | (.ok (), e) => (.ok true, ((rowsChanged kind).perform e).2)
  := by
  rw [mutate]
  simp only [perform_bind, perform_get, perform_lift]
  rcases change e.model with failure | ⟨m, _ | _⟩
  · rfl
  · rfl
  · simp only [Bool.not_true, Bool.false_eq_true, if_false, perform_bind, perform_modify]
    rcases (persist operation edit).perform { e with model := m } with ⟨failure | u, e'⟩
    · rfl
    · obtain ⟨log, hlog⟩ := perform_rowsChanged kind e'
      simp [hlog]

/-- An enforcer has a source to which it saves, or else nothing is passed on. -/
theorem skips_or_saves (e : Enforcer) :
  (e.source = none ∨ e.autoSave = false) ∨ ∃ s, e.source = some s ∧ e.autoSave = true
  := by
  cases e.source with
  | none =>
      left
      left
      rfl
  | some s =>
      cases e.autoSave with
      | false =>
          left
          right
          rfl
      | true =>
          right
          use s

/-- Passing on a change touches the source and the reports only. -/
theorem perform_persist
    (operation : String) (edit : Source → Except Failure (Source × Bool)) (e : Enforcer) :
  ∃ result source log, (persist operation edit).perform e = (result, { e with source, log })
  := by
  rw [persist]
  simp only [perform_bind, perform_get]
  split
  · exact ⟨_, e.source, e.log, rfl⟩
  · split
    · exact ⟨_, e.source, e.log, rfl⟩
    · split
      · exact ⟨_, e.source, e.log, rfl⟩
      · exact ⟨_, _, e.log, rfl⟩
      · exact ⟨_, e.source, _, rfl⟩
      · exact ⟨_, e.source, e.log, rfl⟩

/-- Nothing is passed on without a source, and none when rows are not saved. -/
theorem perform_persist_skip
    (operation : String) (edit : Source → Except Failure (Source × Bool)) {e : Enforcer}
    (h : e.source = none ∨ e.autoSave = false) :
  (persist operation edit).perform e = (.ok (), e)
  := by
  rw [persist]
  simp only [perform_bind, perform_get]
  cases hs : e.source with
  | none => rfl
  | some s =>
      obtain h | h := h
      · rw [hs] at h
        cases h
      · simp [h]

/-- A source in memory takes an edit that it can make. -/
theorem perform_persist_memory
    (operation : String) {edit : Source → Except Failure (Source × Bool)} {e : Enforcer}
    {rows : List StoredRow} {s : Source} {changed : Bool} (hs : e.source = some (.memory rows))
    (hsave : e.autoSave = true) (hedit : edit (.memory rows) = .ok (s, changed)) :
  (persist operation edit).perform e = (.ok (), { e with source := some s })
  := by
  rw [persist]
  simp [hs, hsave, hedit]

/-- A source that does not support an edit does not take it, which is no failure. -/
theorem perform_persist_unsupported
    (operation : String) (edit : Source → Except Failure (Source × Bool)) {e : Enforcer}
    {s : Source} (hs : e.source = some s) (hsave : e.autoSave = true)
    (hedit : edit s = .error Source.unsupported) (hforeign : ∀ v, s ≠ .foreign v) :
  ∃ log, (persist operation edit).perform e = (.ok (), { e with log })
  := by
  have hreport : ∃ message, (persist operation edit).perform e =
      (report .debug message []).perform e := by
    rw [persist]
    simp only [perform_bind, perform_get, hs, hsave, hedit, Source.unsupported, Failure.ofHost]
    cases s with
    | foreign v => exact absurd rfl (hforeign v)
    | _ => exact ⟨_, rfl⟩
  obtain ⟨message, hmessage⟩ := hreport
  rw [hmessage]
  apply perform_report

/-! ### Saving and loading -/

theorem perform_savePolicy_none {e : Enforcer} (hs : e.source = none) :
  savePolicy.perform e = (.error (.source .missing), e)
  := by
  rw [savePolicy, theSource]
  simp [hs]

/-- Saving replaces the source, and the file that it may be in. -/
theorem perform_savePolicy {e : Enforcer} {s : Source} (hs : e.source = some s) :
  savePolicy.perform e =
    match s.save e.files e.model with
    | .error failure => (.error failure, e)
    | .ok (files, s, events) =>
      (.ok (), { e with files, source := some s, log := e.log ++ events })
  := by
  rw [savePolicy, theSource]
  simp only [perform_bind, perform_get, hs, perform_pure, perform_lift]
  rcases s.save e.files e.model with failure | ⟨files, s', events⟩ <;> rfl

theorem perform_loadPolicy_none {e : Enforcer} (hs : e.source = none) :
  loadPolicy.perform e = (.error (.source .missing), e)
  := by
  rw [loadPolicy, theSource]
  simp [hs]

/-- Loading replaces the rows of the model by those of the source and orders them; links are
built and decisions forgotten only when all of this succeeds. -/
theorem perform_loadPolicy {e : Enforcer} {s : Source} (hs : e.source = some s) :
  ∃ log, loadPolicy.perform e =
    match s.load e.files e.model.clearRows with
    | (.error failure, m, _) => (.error failure, { e with model := m, log })
    | (.ok (), m, _) =>
      match m.sortByPriority with
      | (.error failure, m) => (.error failure, { e with model := m, log })
      | (.ok (), m) =>
        (.ok (),
          { e with
            model := m
            graphs := if e.autoBuild then m.link e.graphs else e.graphs
            cache := []
            log })
  := by
  rw [loadPolicy, theSource]
  simp only [perform_bind, perform_get, hs, perform_pure, perform_modify, readSource]
  rcases s.load e.files e.model.clearRows with ⟨failure | u, m, events⟩
  · exact ⟨_, rfl⟩
  · simp only [perform_reportAll, perform_lift, sortRows, perform_bind, perform_get,
      perform_modify]
    rcases m.sortByPriority with ⟨failure | u, m⟩
    · exact ⟨_, rfl⟩
    · by_cases hbuild : e.autoBuild
      · simp only [hbuild, if_true]
        exact ⟨_, rfl⟩
      · simp only [hbuild]
        exact ⟨_, rfl⟩

/-- When loading succeeds, the rows of a source have been read and ordered, links have been built
if they are built automatically, and decisions have been forgotten. -/
theorem loadPolicy_eq_ok {e e' : Enforcer} (h : loadPolicy.perform e = (.ok (), e')) :
  ∃ s m events m' log, e.source = some s ∧
    s.load e.files e.model.clearRows = (.ok (), m, events) ∧ m.sortByPriority = (.ok (), m') ∧
    e' =
      { e with
        model := m'
        graphs := if e.autoBuild then m'.link e.graphs else e.graphs
        cache := []
        log }
  := by
  obtain hs | ⟨s, hs⟩ := Option.eq_none_or_eq_some e.source
  · rw [perform_loadPolicy_none hs] at h
    cases h
  · obtain ⟨log, hlog⟩ := perform_loadPolicy hs
    rw [hlog] at h
    rcases hload : s.load e.files e.model.clearRows with ⟨failure | u, m, events⟩
    · rw [hload] at h
      cases h
    · rw [hload] at h
      dsimp only at h
      rcases hsort : m.sortByPriority with ⟨failure | u, m'⟩
      · rw [hsort] at h
        cases h
      · rw [hsort] at h
        exact ⟨s, m, events, m', log, hs, hload, hsort, (Prod.mk.inj h).2.symm⟩

end Enforcer

end AccessControl
