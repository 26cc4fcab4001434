import AccessControl.Proofs.Enforcer.Calls
import AccessControl.Proofs.Enforcer.Decision
import AccessControl.Proofs.Rbac.Text

/-!
# Traces

A sink that collects has one trace for each request that was decided, in the order in which
the requests were put, and none for a request that failed.  Only an answer from memory leaves
no trace.  Calls that decide nothing leave none either, so whole runs of calls can be told
apart by what they leave.
-/

namespace AccessControl

open AccessControl.Action

namespace Enforcer

/-! ### What is left -/

/-- The row with which a decision is explained. -/
def explanation (e : Enforcer) (request : List Value) : Row :=
  match ((enforceEx request).perform e).1 with
  | .ok (_, explain) => explain
  | .error _ => []

/-- The trace of a request, by what it was answered: a request that failed has none. -/
def traceOf (e : Enforcer) (request : List Value) : Except Failure Bool → List Trace
  | .error _ => []
  | .ok allowed =>
    [{ request := (splitRequest request).2
       explain := e.explanation request
       allowed
       selection := (splitRequest request).1
       enforced := e.enabled.isTruthy }]

/-- A request is answered from memory. -/
def recalls (e : Enforcer) (request : List Value) : Bool :=
  e.remembers request && (e.cached? request).isSome

/-- The traces of the requests that count, among requests that are decided one after the other
until one fails. -/
def tracesOf (counts : Enforcer → List Value → Bool) : List (List Value) → Enforcer → List Trace
  | [], _ => []
  | request :: rest, e =>
    let (answer, e') := (enforce request).perform e
    (if counts e request then e.traceOf request answer else [])
      ++ if answer.isOk then tracesOf counts rest e' else []

/-- The names about which an enforcer decides to find the users that have a permission. -/
def candidates (e : Enforcer) : Except Failure (List String) := do
  let subjects ← e.model.allValuesAt .policy 0
  let members ← e.model.allValuesAt .role 0
  let roles ← e.model.allValuesAt .role 1
  return (subjects ++ members).eraseDups.filter fun name => !roles.contains name

end Enforcer

namespace Call

open AccessControl.Enforcer

variable (counts : Enforcer → List Value → Bool)

/-- The traces that a call leaves. -/
def traces : Call → Enforcer → List Trace
  | .enforce request, e => tracesOf counts [request] e
  | .enforceAll requests, e => tracesOf counts requests e
  | .enforceEx request, e =>
    e.traceOf request (((Enforcer.enforceEx request).perform e).1.map Prod.fst)
  | .ask (.usersWith permission), e =>
    match e.candidates with
    | .error _ => []
    | .ok names => tracesOf counts (names.map fun name => .text name :: permission) e
  | _, _ => []

/-- The traces that a run of calls leaves, in the order of the calls. -/
def runTraces : List Call → Enforcer → List Trace
  | [], _ => []
  | call :: rest, e => call.traces counts e ++ runTraces rest (call.act.perform e).2

end Call

namespace Enforcer

/-! ### Silence -/

/-- What tells the traces of an enforcer: its kind, its sink, and what it has delivered. -/
def trail (e : Enforcer) : EnforcerKind × Option Sink × List Trace := (e.kind, e.sink, e.traces)

/-- The trail of an enforcer that has delivered more traces. -/
def trailWith (e : Enforcer) (traces : List Trace) : EnforcerKind × Option Sink × List Trace :=
  (e.kind, e.sink, e.traces ++ traces)

/-- An action delivers no trace. -/
def Silent {α : Type} (a : Action α) : Prop := ∀ e, (a.perform e).2.trail = e.trail

namespace Silent

theorem composes : Composes fun _ a => Silent a := by
  constructor
  · intro α x e
    rfl
  · intro α failure e
    rfl
  · intro α β a f ha hf e
    have h := ha e
    rw [perform_bind]
    generalize a.perform e = r at h
    obtain ⟨failure | x, e'⟩ := r
    · apply h
    · apply (hf x e').trans h
  · intro α f _ hf e
    apply hf e e

theorem map {α β : Type} {a : Action α} (ha : Silent a) (f : α → β) :
  Silent (f <$> a)
  := by
  intro e
  rw [perform_map]
  apply ha e

theorem update {f : Enforcer → Enforcer} (h : ∀ e, (f e).trail = e.trail) :
  Silent (modify f)
  := h

theorem invalidate : Silent Enforcer.invalidate := update fun _ => rfl

/-! Rows -/

theorem edit (kind : RowKind) (key : String) (edit : RowEdit) : Silent (edit.act kind key) := by
  intro e
  rw [RowEdit.act_eq_mutate, perform_mutate]
  rcases edit.onModel kind key e.model with failure | ⟨m, _ | _⟩
  · rfl
  · rfl
  · dsimp only
    obtain ⟨result, source, log, heq⟩ :=
      perform_persist edit.operation (edit.onSource key) { e with model := m }
    rw [heq]
    cases result with
    | error failure => rfl
    | ok u =>
        obtain ⟨log', hlog⟩ := perform_rowsChanged kind.kind { e with model := m, source, log }
        dsimp only
        rw [hlog]
        rfl

theorem buildLinks : Silent Enforcer.buildLinks := by
  intro e
  obtain ⟨log, heq⟩ := perform_buildLinks e
  rw [heq]
  rfl

theorem clearPolicy : Silent Enforcer.clearPolicy := by
  intro e
  obtain ⟨log, heq⟩ := perform_clearPolicy e
  rw [heq]
  rfl

theorem loadPolicy : Silent Enforcer.loadPolicy := by
  intro e
  obtain hs | ⟨s, hs⟩ := Option.eq_none_or_eq_some e.source
  · rw [perform_loadPolicy_none hs]
  · obtain ⟨log, heq⟩ := perform_loadPolicy hs
    rw [heq]
    rcases s.load e.files e.model.clearRows with ⟨failure | u, m, events⟩
    · rfl
    · dsimp only
      rcases m.sortByPriority with ⟨failure | u, m'⟩
      · rfl
      · rfl

theorem savePolicy : Silent Enforcer.savePolicy := by
  intro e
  obtain hs | ⟨s, hs⟩ := Option.eq_none_or_eq_some e.source
  · rw [perform_savePolicy_none hs]
  · rw [perform_savePolicy hs]
    rcases s.save e.files e.model with failure | ⟨files, s', events⟩
    · rfl
    · rfl

theorem mutation (x : Mutation) :
  Silent x.act
  := Mutation.act_of composes x (fun kind key e _ => edit kind key e) (fun _ => loadPolicy)
    buildLinks fun _ => clearPolicy

/-! Parts -/

theorem setModel (m : Model) : Silent (Enforcer.setModel m) := by
  intro e
  rw [perform_setModel]
  cases m.validate with
  | error failure => rfl
  | ok u => rfl

theorem setGraph (key : String) (g : RoleGraph) : Silent (Enforcer.setGraph key g) := by
  intro e
  obtain ⟨graphs, log, heq⟩ := perform_setGraph key g e
  rw [heq]
  rfl

theorem register (name : String) (f : MatcherFunction) :
  Silent (Enforcer.register name f)
  := by
  intro e
  rw [perform_register]
  cases e.functions.register name f with
  | error failure => rfl
  | ok functions => rfl

theorem enable (switch : Value) : Silent (Enforcer.enable switch) := by
  intro e
  obtain ⟨log, heq⟩ := perform_enable switch e
  rw [heq]
  rfl

/-- Actions on the cache are silent if they are silent where there is one. -/
theorem onCache {a : Action Unit} (ha : Silent a) : Silent (Call.onCache a) := by
  refine composes.bind (a := get) (fun _ => rfl) ?_
  intro e
  split
  · apply composes.bind ha
    intro _
    apply composes.pure
  · apply composes.pure

theorem enableCache (switch : Value) : Silent (Enforcer.enableCache switch) := by
  refine composes.bind (update fun _ => rfl) ?_
  intro _
  split
  · apply invalidate
  · apply composes.pure

end Silent

/-! ### Decisions -/

/-- A trace that is collected comes after those that are there. -/
theorem perform_deliver_collecting
    {e : Enforcer} (hsink : e.sink = some .collecting) (t : Trace) :
  (deliver t).perform e =
    match delivery e.sink t.selection with
    | .error failure => (.error failure, e)
    | .ok () => (.ok (), { e with traces := e.traces ++ [t] })
  := by
  cases e
  cases hsink
  rw [deliver, delivery]
  simp only [perform_bind, perform_get, Option.isNone_some, Bool.false_or]
  split
  · rfl
  · rfl

/-- Deciding a request answers the verdict and, if that is no failure, leaves a trace of it. -/
theorem perform_enforceEx_collecting
    {e : Enforcer} (hsink : e.sink = some .collecting) (request : List Value) :
  ∃ log, (enforceEx request).perform e =
    match e.verdict request with
    | .error failure => (.error failure, { e with log })
    | .ok (allowed, explain) =>
      (.ok (allowed, explain),
        { e with
          log
          traces := e.traces ++
            [{ request := (splitRequest request).2
               explain
               allowed
               selection := (splitRequest request).1
               enforced := e.enabled.isTruthy }] })
  := by
  rw [enforceEx, verdict]
  simp only [perform_bind, perform_get]
  obtain ⟨selection, values⟩ := splitRequest request
  dsimp only
  by_cases henabled : e.enabled.isTruthy
  · simp only [henabled, Bool.not_true, Bool.false_eq_true, if_false, if_true, perform_bind,
      perform_lift]
    cases e.decide selection values with
    | error failure => exact ⟨e.log, rfl⟩
    | ok result =>
        obtain ⟨allowed, explain⟩ := result
        obtain ⟨log, hreport⟩ := perform_report .debug (decisionText values allowed)
          [("explain", Value.texts explain)] e
        use log
        have hdeliver := perform_deliver_collecting (e := { e with log }) hsink
          { request := values, explain, allowed, selection, enforced := true }
        simp only [hreport, hdeliver]
        cases delivery e.sink selection <;> rfl
  · use e.log
    simp only [henabled, Bool.not_false, if_true, perform_bind,
      perform_deliver_collecting hsink]
    cases delivery e.sink selection <;> rfl

/-- Deciding a request leaves its trace. -/
theorem trail_enforceEx
    {e : Enforcer} (hsink : e.sink = some .collecting) (request : List Value) :
  ((enforceEx request).perform e).2.trail
    = e.trailWith (e.traceOf request (((enforceEx request).perform e).1.map Prod.fst))
  := by
  obtain ⟨log, heq⟩ := perform_enforceEx_collecting hsink request
  rw [trailWith]
  cases hverdict : e.verdict request with
  | error failure =>
      rw [heq, hverdict]
      simp only [Except.map, traceOf, List.append_nil]
      rfl
  | ok result =>
      obtain ⟨allowed, explain⟩ := result
      have hexplain : e.explanation request = explain := by
        rw [explanation, heq, hverdict]
      rw [heq, hverdict]
      simp only [Except.map, traceOf, hexplain]
      rfl

/-- An answer from memory leaves everything as it is. -/
theorem perform_enforce_recalled
    {request : List Value} {e : Enforcer} (h : e.recalls request = true) :
  ((enforce request).perform e).2 = e
  := by
  rw [recalls, Bool.and_eq_true] at h
  obtain ⟨allowed, hcached⟩ := Option.isSome_iff_exists.mp h.2
  rw [perform_enforce_hit h.1 hcached]

/-- Any other answer is the decision of the request, which may be remembered. -/
theorem perform_enforce_decided
    {request : List Value} {e : Enforcer} (h : e.recalls request = false) :
  ∃ cache, (enforce request).perform e
    = (((enforceEx request).perform e).1.map Prod.fst,
        { ((enforceEx request).perform e).2 with cache })
  := by
  rw [enforce]
  simp only [perform_bind, perform_get]
  cases hremembers : e.remembers request with
  | false =>
      use ((enforceEx request).perform e).2.cache
      simp only [Bool.false_eq_true, if_false, perform_bind]
      rcases (enforceEx request).perform e with ⟨failure | result, e'⟩ <;> rfl
  | true =>
      rw [recalls, hremembers, Bool.true_and, Option.isSome_eq_false_iff,
        Option.isNone_iff_eq_none] at h
      simp only [if_true, h, perform_bind]
      rcases (enforceEx request).perform e with ⟨failure | result, e'⟩
      · exact ⟨e'.cache, rfl⟩
      · exact ⟨_, rfl⟩

/-- A request leaves a trace unless it fails or is answered from memory. -/
theorem trail_enforce
    {e : Enforcer} (hsink : e.sink = some .collecting) (request : List Value) :
  ((enforce request).perform e).2.trail
    = e.trailWith (if !e.recalls request
        then e.traceOf request ((enforce request).perform e).1 else [])
  := by
  cases hrecalls : e.recalls request with
  | true =>
      rw [perform_enforce_recalled hrecalls, trailWith]
      simp [trail]
  | false =>
      obtain ⟨cache, heq⟩ := perform_enforce_decided hrecalls
      rw [heq]
      apply trail_enforceEx hsink

/-- What is asked of an enforcer does not change what tells its traces, but for these. -/
theorem sink_of_trail
    {e e' : Enforcer} {traces : List Trace} (h : e'.trail = e.trailWith traces) :
  e'.kind = e.kind ∧ e'.sink = e.sink ∧ e'.traces = e.traces ++ traces
  := by
  rw [trail, trailWith, Prod.mk.injEq, Prod.mk.injEq] at h
  apply h

/-! ### Runs -/

section Runs

variable {counts : Enforcer → List Value → Bool} {kind : EnforcerKind}
  (hcounts : ∀ e, e.kind = kind → ∀ request, counts e request = !e.recalls request)

include hcounts

theorem trail_enforceAll
    {e : Enforcer} (hkind : e.kind = kind) (hsink : e.sink = some .collecting)
    (requests : List (List Value)) :
  ((enforceAll requests).perform e).2.trail = e.trailWith (tracesOf counts requests e)
  := by
  induction requests generalizing e with
  | nil => simp [enforceAll, tracesOf, trail, trailWith]
  | cons request rest ih =>
      have htrail := trail_enforce hsink request
      rw [enforceAll, perform_bind, tracesOf, hcounts e hkind]
      dsimp only
      generalize (enforce request).perform e = r at htrail
      obtain ⟨answer, e'⟩ := r
      cases answer with
      | error failure =>
          simp only [Except.isOk, Except.toBool, Bool.false_eq_true, if_false, List.append_nil]
          apply htrail
      | ok allowed =>
          obtain ⟨hkind', hsink', htraces⟩ := sink_of_trail htrail
          have hrest := ih (hkind'.trans hkind) (hsink'.trans hsink)
          simp only [Except.isOk, Except.toBool, if_true, ← map_eq_pure_bind, perform_map]
          rw [hrest, trailWith, trailWith, hkind', hsink', htraces, List.append_assoc]

/-- Finding the names for which a permission is granted is deciding about them. -/
theorem trail_granted
    {e : Enforcer} (hkind : e.kind = kind) (hsink : e.sink = some .collecting)
    (permission : List Value) (names : List String) :
  ((granted permission names).perform e).2.trail
    = e.trailWith (tracesOf counts (names.map fun name => .text name :: permission) e)
  := by
  have hgranted : ∀ names e, ((granted permission names).perform e).2
      = ((enforceAll (names.map fun name => .text name :: permission)).perform e).2 := by
    intro names
    induction names with
    | nil =>
        intro e
        rfl
    | cons name rest ih =>
        intro e
        rw [granted, List.map_cons, enforceAll, perform_bind, perform_bind]
        rcases (enforce (.text name :: permission)).perform e with ⟨failure | allowed, e'⟩
        · rfl
        · simp only [← map_eq_pure_bind, perform_map]
          apply ih
  rw [hgranted]
  apply trail_enforceAll hcounts hkind hsink

theorem trail_usersWith
    {e : Enforcer} (hkind : e.kind = kind) (hsink : e.sink = some .collecting)
    (permission : List Value) :
  ((usersWith permission).perform e).2.trail
    = e.trailWith ((Call.ask (.usersWith permission)).traces counts e)
  := by
  rw [Call.traces, usersWith, candidates]
  simp only [perform_bind, perform_get, perform_lift]
  rcases e.model.allValuesAt .policy 0 with failure | subjects
  · simp [trail, trailWith, bind, Except.bind]
  · rcases e.model.allValuesAt .role 0 with failure | members
    · simp [trail, trailWith, bind, Except.bind]
    · rcases e.model.allValuesAt .role 1 with failure | roles
      · simp [trail, trailWith, bind, Except.bind]
      · apply trail_granted hcounts hkind hsink

end Runs

end Enforcer

namespace Call

open AccessControl.Enforcer

section Runs

variable {counts : Enforcer → List Value → Bool} {kind : EnforcerKind}
  (hcounts : ∀ e, e.kind = kind → ∀ request, counts e request = !e.recalls request)

include hcounts

/-- A call leaves the traces of the requests that it decides. -/
theorem trail_act
    {e : Enforcer} (hkind : e.kind = kind) (hsink : e.sink = some .collecting) (call : Call) :
  (call.act.perform e).2.trail = e.trailWith (call.traces counts e)
  := by
  have hsilent : Silent call.act → call.traces counts e = [] →
      (call.act.perform e).2.trail = e.trailWith (call.traces counts e) := by
    intro hact hnone
    rw [hact e, hnone, trailWith, List.append_nil, trail]
  cases call with
  | enforce request =>
      rw [act, perform_map, traces, trail_enforce hsink, ← hcounts e hkind]
      simp [tracesOf]
  | enforceEx request =>
      rw [act, perform_map, traces]
      apply trail_enforceEx hsink
  | enforceAll requests =>
      rw [act, perform_map, traces]
      apply trail_enforceAll hcounts hkind hsink
  | mutate x => apply hsilent (.map (.mutation x) _) rfl
  | ask q =>
      by_cases hq : ∃ permission, q = .usersWith permission
      · obtain ⟨permission, rfl⟩ := hq
        rw [act, Question.act, perform_map]
        apply trail_usersWith hcounts hkind hsink
      · apply hsilent
        · apply Question.act_of Silent.composes
          rintro permission name rfl
          exact (hq ⟨permission, rfl⟩).elim
        · cases q <;> first | rfl | exact (hq ⟨_, rfl⟩).elim
  | savePolicy => apply hsilent (.map .savePolicy _) rfl
  | buildLinks => apply hsilent (.map .buildLinks _) rfl
  | setModel m => apply hsilent (.map (.setModel m) _) rfl
  | setGraph key g => apply hsilent (.map (.setGraph key g) _) rfl
  | register name f => apply hsilent (.map (.register name f) _) rfl
  | enable switch => apply hsilent (.map (.enable switch) _) rfl
  | enableAutoSave on => apply hsilent (fun _ => rfl) rfl
  | enableAutoBuild on => apply hsilent (fun _ => rfl) rfl
  | enableCache switch => apply hsilent (.onCache (.enableCache switch)) rfl
  | invalidateCache => apply hsilent (.onCache .invalidate) rfl

/-- A run leaves the traces of its calls. -/
theorem traces_run
    {e : Enforcer} (hkind : e.kind = kind) (hsink : e.sink = some .collecting)
    (calls : List Call) :
  (run calls e).2.traces = e.traces ++ runTraces counts calls e
  := by
  induction calls generalizing e with
  | nil => simp [run, runTraces]
  | cons call rest ih =>
      obtain ⟨hkind', hsink', htraces⟩ := sink_of_trail (trail_act hcounts hkind hsink call)
      rw [run_cons, runTraces, ih (hkind'.trans hkind) (hsink'.trans hsink), htraces,
        List.append_assoc]

end Runs

/-- Who collects the traces of an enforcer has one more after a run of calls for each request
that was decided, in the order in which the requests were put.  It tells what was asked, the
answer, the row that explains it, the definitions, and whether the matcher was asked.  An
enforcer that remembers decisions leaves out those that it answers from memory. -/
theorem trace_per_decision
    {e : Enforcer} (hsink : e.sink = some .collecting) (calls : List Call) :
  let e' := (run calls e).2
  (e.kind ≠ .cached → e'.traces = e.traces ++ runTraces (fun _ _ => true) calls e) ∧
    e'.traces = e.traces ++ runTraces (fun e request => !e.recalls request) calls e
  := by
  intro e'
  constructor
  · intro hkind
    apply traces_run _ rfl hsink
    intro e₁ hkind₁ request
    simp [recalls, remembers, hkind₁, hkind]
  · apply traces_run (fun _ _ _ => rfl) rfl hsink

/-- A run in which requests are granted, denied, refused, and allowed by a switch. -/
theorem trace_per_decision_mixed :
  let request := [.text "alice", .text "data", .text "read"]
  let denied := [.text "bob", .text "data", .text "read"]
  let calls := [.enforceEx request, .mutate (.edit .policy "p" (.remove request)),
    .enforceAll [denied, [], request], .enable (.bool false), .enforce denied]
  let e := ((start (Rbac.model [["alice", "data", "read"]] []) none).perform
    (initial .full {} (some .collecting) .none {})).2
  e.sink = some .collecting ∧ (run calls e).2.traces.map (fun t => (t.explain, t.allowed, t.enforced))
    = [(["alice", "data", "read"], true, true), ([], false, true), ([], true, false)]
  := by
  intro request denied calls e
  have hsink : e.sink = some .collecting := rfl
  refine ⟨hsink, ?_⟩
  rw [(trace_per_decision hsink calls).1 (by decide)]
  decide +kernel

/-- A request that is answered from memory is decided and leaves no trace. -/
theorem recalled_without_trace :
  let request := [.text "alice", .text "data", .text "read"]
  let calls := [.enforce request, .enforce request]
  let e := ((start (Rbac.model [["alice", "data", "read"]] []) none).perform
    (initial .cached {} (some .collecting) .none {})).2
  e.sink = some .collecting ∧ (run calls e).1 = [.ok (.bool true), .ok (.bool true)] ∧
    (runTraces (fun _ _ => true) calls e).length = 2 ∧ (run calls e).2.traces.length = 1
  := by
  intro request calls e
  exact ⟨rfl, rfl, rfl, rfl⟩

end Call

end AccessControl
