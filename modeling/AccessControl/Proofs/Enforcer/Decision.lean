import AccessControl.Proofs.Enforcer.Action

/-!
# Performing decisions

What an enforcer answers to a request, as a function of its state: the verdict.  Deciding
changes nothing but reports, traces and remembered decisions.
-/

namespace AccessControl

namespace Enforcer

open AccessControl.Action

/-- What comes of delivering a trace about a selection to a sink. -/
def delivery (sink : Option Sink) (s : Selection) : Except Failure Unit :=
  if sink.isNone || (selectionIssues s).isEmpty then .ok ()
  else .error (.rejected (selectionIssues s))

/-- The answer of an enforcer to a request, with the row that explains it. -/
def verdict (e : Enforcer) (request : List Value) : Except Failure (Bool × Row) := do
  let (selection, values) := splitRequest request
  let result ← if e.enabled.isTruthy then e.decide selection values else .ok (true, [])
  delivery e.sink selection
  return result

/-- The verdict of an enforcer that is switched on, about a request of as many values as the
request definition has fields, is the decision of the frame that is selected. -/
theorem verdict_of_frame
    {e : Enforcer} (henabled : e.enabled.isTruthy = true) {request values : List Value}
    {rKey pKey eKey mKey : String}
    (hselection : splitRequest request
      = (⟨.text rKey, .text pKey, .text eKey, .text mKey⟩, values))
    {f : Frame} (hframe : e.model.frame ⟨.text rKey, .text pKey, .text eKey, .text mKey⟩ = .ok f)
    (harity : values.length = f.request.arity) :
  e.verdict request = f.decide e.allFunctions values
  := by
  have hdelivery : delivery e.sink ⟨.text rKey, .text pKey, .text eKey, .text mKey⟩ = .ok () :=
    if_pos (Bool.or_true _)
  simp only [verdict, hselection, henabled, if_true, decide, hframe, harity, ne_eq,
    not_true_eq_false, if_false, hdelivery, bind, Except.bind, pure, Except.pure]
  cases f.decide e.allFunctions values <;> rfl

theorem perform_handOver (t : Trace) (s : Sink) (e : Enforcer) :
  ∃ log traces, (handOver t s).perform e = (.ok (), { e with log, traces })
  := by
  cases s with
  | collecting => exact ⟨e.log, _, rfl⟩
  | reporting => exact ⟨_, e.traces, rfl⟩
  | failing shown error => exact ⟨_, e.traces, rfl⟩

theorem perform_deliver (t : Trace) (e : Enforcer) :
  ∃ log traces, (deliver t).perform e = (delivery e.sink t.selection, { e with log, traces })
  := by
  obtain hsink | ⟨s, hsink⟩ := Option.eq_none_or_eq_some e.sink
  · have hperform : (deliver t).perform e = (.ok (), e) := by
      rw [deliver]
      simp [hsink]
    have hdelivery : delivery e.sink t.selection = .ok () := by
      simp [delivery, hsink]
    rw [hperform, hdelivery]
    exact ⟨e.log, e.traces, rfl⟩
  · by_cases hissues : (selectionIssues t.selection).isEmpty
    · have hperform : (deliver t).perform e = (handOver t s).perform e := by
        rw [deliver]
        simp [hsink, hissues]
      have hdelivery : delivery e.sink t.selection = .ok () := by
        simp [delivery, hissues]
      rw [hperform, hdelivery]
      apply perform_handOver
    · have hperform : (deliver t).perform e
          = (.error (.rejected (selectionIssues t.selection)), e) := by
        rw [deliver]
        simp [hsink, hissues]
      have hdelivery : delivery e.sink t.selection
          = .error (.rejected (selectionIssues t.selection)) := by
        simp [delivery, hsink, hissues]
      rw [hperform, hdelivery]
      exact ⟨e.log, e.traces, rfl⟩

/-- Deciding a request answers the verdict, and adds to reports and traces only. -/
theorem perform_enforceEx (request : List Value) (e : Enforcer) :
  ∃ log traces, (enforceEx request).perform e = (e.verdict request, { e with log, traces })
  := by
  rw [enforceEx, verdict]
  simp only [perform_bind, perform_get]
  obtain ⟨selection, values⟩ := splitRequest request
  dsimp only
  by_cases henabled : e.enabled.isTruthy
  · simp only [henabled, Bool.not_true, Bool.false_eq_true, if_false, if_true, perform_bind,
      perform_lift]
    cases e.decide selection values with
    | error failure => exact ⟨e.log, e.traces, rfl⟩
    | ok result =>
        obtain ⟨allowed, explain⟩ := result
        obtain ⟨log, hreport⟩ := perform_report .debug (decisionText values allowed)
          [("explain", Value.texts explain)] e
        obtain ⟨log', traces, hdeliver⟩ := perform_deliver
          { request := values, explain, allowed, selection, enforced := true } { e with log }
        use log', traces
        simp only [hreport, hdeliver]
        cases delivery e.sink selection <;> rfl
  · obtain ⟨log, traces, hdeliver⟩ := perform_deliver
      { request := values, explain := [], allowed := true, selection, enforced := false } e
    use log, traces
    simp only [henabled, Bool.not_false, if_true, perform_bind, hdeliver]
    cases delivery e.sink selection <;> rfl

/-- An enforcer that does not remember a request answers the verdict. -/
theorem perform_enforce_new
    {request : List Value} {e : Enforcer} (h : e.remembers request = false) :
  ∃ log traces, (enforce request).perform e
    = ((e.verdict request).map Prod.fst, { e with log, traces })
  := by
  obtain ⟨log, traces, hperform⟩ := perform_enforceEx request e
  use log, traces
  rw [enforce]
  simp only [perform_bind, perform_get, h, Bool.false_eq_true, if_false, hperform]
  cases e.verdict request <;> rfl

/-- A remembered answer is given again. -/
theorem perform_enforce_hit
    {request : List Value} {e : Enforcer} {allowed : Bool} (h : e.remembers request = true)
    (hcached : e.cached? request = some allowed) :
  (enforce request).perform e = (.ok allowed, e)
  := by
  rw [enforce]
  simp only [perform_bind, perform_get, h, if_true, hcached, perform_pure]

/-- A verdict that is not yet remembered is remembered, unless it is a failure. -/
theorem perform_enforce_miss
    {request : List Value} {e : Enforcer} (h : e.remembers request = true)
    (hcached : e.cached? request = none) :
  ∃ log traces, (enforce request).perform e =
    match e.verdict request with
    | .error failure => (.error failure, { e with log, traces })
    | .ok (allowed, _) =>
      (.ok allowed, { e with cache := e.cache ++ [(request, allowed)], log, traces })
  := by
  obtain ⟨log, traces, hperform⟩ := perform_enforceEx request e
  use log, traces
  rw [enforce]
  simp only [perform_bind, perform_get, h, if_true, hcached, hperform]
  rcases e.verdict request with failure | ⟨allowed, explain⟩ <;> rfl

/-- An enforcer that has no answer to a request in memory answers the verdict. -/
theorem enforce_eq_verdict
    {request : List Value} {e : Enforcer}
    (h : e.remembers request = true → e.cached? request = none) :
  ((enforce request).perform e).1 = (e.verdict request).map Prod.fst
  := by
  cases hremembers : e.remembers request with
  | false =>
      obtain ⟨log, traces, hperform⟩ := perform_enforce_new hremembers
      rw [hperform]
  | true =>
      obtain ⟨log, traces, hperform⟩ := perform_enforce_miss hremembers (h hremembers)
      rw [hperform]
      rcases e.verdict request with failure | ⟨allowed, explain⟩ <;> rfl

end Enforcer

end AccessControl
