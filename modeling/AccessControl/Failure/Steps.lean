import AccessControl.Failure.Cause

/-!
# Steps that may fail

Steps taken one after the other, over a list, until one of them fails.  What was done
by the steps before a failure stays done.
-/

namespace AccessControl

/-- Takes one step for each element until one fails; the result tells whether all were
taken, and the state that was reached. -/
def runSteps {σ α : Type} (step : σ → α → Except Failure σ) :
    σ → List α → Except Failure Unit × σ
  | s, [] => (.ok (), s)
  | s, a :: rest =>
    match step s a with
    | .ok t => runSteps step t rest
    | .error e => (.error e, s)

end AccessControl
