import AccessControl.Effect.Strategy

/-!
# Reduction

The decision of a strategy over rows that are judged one after the other, in order,
and only until the decision is fixed.
-/

namespace AccessControl

/-- What is known about a row: whether it matches and the effect it carries. -/
structure RowResult where
  matched : Bool
  effect : Effect := .allow
  deriving DecidableEq, Inhabited

/-- A decision, with the position of the row that decided it if there is one. -/
structure Decision where
  allowed : Bool
  index : Option Nat := none
  deriving DecidableEq, Inhabited

/-- The position of the deciding row, or minus one. -/
def Decision.position (d : Decision) : Int :=
  match d.index with
  | some i => i
  | none => -1

namespace Strategy

/-- The row fixes the decision whatever rows follow. -/
def stops (strategy : Strategy) (r : RowResult) : Bool :=
  match strategy with
  | .someAllow | .priority => r.matched
  | .notSomeDeny | .someAllowNotDeny => r.matched && r.effect == .deny

/-- What a row that fixes the decision decides. -/
def decides (strategy : Strategy) (r : RowResult) : Bool :=
  match strategy with
  | .someAllow => true
  | .priority => r.effect == .allow
  | .notSomeDeny | .someAllowNotDeny => false

/-- The decision when no row has fixed it; `allowed` is the first row that matches and
allows. -/
def default (strategy : Strategy) (allowed : Option Nat) : Decision :=
  match strategy, allowed with
  | .someAllowNotDeny, some i => ⟨true, some i⟩
  | .notSomeDeny, _ => ⟨true, none⟩
  | _, _ => ⟨false, none⟩

/-- The decision over the rows from position `i` on, and the number of rows judged by
then. -/
def reduceFrom {α : Type} (strategy : Strategy) (judge : α → Except Failure RowResult) :
    Nat → Option Nat → List α → Except Failure (Decision × Nat)
  | i, allowed, [] => .ok (strategy.default allowed, i)
  | i, allowed, a :: rest => do
    let r ← judge a
    if strategy.stops r then return (⟨strategy.decides r, some i⟩, i + 1)
    else
      let allows := r.matched && r.effect == .allow
      strategy.reduceFrom judge (i + 1) (allowed.or (if allows then some i else none)) rest

/-- The decision over some rows, and the number of rows judged. -/
def reduce {α : Type} (strategy : Strategy) (judge : α → Except Failure RowResult)
    (rows : List α) : Except Failure (Decision × Nat) :=
  strategy.reduceFrom judge 0 none rows

end Strategy

end AccessControl
