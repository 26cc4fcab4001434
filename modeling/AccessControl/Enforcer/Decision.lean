import AccessControl.Effect.Reduction
import AccessControl.Enforcer.Basic

/-!
# Decisions

How a request is decided: its values are bound to the fields of the request definition,
the matcher is asked about every row of the policy definition in order, and the strategy
of the effect definition combines the rows that match.  Without rows the matcher is asked
once, about a row of empty texts.
-/

namespace AccessControl

/-- The name of the field that holds the effect of a row. -/
def effectField : String := "eft"

/-- The definitions of a decision. -/
structure Frame where
  request : Definition
  policy : Definition
  strategy : Strategy
  matcher : Matcher

namespace Model

/-- The strategy of an effect definition. -/
def strategyOf (m : Model) (key : Value) : Except Failure Strategy := do
  let d ← m.lookUp .effect key
  match d.meaning.strategy? with
  | some s => return s
  | none => .error (.model (.noSection SectionKind.effect.letter key))

/-- The matcher of a matcher definition. -/
def matcherOf (m : Model) (key : Value) : Except Failure Matcher := do
  let d ← m.lookUp .matcher key
  match d.meaning.matcher? with
  | some matcher => return matcher
  | none => .error (.model (.noSection SectionKind.matcher.letter key))

/-- The definitions that a selection names. -/
def frame (m : Model) (s : Selection) : Except Failure Frame := do
  let request ← m.lookUp .request s.request
  let policy ← m.lookUp .policy s.policy
  let strategy ← m.strategyOf s.effect
  let matcher ← m.matcherOf s.matcher
  return { request, policy, strategy, matcher }

end Model

namespace Frame

/-- The rows that the matcher is asked about. -/
def candidates (f : Frame) : List Row :=
  if f.policy.rows.isEmpty then [f.policy.fields.map fun _ => ""] else f.policy.rows

/-- The effect of a row. -/
def effectOf (f : Frame) (row : Row) : Effect :=
  if f.policy.rows.isEmpty then .allow
  else
    match f.policy.fieldIndex? effectField with
    | none => .ofLabel none
    | some i => .ofLabel row[i]?

/-- The bindings of a request and a row. -/
def bindings (f : Frame) (values : List Value) (row : Row) : Sections :=
  [(f.request.key, f.request.fields.zip values),
   (f.policy.key, f.policy.fields.zip (row.map Value.text))]

/-- What is known about a row after the matcher was asked about it. -/
def judge (f : Frame) (functions : Functions) (values : List Value) (row : Row) :
    Except Failure RowResult := do
  let matched ← f.matcher.holds (f.bindings values row) functions
  return ⟨matched, f.effectOf row⟩

/-- The row that explains a decision. -/
def explain (f : Frame) (d : Decision) : Row :=
  match d.index with
  | some i => if f.policy.rows.isEmpty then [] else (f.policy.rows[i]?).getD []
  | none => []

/-- The decision of a request, with the row that explains it. -/
def decide (f : Frame) (functions : Functions) (values : List Value) :
    Except Failure (Bool × Row) := do
  let (d, _) ← f.strategy.reduce (f.judge functions values) f.candidates
  return (d.allowed, f.explain d)

end Frame

namespace Enforcer

/-- The functions that matchers call: those of the table, and one for every role
graph. -/
def allFunctions (e : Enforcer) : Functions :=
  e.graphs.map (fun (key, g) => (key, roleFunction (some g))) ++ e.functions

/-- The selection at the start of a request, and the values that follow it. -/
def splitRequest : List Value → Selection × List Value
  | .selection r p e m :: values => (⟨r, p, e, m⟩, values)
  | values => ({}, values)

/-- The decision of a request by the matcher. -/
def decide (e : Enforcer) (s : Selection) (values : List Value) : Except Failure (Bool × Row) := do
  let f ← e.model.frame s
  if values.length ≠ f.request.arity then
    .error (.arity f.request.arity values.length f.request.key)
  else f.decide e.allFunctions values

/-- Decides a request, with the row that explains the decision. -/
def enforceEx (request : List Value) : Action (Bool × Row) := do
  let e ← get
  let (selection, values) := splitRequest request
  if !e.enabled.isTruthy then
    deliver { request := values, explain := [], allowed := true, selection, enforced := false }
    return (true, [])
  else
    let (allowed, explain) ← e.decide selection values
    report .debug (decisionText values allowed) [("explain", Value.texts explain)]
    deliver { request := values, explain, allowed, selection, enforced := true }
    return (allowed, explain)

/-! ### Cache -/

/-- Two values are of one kind, and one and the same or equal. -/
def sameValue (v w : Value) : Bool := v.kind == w.kind && v == w

/-- Two requests have the same values, of the same kinds. -/
def sameRequest : List Value → List Value → Bool
  | [], [] => true
  | v :: rest, w :: others => sameValue v w && sameRequest rest others
  | _, _ => false

/-- The remembered decision of a request. -/
def cached? (e : Enforcer) (request : List Value) : Option Bool :=
  (e.cache.find? fun entry => sameRequest entry.1 request).map (·.2)

/-- Decisions of a request are remembered. -/
def remembers (e : Enforcer) (request : List Value) : Bool :=
  e.kind == .cached && e.cacheEnabled && Value.areKeys request

/-- Decides a request. -/
def enforce (request : List Value) : Action Bool := do
  let e ← get
  if e.remembers request then
    match e.cached? request with
    | some allowed => return allowed
    | none =>
      let (allowed, _) ← enforceEx request
      modify fun e => { e with cache := e.cache ++ [(request, allowed)] }
      return allowed
  else
    let (allowed, _) ← enforceEx request
    return allowed

/-- Decides requests one after the other. -/
def enforceAll : List (List Value) → Action (List Bool)
  | [] => return []
  | request :: rest => do
    let allowed ← enforce request
    let others ← enforceAll rest
    return allowed :: others

/-- Switches the cache on or off; a cache that is switched off forgets everything. -/
def enableCache (switch : Value) : Action Unit := do
  modify fun e => { e with cacheEnabled := switch.isTruthy }
  if !switch.isTruthy then invalidate

end Enforcer

end AccessControl
