import AccessControl.Enforcer.Roles
import AccessControl.Model.File

/-!
# Sessions

Objects that a host makes and that share parts: an enforcer's model, role graphs, source
and sink are objects of their own, which the host may also use directly.  An object is
known by its number.  For an operation an enforcer is put together from its parts, and
what becomes of them is put back.
-/

namespace AccessControl

/-- An enforcer with the numbers of its parts. -/
structure Wiring where
  enforcer : Enforcer
  model : Nat
  graphs : List (String × Nat) := []
  source : Option Nat := none
  sink : Option Nat := none

/-- An object of a session. -/
inductive SessionObject where
  | model (m : Model)
  | source (s : Source)
  | table (functions : Functions)
  | graph (g : RoleGraph)
  | sink (s : Sink) (traces : List Trace)
  | enforcer (w : Wiring)

/-- The name of the class of an object. -/
def SessionObject.className : SessionObject → String
  | .model _ => "Model"
  | .source s => s.className
  | .table _ => "FunctionMap"
  | .graph _ => "RoleManager"
  | .sink .reporting _ => "LoggingTraceSink"
  | .sink (.failing ..) _ => "BrokenSink"
  | .sink .collecting _ => "ListSink"
  | .enforcer w => w.enforcer.kind.name

/-- A session: its objects, their names, the files, the reports that are kept, the
functions that the host offers, and how many `nan`s it has given. -/
structure Session where
  objects : List SessionObject := []
  names : List (String × Nat) := []
  files : Files := {}
  log : List LogEvent := []
  logLevel : Option LogLevel := none
  host : Functions := []
  nans : Nat := 0

/-- An operation of a session. -/
abbrev SessionAction (α : Type) := ExceptT Failure (StateM Session) α

namespace Session

/-! ### Objects -/

/-- A reference to an object. -/
def handle (id : Nat) : SessionAction Value := do
  match (← get).objects[id]? with
  | some object => return .handle object.className id
  | none => return .none

/-- Adds an object; the result is its number. -/
def allocate (object : SessionObject) : SessionAction Nat := do
  let s ← get
  set { s with objects := s.objects ++ [object] }
  return s.objects.length

/-- A `nan` of the host that is none of those before. -/
def newNaN : SessionAction Value := do
  let s ← get
  set { s with nans := s.nans + 1 }
  return .nan s.nans

/-- Replaces the object of a number. -/
def store (id : Nat) (object : SessionObject) : SessionAction Unit :=
  modify fun s => { s with objects := s.objects.set id object }

/-- Keeps the reports of the level asked for. -/
def keep (events : List LogEvent) : SessionAction Unit :=
  modify fun s =>
    match s.logLevel with
    | none => s
    | some level =>
      { s with log := s.log ++ events.filter fun event => level.rank ≤ event.level.rank }

/-- The failure of a number under which there is no object of the right kind. -/
def wrongObject (what : String) : Failure := .type ("no " ++ what)

/-- The model of a number. -/
def modelAt (id : Nat) : SessionAction Model := do
  match (← get).objects[id]? with
  | some (.model m) => return m
  | _ => throw (wrongObject "Model")

/-- The source of a number. -/
def sourceAt (id : Nat) : SessionAction Source := do
  match (← get).objects[id]? with
  | some (.source s) => return s
  | _ => throw (wrongObject "Adapter")

/-- The role graph of a number. -/
def graphAt (id : Nat) : SessionAction RoleGraph := do
  match (← get).objects[id]? with
  | some (.graph g) => return g
  | _ => throw (wrongObject "RoleManager")

/-- The function table of a number. -/
def tableAt (id : Nat) : SessionAction Functions := do
  match (← get).objects[id]? with
  | some (.table f) => return f
  | _ => throw (wrongObject "FunctionMap")

/-- The sink of a number, with the traces that it holds. -/
def sinkAt (id : Nat) : SessionAction (Sink × List Trace) := do
  match (← get).objects[id]? with
  | some (.sink s traces) => return (s, traces)
  | _ => throw (wrongObject "TraceSink")

/-- The enforcer of a number. -/
def wiringAt (id : Nat) : SessionAction Wiring := do
  match (← get).objects[id]? with
  | some (.enforcer w) => return w
  | _ => throw (wrongObject "Enforcer")

/-- The object that a value refers to, with its number. -/
def objectOf? (v : Value) : SessionAction (Option (Nat × SessionObject)) := do
  match v with
  | .handle _ id => return ((← get).objects[id]?).map fun object => (id, object)
  | _ => return none

/-! ### Enforcers -/

/-- The graphs of the numbers under some keys. -/
def graphsAt : List (String × Nat) → SessionAction RoleGraphs
  | [] => return []
  | (key, id) :: rest => do
    let g ← graphAt id
    let others ← graphsAt rest
    return (key, g) :: others

/-- Puts an enforcer together from its parts. -/
def assemble (w : Wiring) : SessionAction Enforcer := do
  let model ← modelAt w.model
  let graphs ← graphsAt w.graphs
  let source ← w.source.mapM sourceAt
  let files := (← get).files
  return { w.enforcer with model, graphs, source, files, log := [], traces := [] }

/-- Puts role graphs back; one under a new key becomes a new object. -/
def storeGraphs (known : List (String × Nat)) : RoleGraphs → SessionAction (List (String × Nat))
  | [] => return []
  | (key, g) :: rest => do
    let id ← match known.lookup key with
      | some id => do
        store id (.graph g)
        pure id
      | none => allocate (.graph g)
    let others ← storeGraphs known rest
    return (key, id) :: others

/-- Hands traces to the sink of a number. -/
def deliver (sink : Option Nat) (traces : List Trace) : SessionAction Unit := do
  match sink with
  | none => return ()
  | some id =>
    let (s, held) ← sinkAt id
    store id (.sink s (held ++ traces))

/-- Puts the parts of an enforcer back; the result holds the numbers of its parts. -/
def dismantle (w : Wiring) (e : Enforcer) : SessionAction Wiring := do
  store w.model (.model e.model)
  let graphs ← storeGraphs w.graphs e.graphs
  match w.source, e.source with
  | some id, some s => store id (.source s)
  | _, _ => pure ()
  deliver w.sink e.traces
  modify fun s => { s with files := e.files }
  keep e.log
  return { w with enforcer := { e with log := [], traces := [] }, graphs }

/-- Runs an action of an enforcer. -/
def onEnforcer {α : Type} (id : Nat) (action : Action α) : SessionAction α := do
  let w ← wiringAt id
  let e ← assemble w
  let (result, e) := action.run.run e
  let w ← dismantle w e
  store id (.enforcer w)
  result

/-- Runs an action after which an enforcer has other parts; if it fails, the enforcer
keeps those it has. -/
def rewire (id : Nat) (wire : Wiring → Wiring) (action : Action Unit) : SessionAction Unit := do
  let w ← wiringAt id
  let e ← assemble (wire w)
  match action.run.run e with
  | (.ok (), e) =>
    let w ← dismantle (wire w) e
    store id (.enforcer w)
  | (.error failure, e) =>
    keep e.log
    throw failure

end Session

end AccessControl
