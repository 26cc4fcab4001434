import AccessControl.Session.Enforcers
import AccessControl.Session.Make
import AccessControl.Session.Models

/-!
# Steps

The steps that a host takes in a session: operations of objects, questions that every
object answers, and steps that are about no object.  After a step the state of the object
may be looked at.
-/

namespace AccessControl

/-- The state of an object as a host sees it. -/
inductive ObjectState where
  | model (policy role : List (String × List Row))
  | source (rows : List StoredRow)
  | graph (links : Nat) (domains : List Value)
  | enforcer (policy role : List (String × List Row))
      (links : List (String × Nat × List Value)) (source : Option (List StoredRow))
      (cache : Option Nat)

/-- A step: the object and its part, the operation and its arguments. -/
structure SessionStep where
  object : Option String := none
  part : Option String := none
  operation : String
  arguments : List Value := []
  keywords : List (String × Value) := []
  deriving Inhabited

namespace Session

/-! ### Objects -/

/-- The text of an object as messages show it. -/
def objectText (object : SessionObject) (m : Option Model) (s : Option Source) : String :=
  match object with
  | .model m => m.shown
  | .source s => s.shown
  | .table f => f.shown
  | .graph g => g.shown
  | .sink .reporting _ => "LoggingTraceSink(logger='contextauthz.trace')"
  | .sink (.failing shown _) _ => shown
  | .sink .collecting _ => "<ListSink object>"
  | .enforcer w => { w.enforcer with model := m.getD ⟨[]⟩, source := s }.shown

/-- The text of the object of a number. -/
def showObject (id : Nat) : SessionAction String := do
  match (← get).objects[id]? with
  | none => return ""
  | some (.enforcer w) =>
    let e ← assemble w
    return objectText (.enforcer w) (some e.model) e.source
  | some object => return objectText object none none

/-- The number of elements of an object. -/
def sizeOf (id : Nat) : SessionAction Nat := do
  match (← get).objects[id]? with
  | some (.graph g) => return g.size
  | some object => throw (.type ("object of type '" ++ object.className ++ "' has no len()"))
  | none => return 0

/-- An object has an element. -/
def hasElement (id : Nat) (v : Value) : SessionAction Bool := do
  match (← get).objects[id]?, v with
  | some (.table f), .text name => return (f.lookup name).isSome
  | some (.table _), v => do
    v.checkKey
    return false
  | some object, _ =>
    throw (.type ("argument of type '" ++ object.className ++ "' is not iterable"))
  | none, _ => return false

/-- A trace as a value. -/
def traceValue (t : Trace) : Value :=
  .mapping [("request", .list t.request), ("explain", Value.texts t.explain),
    ("allowed", .bool t.allowed), ("sections", Enforcer.selectionValue t.selection),
    ("enforced", .bool t.enforced), ("duration_ok", .bool true)]

/-- Takes the traces that a sink holds. -/
def takeTraces (id : Nat) : SessionAction Value := do
  let (s, traces) ← sinkAt id
  store id (.sink s [])
  return .list (traces.map traceValue)

/-- The operation of an object. -/
def operation? (id : Nat) (object : SessionObject) (name : String) : Option Operation :=
  match object with
  | .model _ => modelOperation? id name
  | .source s => sourceOperation? id s.className name
  | .table _ => tableOperation? id name
  | .graph _ => graphOperation? id name
  | .sink .. => none
  | .enforcer w => enforcerOperation? id w.enforcer.kind name

/-- Asks something of the object of a number. -/
def ask (id : Nat) (step : SessionStep) : SessionAction Answer := do
  match step.operation, step.arguments with
  | "repr", _ => return .text (← showObject id)
  | "len", _ => return .value (.int (← sizeOf id))
  | "contains", [v] => return .bool (← hasElement id v)
  | "events", _ => return .value (← takeTraces id)
  | name, arguments =>
    match (← get).objects[id]? with
    | none => return .nothing
    | some object =>
      match operation? id object name with
      | some o => o.call arguments step.keywords
      | none => throw (.ofHost .missingAttribute
          ("'" ++ object.className ++ "' object has no attribute '" ++ name ++ "'"))

/-- The part of an object: its model, or the role graph of a key. -/
def partOf (id : Nat) (part : String) : SessionAction Nat := do
  if part = "model" then return (← wiringAt id).model
  else graphIdOf id (.text (String.ofList (part.toList.drop 3)))

/-! ### Steps about no object -/

/-- The fields of a report that hosts look at, in order. -/
def reportFields : List String := ["enforced", "enforcer_id", "explain", "rows", "sections"]

/-- A report as a value. -/
def eventValue (event : LogEvent) : Value :=
  let fields := reportFields.filterMap fun name =>
    (event.extra.lookup name).map fun v => (name, v)
  .list [.text event.level.name, .text event.source, .text event.message, .mapping fields,
    (event.exception.map Value.text).getD .none]

/-- Takes the reports that were kept. -/
def takeLog : SessionAction Value := do
  let s ← get
  set { s with log := [] }
  return .list (s.log.map eventValue)

/-- The place of a file of the session. -/
def locate (s : Session) (name : String) : Location := .ofText (s.files.root ++ "/" ++ name)

/-- The result of a file operation. -/
def ofHost {α : Type} : Except HostError α → Except Failure α
  | .ok a => .ok a
  | .error error => .error (.host error)

/-- All names reached from a value through the role graphs that some values refer to.  The
graphs are asked in order, the first of them before the next is looked at. -/
def closureThrough (graphs : List Value) (reverse : Bool) (domain seed : Value) :
    SessionAction Answer := do
  let attributeName := if reverse then "get_users" else "get_roles"
  let graphAsked := fun v => do
    return (← graphOf v attributeName).2
  match graphs with
  | [] => return .texts []
  | first :: rest =>
    let g ← graphAsked first
    g.checkLookup seed (RoleGraph.domainOf domain)
    let graphs := g :: (← rest.mapM graphAsked)
    let names ← RoleGraph.closureOf graphs reverse domain seed
    return .value (.list (names.map (RoleGraph.valueIn graphs)))

/-- All names reached from a name through some role graphs. -/
def closureOperation : Operation :=
  ⟨{ name := "implicit_closure", required := ["seed", "role_managers"],
     named := ["reverse", "domain"] }, fun a => do
    let reverse := ((a.get? "reverse").getD (.bool false)).isTruthy
    closureThrough (← a.items "role_managers") reverse (domainArgument a) (a.get "seed")⟩

/-- Takes a step that is about no object. -/
def freeStep (step : SessionStep) : SessionAction Answer := do
  let s ← get
  match step.operation, step.arguments with
  | "logs", _ => return .value (← takeLog)
  | "read_file", [.text name] => return .text (← ofHost (s.files.textAt (s.locate name)))
  | "write_file", [.text name, .text text] => do
    let bytes := Utf8.encode text
    set { s with files := ← ofHost (s.files.writeBytes (s.locate name) bytes) }
    return .nothing
  | "make_dir", [.text name] => do
    set { s with files := ← ofHost (s.files.makeFolder (s.locate name)) }
    return .nothing
  | "list_files", _ => return .texts s.files.names
  | "implicit_closure", arguments => closureOperation.call arguments step.keywords
  | _, _ => return .nothing

/-- Takes a step. -/
def take (step : SessionStep) : SessionAction Answer := do
  match step.object with
  | none => freeStep step
  | some name =>
    let id ← find name
    match step.part with
    | none => ask id step
    | some part => ask (← partOf id part) step

/-! ### States -/

/-- The role graphs of an enforcer as a host sees them. -/
def linksOf (graphs : RoleGraphs) : List (String × Nat × List Value) :=
  graphs.map fun (key, g) => (key, g.size, g.domains.map g.valueOf)

/-- The rows of a source in memory. -/
def rowsOf? : Source → Option (List StoredRow)
  | .memory rows => some rows
  | _ => none

/-- The state of the object of a number. -/
def stateAt (id : Nat) : SessionAction (Option ObjectState) := do
  match (← get).objects[id]? with
  | some (.model m) => return some (.model (m.snapshot .policy) (m.snapshot .role))
  | some (.source s) => return (rowsOf? s).map .source
  | some (.graph g) => return some (.graph g.size (g.domains.map g.valueOf))
  | some (.enforcer w) =>
    let e ← assemble w
    return some (.enforcer (e.model.snapshot .policy) (e.model.snapshot .role) (linksOf e.graphs)
      (e.source.bind rowsOf?) (if e.kind == .cached then some e.cache.length else none))
  | _ => return none

/-- The state of the object that a step is about. -/
def stateAfter (step : SessionStep) : SessionAction (Option ObjectState) := do
  match step.object with
  | none => return none
  | some name => stateAt (← find name)

end Session

end AccessControl
