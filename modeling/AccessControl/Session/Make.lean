import AccessControl.Session.Argument

/-!
# Making objects

How a host makes the objects of a session.
-/

namespace AccessControl

namespace DepthLimit

/-- The failure of a limit that allows no link. -/
def tooSmall : Failure := .ofHost .value "max_hierarchy_level must be >= 1"

/-- The least integer not below a number that is positive. -/
def ceiling (x : Binary64) : Nat :=
  let n := (x.truncate.getD 0).toNat
  if x.isIntegral then n else n + 1

/-- More levels than a chain of roles can have. -/
def unlimited : Nat := tenPow 18

/-- The limit that a value gives: a chain goes on while its level is less. -/
def ofValue (v : Value) : Except Failure DepthLimit :=
  match v.asInt?, v.real? with
  | some n, _ => if n < 1 then .error tooSmall else .ok ⟨n.toNat, v.display⟩
  | none, some x =>
    if Binary64.orderInt 1 x == some .gt then .error tooSmall
    else
      .ok ⟨if x.isNaN then 0 else if x.isInfinite then unlimited else ceiling x, x.toText⟩
  | none, none =>
    .error (.type ("'<' not supported between instances of '" ++ v.kind ++ "' and 'int'"))

end DepthLimit

namespace Selection

/-- The parameters of a selection. -/
def signature : Signature :=
  { name := "EnforceContext.__init__", optional := ["r_type", "p_type", "e_type", "m_type"],
    implicit := 1 }

/-- The selection of some names in order; those left out are the usual ones. -/
def ofArguments (arguments : List Value) : Except Failure Selection := do
  let a ← signature.bind arguments []
  let name := fun parameter usual => (a.get? parameter).getD (.text usual)
  return ⟨name "r_type" "r", name "p_type" "p", name "e_type" "e", name "m_type" "m"⟩

end Selection

namespace Session

/-- Gives an object a name. -/
def bindName (name : String) (id : Nat) : SessionAction Unit :=
  modify fun s => { s with names := (name, id) :: s.names }

/-- The object of a name. -/
def find (name : String) : SessionAction Nat := do
  match (← get).names.lookup name with
  | some id => return id
  | none => throw (.ofHost .key (quoted name))

/-- Makes a model that is read from something. -/
def makeModel (read : Except Failure Model × List LogEvent) : SessionAction Nat := do
  keep read.2
  let m ← read.1
  allocate (.model m)

/-- Makes a model of a text. -/
def makeModelOfText (text : String) : SessionAction Nat := makeModel (Model.ofText text)

/-- Makes a model of a file. -/
def makeModelOfFile (path : String) : SessionAction Nat := do
  makeModel (Model.ofFile (← get).files path)

/-- The stored row of some values, each written as text. -/
def storedRow (values : List Value) : StoredRow := values.map fun v => .text (strip v.display)

/-- Makes a source in memory of a text of policy lines or of rows. -/
def makeMemory (source : Option Value) : SessionAction Nat := do
  let s ← match source with
    | none => pure (Source.ofRows [])
    | some (.text text) => liftM (Source.ofText text)
    | some v => do
      let rows ← v.itemsOfItems
      pure (Source.ofRows (rows.map storedRow))
  allocate (.source s)

/-- Makes a source of a file. -/
def makeFile (path : String) : SessionAction Nat := allocate (.source (.file (.ofText path)))

/-- Makes a role graph. -/
def makeGraph (limit : Option Value) (names domains : Value) : SessionAction Nat := do
  let limit ← match limit with
    | none => pure ({} : DepthLimit)
    | some v => liftM (DepthLimit.ofValue v)
  let nameMatcher ← nameMatcherOf names
  let domainMatcher ← nameMatcherOf domains
  allocate (.graph { limit, nameMatcher, domainMatcher })

/-- The table of some functions of the host. -/
def tableOf : List (String × Value) → SessionAction Functions
  | [] => return []
  | (name, v) :: rest => do
    let f ← hostFunction? v
    let others ← tableOf rest
    return (f.map fun f => (name, f)).toList ++ others

/-- Makes a function table. -/
def makeTable (standard : Bool) (functions : List (String × Value)) : SessionAction Nat := do
  if standard then allocate (.table Functions.standard)
  else allocate (.table (← tableOf functions))

/-- The kind of enforcer of a class. -/
def kindOfClass (name : String) : EnforcerKind :=
  if name = "CoreEnforcer" then .core
  else if name = "ManagementEnforcer" then .management
  else if name = "CachedEnforcer" then .cached
  else .full

/-- The failure of a value that is no path. -/
def notPath (v : Value) : Failure :=
  .type ("expected str, bytes or os.PathLike object, not " ++ v.kind)

/-- The model that a value refers to or whose path it is. -/
def modelArgument (v : Value) : SessionAction Nat := do
  match v, ← objectOf? v with
  | _, some (id, .model _) => return id
  | .text path, _ => makeModelOfFile path
  | v, _ => throw (notPath v)

/-- The source that a value refers to or whose path it is. -/
def sourceArgument (v : Value) : SessionAction (Option Nat) := do
  match v, ← objectOf? v with
  | _, some (id, .source _) => return some id
  | .none, _ => return none
  | .text path, _ => return some (← makeFile path)
  | v, _ => throw (notPath v)

/-- The sink that a value gives, if any, and its number if it is an object.  What a function
does with traces is not seen, and any other value cannot be called. -/
def sinkArgument (v : Value) : SessionAction (Option Sink × Option Nat) := do
  match v, ← objectOf? v with
  | _, some (id, .sink s _) => return (some s, some id)
  | .none, _ => return (none, none)
  | .function _, _ => return (some .collecting, none)
  | v, _ => return (some (.failing v.shown HostErrorKind.type.name), none)

/-- Makes an enforcer. -/
def makeEnforcer (className : String) (model source : Value)
    (fields : Option (List (String × Value))) (sink tag : Value) : SessionAction Nat := do
  let config ← match fields with
    | none => pure ({} : Config)
    | some fields => liftM (Config.ofFields fields)
  let (sink, sinkId) ← sinkArgument sink
  let files := (← get).files
  let e := Enforcer.initial (kindOfClass className) config sink tag files
  let model ← modelArgument model
  let m ← modelAt model
  let w : Wiring := { enforcer := e, model, sink := sinkId }
  let whole ← assemble w
  match (Enforcer.setModel m).run.run whole with
  | (.error failure, e) =>
    keep e.log
    throw failure
  | (.ok (), e) =>
    let w ← dismantle w e
    let id ← allocate (.enforcer w)
    match ← sourceArgument source with
    | none => return id
    | some s =>
      let kept ← sourceAt s
      store id (.enforcer
        { w with source := some s, enforcer := { w.enforcer with source := some kept } })
      onEnforcer id Enforcer.loadPolicy
      return id

end Session

end AccessControl
