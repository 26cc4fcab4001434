import AccessControl.Config.Basic
import AccessControl.Model.Links
import AccessControl.Model.Priority
import AccessControl.Pattern.Table
import AccessControl.Policy.Edit
import AccessControl.Roles.Question
import AccessControl.Roles.Relation

/-!
# Enforcers

An enforcer owns a model, a role graph for every role definition, the functions that its
matchers call and, if it has one, the source of its rows.  Its operations are actions:
they may fail, and what they changed before a failure stays changed.  What an enforcer
reports and the traces that it delivers are collected beside its state.
-/

namespace AccessControl

/-- The record of one decision. -/
structure Trace where
  request : List Value
  explain : Row
  allowed : Bool
  selection : Selection
  enforced : Bool
  deriving Inhabited

/-- Where traces go: they are collected, or reported, or the sink fails with an error of
some class. -/
inductive Sink where
  | collecting
  | reporting
  | failing (shown error : String)
  deriving DecidableEq, Inhabited

/-- The kinds of enforcer.  Each offers the operations of those before it. -/
inductive EnforcerKind where
  | core
  | management
  | full
  | cached
  deriving DecidableEq, Inhabited

/-- The name of the class of an enforcer. -/
def EnforcerKind.name : EnforcerKind → String
  | .core => "CoreEnforcer"
  | .management => "ManagementEnforcer"
  | .full => "Enforcer"
  | .cached => "CachedEnforcer"

/-- An enforcer.  `enabled` is its switch as the host has set it, `cache` holds decisions
by request, and `files` are the files that it can reach. -/
structure Enforcer where
  kind : EnforcerKind := .full
  tag : Value := .none
  config : Config := {}
  model : Model := ⟨[]⟩
  graphs : RoleGraphs := []
  functions : Functions := Functions.standard
  source : Option Source := none
  sink : Option Sink := none
  enabled : Value := .bool true
  autoSave : Bool := true
  autoBuild : Bool := true
  cacheEnabled : Bool := true
  cache : List (List Value × Bool) := []
  files : Files := {}
  log : List LogEvent := []
  traces : List Trace := []

/-- An operation of an enforcer. -/
abbrev Action (α : Type) := ExceptT Failure (StateM Enforcer) α

namespace Enforcer

/-! ### Reports -/

/-- Adds to the reports. -/
def reportAll (events : List LogEvent) : Action Unit :=
  modify fun e => { e with log := e.log ++ events }

/-- Reports an event of the enforcer itself, with its tag. -/
def report (level : LogLevel) (message : String) (extra : List (String × Value)) : Action Unit := do
  let e ← get
  let tag := if e.tag.isTruthy then [("enforcer_id", e.tag)] else []
  reportAll [{ level, source := "contextauthz.enforcer.core", message, extra := extra ++ tag }]

/-- The texts of some values with commas between them. -/
def listed (values : List Value) : String := Value.commas (values.map Value.display)

/-- The names of the definitions of a decision by kind. -/
def selectionEntries (s : Selection) : List (String × Value) :=
  [("r", s.request), ("p", s.policy), ("e", s.effect), ("m", s.matcher)]

/-- The definitions of a decision by kind. -/
def selectionValue (s : Selection) : Value := .mapping (selectionEntries s)

/-- The names of a selection that the record of a decision rejects: those that are no
texts. -/
def selectionIssues (s : Selection) : List Issue :=
  (selectionEntries s).filterMap fun (key, v) =>
    match v with
    | .text _ => none
    | _ => some ⟨["sections", key], "string_type", "Input should be a valid string"⟩

/-- The text that reports a decision. -/
def decisionText (request : List Value) (allowed : Bool) : String :=
  "Request: " ++ listed request ++ " ---> " ++ Value.boolText allowed

/-- The report of a trace. -/
def traceEvent (t : Trace) : LogEvent :=
  { level := .info, source := "contextauthz.trace", message := decisionText t.request t.allowed
    extra := [("explain", Value.texts t.explain), ("sections", selectionValue t.selection),
      ("enforced", .bool t.enforced)] }

/-- Hands a trace to a sink.  A sink that fails is reported. -/
def handOver (t : Trace) : Sink → Action Unit
  | .collecting => modify fun e => { e with traces := e.traces ++ [t] }
  | .reporting => reportAll [traceEvent t]
  | .failing shown error =>
    reportAll [{ level := .error, source := "contextauthz.trace", exception := some error
                 message := "Enforcement trace sink " ++ shown ++ " failed" }]

/-- Delivers a trace if there is a sink.  The names of its definitions must be texts. -/
def deliver (t : Trace) : Action Unit := do
  match (← get).sink with
  | none => return ()
  | some s =>
    let issues := selectionIssues t.selection
    if issues.isEmpty then handOver t s else throw (.rejected issues)

/-! ### Changes -/

/-- Forgets what was derived from the state before a change. -/
def invalidate : Action Unit := modify fun e => { e with cache := [] }

/-- Builds the role graphs anew from the role rows. -/
def relink : Action Unit := do
  let e ← get
  modify fun e => { e with graphs := e.model.link e.graphs }
  reportAll (e.model.linkEvents e.graphs)

/-- A role graph without links, limited as the configuration says. -/
def emptyGraph (e : Enforcer) : RoleGraph := { limit := .ofNat e.config.maxHierarchyLevel }

/-- The role graphs of a model; those of known keys are taken over. -/
def graphsFor (e : Enforcer) (m : Model) : RoleGraphs :=
  (m.ofKind .role).map fun d => (d.key, (e.graphs.lookup d.key).getD e.emptyGraph)

/-- Replaces the model. -/
def setModel (m : Model) : Action Unit := do
  m.validate
  modify fun e => { e with model := m, graphs := e.graphsFor m }
  reportAll m.lineEvents
  invalidate

/-- The role graph of a key. -/
def graph (key : String) : Action RoleGraph := do
  match (← get).graphs.lookup key with
  | some g => return g
  | none => throw (.model (.noRoleDefinition (.text key)))

/-- Builds the role graphs anew. -/
def buildLinks : Action Unit := do
  relink
  invalidate

/-- Replaces the role graph of a key. -/
def setGraph (key : String) (g : RoleGraph) : Action Unit := do
  modify fun e => { e with graphs := putEntry key g e.graphs }
  if (← get).autoBuild then buildLinks
  invalidate

/-- Registers a function. -/
def register (name : String) (f : MatcherFunction) : Action Unit := do
  let functions ← (← get).functions.register name f
  modify fun e => { e with functions }
  invalidate

/-- Switches enforcement on or off. -/
def enable (switch : Value) : Action Unit := do
  if !switch.isTruthy then
    report .warning "Enforcement disabled: all requests will be allowed" []
  modify fun e => { e with enabled := switch }
  invalidate

/-! ### Source -/

/-- The source, which must be present. -/
def theSource : Action Source := do
  match (← get).source with
  | some s => return s
  | none => throw (.source .missing)

/-- Adds the rows of the source to the model. -/
def readSource (s : Source) : Action Unit := do
  let e ← get
  let (result, m, events) := s.load e.files e.model
  modify fun e => { e with model := m }
  reportAll events
  result

/-- Orders the rows by priority. -/
def sortRows : Action Unit := do
  let (result, m) := (← get).model.sortByPriority
  modify fun e => { e with model := m }
  result

/-- Replaces all rows by those of the source. -/
def loadPolicy : Action Unit := do
  let s ← theSource
  modify fun e => { e with model := e.model.clearRows }
  readSource s
  sortRows
  if (← get).autoBuild then relink
  invalidate
  report .info "Policy loaded" [("rows", .int (← get).model.rowCount)]

/-- Replaces the rows of the source by those of the model. -/
def savePolicy : Action Unit := do
  let s ← theSource
  let e ← get
  let (files, s, events) ← s.save e.files e.model
  modify fun e => { e with files, source := some s }
  reportAll events

/-- Drops all rows and links; the source keeps its rows. -/
def clearPolicy : Action Unit := do
  modify fun e => { e with model := e.model.clearRows }
  relink
  invalidate

/-! ### Making -/

/-- An enforcer before it gets its model. -/
def initial (kind : EnforcerKind) (config : Config) (sink : Option Sink) (tag : Value)
    (files : Files) : Enforcer :=
  { kind, tag, config, files
    sink := if sink.isNone && config.traceEnabled then some .reporting else sink
    enabled := .bool config.enforceEnabled
    autoSave := config.autoSave
    autoBuild := config.autoBuildRoleLinks }

/-- Gives a new enforcer its model and, if it has a source, its rows. -/
def start (m : Model) (source : Option Source) : Action Unit := do
  setModel m
  match source with
  | none => return ()
  | some s =>
    modify fun e => { e with source := some s }
    loadPolicy

/-- The text of an enforcer as messages show it. -/
def shown (e : Enforcer) : String :=
  e.kind.name ++ "(model=" ++ e.model.shown ++ ", adapter="
    ++ ((e.source.map Source.shown).getD Value.none.shown) ++ ", enabled=" ++ e.enabled.display
    ++ ")"

end Enforcer

end AccessControl
