import AccessControl.Session.Argument

/-!
# Operations of parts

What a host can ask of a policy source, a role graph and a function table.
-/

namespace AccessControl

namespace Session

/-! ### Sources -/

/-- The result of loading into a value that is no model: it is found out when a row asks
whether there is a definition for it. -/
def withoutModel (target : Value) : Except Failure Unit → Except Failure Unit
  | .error (.source (.noSection ..)) => .error (target.noAttribute "has_section")
  | result => result

/-- Adds the rows of a source to a model. -/
def loadInto (id : Nat) (a : Arguments) : SessionAction Answer := do
  let s ← sourceAt id
  let target := a.get "model"
  match ← objectOf? target with
  | some (number, .model m) =>
    let (result, m, events) := s.load (← get).files m
    store number (.model m)
    keep events
    result
  | _ =>
    let (result, _, events) := s.load (← get).files ⟨[]⟩
    keep events
    withoutModel target result
  return .nothing

/-- Replaces the rows of a source by those of a model. -/
def saveFrom (id : Nat) (a : Arguments) : SessionAction Answer := do
  let s ← sourceAt id
  match s with
  | .bare => throw Source.unsupported
  | s =>
    let (_, m) ← modelOf (a.get "model") "snapshot"
    let (files, s, events) ← s.save (← get).files m
    modify fun session => { session with files }
    store id (.source s)
    keep events
    return .bool true

/-- Changes a source by an operation that may fail. -/
def changeSource (id : Nat) (f : Source → Except Failure (Source × Bool)) :
    SessionAction Bool := do
  let s ← sourceAt id
  let (s, changed) ← f s
  store id (.source s)
  return changed

/-- Changes a source by one rule after the other; the result tells whether any of them
changed it. -/
def changeEach (id : Nat) (f : List Value → Source → Except Failure (Source × Bool)) :
    List Value → SessionAction Bool
  | [] => return false
  | rule :: rest => do
    let row ← rule.spread
    let here ← changeSource id (f row)
    let later ← changeEach id f rest
    return here || later

/-- An edit of a source; one that supports no edits does not look at the arguments. -/
def editSource (id : Nat) (f : SessionAction Bool) : SessionAction Answer := do
  match ← sourceAt id with
  | .memory _ => return .bool (← f)
  | _ => throw Source.unsupported

/-- Replaces a row of a source; the new one is looked at only if the old one is present. -/
def replaceIn (id : Nat) (a : Arguments) : SessionAction Bool := do
  let key := a.get "ptype"
  let old ← (a.get "old_rule").spread
  let (_, present) ← (← sourceAt id).updateRow key old old
  if present then
    let new ← (a.get "new_rule").spread
    changeSource id (·.updateRow key old new)
  else return false

/-- The operations of the source of a number. -/
def sourceOperation? (id : Nat) (className name : String) : Option Operation :=
  let owner := if className = "MemoryAdapter" then "MemoryAdapter" else "Adapter"
  let edit := fun (required : List String) (body : Arguments → SessionAction Bool) =>
    some (Operation.fixed owner name required [] fun a => editSource id (body a))
  match name with
  | "load_policy" => some (Operation.fixed className name ["model"] [] (loadInto id))
  | "save_policy" => some (Operation.fixed className name ["model"] [] (saveFrom id))
  | "add_policy" => edit ["sec", "ptype", "rule"] fun a => do
      let row ← (a.get "rule").spread
      changeSource id (·.addRow (a.get "ptype") row)
  | "add_policies" => edit ["sec", "ptype", "rules"] fun a => do
      let rules ← a.items "rules"
      changeEach id (fun row s => s.addRow (a.get "ptype") row) rules
  | "update_policy" => edit ["sec", "ptype", "old_rule", "new_rule"] (replaceIn id)
  | "remove_policy" => edit ["sec", "ptype", "rule"] fun a => do
      let row ← (a.get "rule").spread
      changeSource id (·.removeRow (a.get "ptype") row)
  | "remove_policies" => edit ["sec", "ptype", "rules"] fun a => do
      let rules ← a.items "rules"
      changeEach id (fun row s => s.removeRow (a.get "ptype") row) rules
  | "remove_filtered_policy" =>
    some (Operation.variadic owner name ["sec", "ptype", "field_index"] fun a =>
      editSource id (changeSource id
        (·.removeWhere (a.get "ptype") (Value.filterOf .ofOptional (a.get "field_index") a.rest))))
  | _ => none

/-! ### Role graphs -/

/-- Changes a role graph by an operation that may fail. -/
def changeGraph {α : Type} (id : Nat) (f : RoleGraph → Except Failure (RoleGraph × α)) :
    SessionAction α := do
  let g ← graphAt id
  let (g, a) ← f g
  store id (.graph g)
  return a

/-- The domain of a parameter that may be left out. -/
def domainArgument (a : Arguments) : Value := (a.get? "domain").getD .none

/-- Names of a role graph as an answer. -/
def namesAnswer (g : RoleGraph) (names : List Name) : Answer :=
  .value (.list (names.map g.valueOf))

/-- The operations of the role graph of a number. -/
def graphOperation? (id : Nat) (name : String) : Option Operation :=
  let fixed := Operation.fixed "RoleManager"
  match name with
  | "add_link" => some ⟨RoleGraph.linkSignature, fun a => do
      changeGraph id fun g => (g.linkBy a).map fun g => (g, ())
      return .nothing⟩
  | "delete_link" => some (fixed name ["name1", "name2"] ["domain"] fun a => do
      return .bool
        (← changeGraph id (·.unlink (a.get "name1") (a.get "name2") (domainArgument a))))
  | "clear" => some (fixed name [] [] fun _ => do
      changeGraph id fun g => .ok (g.clear, ())
      return .nothing)
  | "has_link" => some (fixed name ["name1", "name2"] ["domain"] fun a => do
      return .bool (← (← graphAt id).isLinked (a.get "name1") (a.get "name2") (domainArgument a)))
  | "get_roles" => some (fixed name ["name"] ["domain"] fun a => do
      let g ← graphAt id
      return namesAnswer g (← g.rolesOf (a.get "name") (domainArgument a)))
  | "get_users" => some (fixed name ["name"] ["domain"] fun a => do
      let g ← graphAt id
      return namesAnswer g (← g.usersOf (a.get "name") (domainArgument a)))
  | "get_all_domains" => some (fixed name [] [] fun _ => do
      let g ← graphAt id
      return namesAnswer g g.domains)
  | "add_matching_func" => some (fixed name ["fn"] [] fun a => do
      let m ← nameMatcherOf (a.get "fn")
      changeGraph id fun g => .ok ({ g with nameMatcher := m }, ())
      return .nothing)
  | "add_domain_matching_func" => some (fixed name ["fn"] [] fun a => do
      let m ← nameMatcherOf (a.get "fn")
      changeGraph id fun g => .ok ({ g with domainMatcher := m }, ())
      return .nothing)
  | "print_roles" => some (fixed name [] [] fun _ => do
      keep ((← graphAt id).edgeLines.map fun message =>
        { level := .debug, source := "contextauthz.rbac.role_manager", message })
      return .nothing)
  | _ => none

/-! ### Function tables -/

/-- The function that a value must be. -/
def functionArgument (name v : Value) : SessionAction MatcherFunction := do
  match ← hostFunction? v with
  | some f => return f
  | none => throw (Functions.notCallable name)

/-- A function as a value. -/
def functionValue (name : String) : Value := .function name

/-- The operations of the function table of a number. -/
def tableOperation? (id : Nat) (name : String) : Option Operation :=
  let fixed := Operation.fixed "FunctionMap"
  match name with
  | "add_function" => some (fixed name ["name", "fn"] [] fun a => do
      let f ← functionArgument (a.get "name") (a.get "fn")
      match a.get "name" with
      | .text key =>
        let table ← (← tableAt id).register key f
        store id (.table table)
      | v => v.checkKey
      return .nothing)
  | "get" => some (fixed name ["name"] [] fun a => do
      let table ← tableAt id
      match a.get "name" with
      | .text key => return .value (if (table.lookup key).isSome then functionValue key else .none)
      | v => do
        v.checkKey
        return .nothing)
  | "get_functions" => some (fixed name [] [] fun _ => do
      return .value (.mapping ((← tableAt id).map fun (key, _) => (key, functionValue key))))
  | _ => none

end Session

end AccessControl
