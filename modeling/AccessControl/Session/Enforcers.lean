import AccessControl.Session.Parts

/-!
# Operations of enforcers

What a host can ask of an enforcer.  Every kind of enforcer answers the operations of the
kinds before it.
-/

namespace AccessControl

namespace Session

/-! ### Deciding -/

/-- A decision with the row that explains it. -/
def explained (result : Bool × Row) : Answer :=
  .value (.tuple [.bool result.1, Value.texts result.2])

/-- The class in which deciding a request is defined. -/
def decidingClass (kind : EnforcerKind) : String :=
  if kind == .cached then "contextauthz.enforcer.cached.CachedEnforcer"
  else "contextauthz.enforcer.core.CoreEnforcer"

/-- The requests that some values give, up to the first value that gives none. -/
def requestsOf : List Value → List (List Value) × Option Value
  | [] => ([], none)
  | v :: rest =>
    match v.items with
    | .error _ => ([], some v)
    | .ok request =>
      let (requests, stray) := requestsOf rest
      (request :: requests, stray)

/-- Decides requests one after the other, each given by a value. -/
def decideAll (id : Nat) (kind : EnforcerKind) (values : List Value) :
    SessionAction (List Value) := do
  let (requests, stray) := requestsOf values
  let allowed ← onEnforcer id (Enforcer.enforceAll requests)
  match stray with
  | none => return allowed.map .bool
  | some v =>
    throw (.type (decidingClass kind ++ ".enforce() argument after * must be an iterable, not "
      ++ v.kind))

/-! ### Parts -/

/-- The role graph of a key. -/
def graphIdOf (id : Nat) (key : Value) : SessionAction Nat := do
  let w ← wiringAt id
  key.checkKey
  match key.text?.bind fun key => w.graphs.lookup key with
  | some graph => return graph
  | none => throw (.model (.noRoleDefinition key))

/-- The key of a role definition, which may be left out. -/
def keyArgument (a : Arguments) : Value := (a.get? "key").getD (.text Enforcer.roleKey)

/-- Gives an enforcer another role graph. -/
def replaceGraph (id : Nat) (a : Arguments) : SessionAction Answer := do
  let key := keyArgument a
  key.checkKey
  let (graph, g) ← graphOf (a.get "rm") "clear"
  rewire id (fun w => { w with graphs := putEntry key.display graph w.graphs })
    (Enforcer.setGraph key.display g)
  return .nothing

/-- Registers a function of the host with an enforcer. -/
def registerFunction (id : Nat) (a : Arguments) : SessionAction Answer := do
  let f ← functionArgument (a.get "name") (a.get "fn")
  match a.get "name" with
  | .text key => onEnforcer id (Enforcer.register key f)
  | v =>
    v.checkKey
    onEnforcer id Enforcer.invalidate
  return .nothing

/-- The source that a value refers to; any other value but none takes the place of one. -/
def placeSource (v : Value) : SessionAction (Option Nat) := do
  match v, ← objectOf? v with
  | _, some (id, .source _) => return some id
  | .none, _ => return none
  | v, _ => return some (← allocate (.source (.foreign v)))

/-- The source of an enforcer as a value. -/
def sourceValue (id : Nat) : SessionAction Value := do
  match (← wiringAt id).source with
  | none => return .none
  | some source =>
    match ← sourceAt source with
    | .foreign v => return v
    | _ => handle source

/-- The operations of every enforcer. -/
def coreOperation? (id : Nat) (kind : EnforcerKind) (name : String) : Option Operation :=
  let fixed := Operation.fixed "CoreEnforcer"
  let action := fun (act : Action Unit) => some (fixed name [] [] fun _ => do
    onEnforcer id act
    return .nothing)
  match name with
  | "enforce" | "enforce_async" =>
    let owner := if kind == .cached && name == "enforce" then "CachedEnforcer" else "CoreEnforcer"
    some (Operation.variadic owner name [] fun a => do
      return .bool (← onEnforcer id (Enforcer.enforce a.rest)))
  | "enforce_ex" | "enforce_ex_async" => some (Operation.variadic "CoreEnforcer" name [] fun a => do
      return explained (← onEnforcer id (Enforcer.enforceEx a.rest)))
  | "batch_enforce" | "batch_enforce_async" => some (fixed name ["requests"] [] fun a => do
      let requests ← a.items "requests"
      return .value (.list (← decideAll id kind requests)))
  | "get_model" => some (fixed name [] [] fun _ => do
      return .value (← handle (← wiringAt id).model))
  | "set_model" => some (fixed name ["model"] [] fun a => do
      let (model, m) ← modelOf (a.get "model") "validate"
      rewire id (fun w => { w with model }) (Enforcer.setModel m)
      return .nothing)
  | "get_role_manager" => some (fixed name [] ["key"] fun a => do
      return .value (← handle (← graphIdOf id (keyArgument a))))
  | "set_role_manager" => some (fixed name ["rm"] ["key"] (replaceGraph id))
  | "build_role_links" => action Enforcer.buildLinks
  | "add_function" => some (fixed name ["name", "fn"] [] (registerFunction id))
  | "get_adapter" => some (fixed name [] [] fun _ => do
      return .value (← sourceValue id))
  | "set_adapter" => some (fixed name ["adapter"] [] fun a => do
      let w ← wiringAt id
      let source ← placeSource (a.get "adapter")
      let s ← source.mapM sourceAt
      store id (.enforcer { w with source, enforcer := { w.enforcer with source := s } })
      return .nothing)
  | "load_policy" | "load_policy_async" => action Enforcer.loadPolicy
  | "save_policy" => some (fixed name [] [] fun _ => do
      onEnforcer id Enforcer.savePolicy
      return .bool true)
  | "clear_policy" => action Enforcer.clearPolicy
  | "is_enabled" => some (fixed name [] [] fun _ => do
      return .value (← wiringAt id).enforcer.enabled)
  | "enable_enforce" => some (fixed name [] ["enabled"] fun a => do
      onEnforcer id (Enforcer.enable ((a.get? "enabled").getD (.bool true)))
      return .nothing)
  | "enable_auto_save" => some (fixed name [] ["auto_save"] fun a => do
      let on := ((a.get? "auto_save").getD (.bool true)).isTruthy
      onEnforcer id (modify fun e => { e with autoSave := on })
      return .nothing)
  | "enable_auto_build_role_links" => some (fixed name [] ["auto_build_role_links"] fun a => do
      let on := ((a.get? "auto_build_role_links").getD (.bool true)).isTruthy
      onEnforcer id (modify fun e => { e with autoBuild := on })
      return .nothing)
  | _ => none

/-! ### Rows -/

/-- An operation on the rows of a kind, by its name without the parts that say which
definition it is about. -/
def rowOperation? (id : Nat) (kind : SectionKind) (key : Option String) (owner name verb : String) :
    Option Operation :=
  let named := if key.isNone then ["ptype"] else []
  let given := fun (a : Arguments) =>
    match key with
    | some key => .text key
    | none => a.get "ptype"
  let keyOf := fun (a : Arguments) => Model.keyOf kind (given a)
  let truth := fun (act : Action Bool) => do
    return Answer.bool (← onEnforcer id act)
  let model := do
    modelAt (← wiringAt id).model
  match verb with
  | "get" => some (Operation.fixed owner name named [] fun a => do
      return .rows (← (← model).rows kind (← keyOf a)))
  | "get_filtered" => some (Operation.variadic owner name (named ++ ["field_index"]) fun a => do
      let f := Value.filterOf .ofValue (a.get "field_index") a.rest
      return .rows (← (← model).rowsWhere kind (← keyOf a) f))
  | "has" => some (Operation.variadic owner name named fun a => do
      return .bool (← hasRule (← model) kind (given a) (.ok (Value.rowOf a.rest))))
  | "add" => some (Operation.variadic owner name named fun a => do
      truth (Enforcer.addRow kind (← keyOf a) (Value.rowOf a.rest)))
  | "add_all" => some (Operation.fixed owner name (named ++ ["rules"]) [] fun a => do
      let rows ← (a.get "rules").itemsOfItems
      truth (Enforcer.addRows kind (← keyOf a) rows))
  | "update" => some (Operation.fixed owner name (named ++ ["old_rule", "new_rule"]) [] fun a => do
      let key ← keyOf a
      let _ ← (← model).get kind key
      truth (Enforcer.updateRow kind key (← a.items "old_rule") (← a.items "new_rule")))
  | "remove" => some (Operation.variadic owner name named fun a => do
      truth (Enforcer.removeRow kind (← keyOf a) (Value.rowOf a.rest)))
  | "remove_all" => some (Operation.fixed owner name (named ++ ["rules"]) [] fun a => do
      let rows ← (a.get "rules").itemsOfItems
      truth (Enforcer.removeRows kind (← keyOf a) rows))
  | "remove_filtered" => some (Operation.variadic owner name (named ++ ["field_index"]) fun a => do
      let f := Value.filterOf .ofValue (a.get "field_index") a.rest
      truth (Enforcer.removeWhere kind (← keyOf a) f))
  | _ => none

/-- The definition and the verb of an operation on rows: the kind, the key unless it is an
argument, and the verb. -/
def rowVerbs : List (String × SectionKind × Option String × String) :=
  [("get_policy", .policy, some "p", "get"), ("get_named_policy", .policy, none, "get"),
   ("get_filtered_policy", .policy, some "p", "get_filtered"),
   ("get_filtered_named_policy", .policy, none, "get_filtered"),
   ("get_grouping_policy", .role, some "g", "get"),
   ("get_named_grouping_policy", .role, none, "get"),
   ("get_filtered_grouping_policy", .role, some "g", "get_filtered"),
   ("get_filtered_named_grouping_policy", .role, none, "get_filtered"),
   ("has_policy", .policy, some "p", "has"), ("has_named_policy", .policy, none, "has"),
   ("has_grouping_policy", .role, some "g", "has"),
   ("has_named_grouping_policy", .role, none, "has"),
   ("add_policy", .policy, some "p", "add"), ("add_named_policy", .policy, none, "add"),
   ("add_policies", .policy, some "p", "add_all"),
   ("add_named_policies", .policy, none, "add_all"),
   ("update_policy", .policy, some "p", "update"),
   ("update_named_policy", .policy, none, "update"),
   ("remove_policy", .policy, some "p", "remove"),
   ("remove_named_policy", .policy, none, "remove"),
   ("remove_policies", .policy, some "p", "remove_all"),
   ("remove_named_policies", .policy, none, "remove_all"),
   ("remove_filtered_policy", .policy, some "p", "remove_filtered"),
   ("remove_filtered_named_policy", .policy, none, "remove_filtered"),
   ("add_grouping_policy", .role, some "g", "add"),
   ("add_named_grouping_policy", .role, none, "add"),
   ("add_grouping_policies", .role, some "g", "add_all"),
   ("add_named_grouping_policies", .role, none, "add_all"),
   ("update_grouping_policy", .role, some "g", "update"),
   ("remove_grouping_policy", .role, some "g", "remove"),
   ("remove_named_grouping_policy", .role, none, "remove"),
   ("remove_grouping_policies", .role, some "g", "remove_all"),
   ("remove_named_grouping_policies", .role, none, "remove_all"),
   ("remove_filtered_grouping_policy", .role, some "g", "remove_filtered"),
   ("remove_filtered_named_grouping_policy", .role, none, "remove_filtered")]

/-- The distinct values of a field: the kind, the position, and whether one definition is
an argument. -/
def fieldVerbs : List (String × SectionKind × Nat × Bool) :=
  [("get_all_subjects", .policy, 0, false), ("get_all_named_subjects", .policy, 0, true),
   ("get_all_objects", .policy, 1, false), ("get_all_named_objects", .policy, 1, true),
   ("get_all_actions", .policy, 2, false), ("get_all_named_actions", .policy, 2, true),
   ("get_all_roles", .role, 1, false), ("get_all_named_roles", .role, 1, true)]

/-- The operations of an enforcer that manages rows. -/
def managementOperation? (id : Nat) (name : String) : Option Operation :=
  let fixed := Operation.fixed "ManagementEnforcer"
  let model := do
    modelAt (← wiringAt id).model
  match rowVerbs.lookup name, fieldVerbs.lookup name with
  | some (kind, key, verb), _ => rowOperation? id kind key "ManagementEnforcer" name verb
  | none, some (kind, i, false) => some (fixed name [] [] fun _ => do
      return .texts (← (← model).allValuesAt kind i))
  | none, some (kind, i, true) => some (fixed name ["ptype"] [] fun a => do
      return .texts (← (← model).valuesAt kind (← Model.keyOf kind (a.get "ptype")) i))
  | none, none =>
    if name = "get_field_index" then some (fixed name ["ptype", "field"] [] fun a => do
      let i ← (← model).fieldIndex (← Model.keyOf .policy (a.get "ptype")) (a.get "field")
      return .value (.int i))
    else none

/-! ### Users, roles and domains -/

/-- The operations of an enforcer that knows users, roles and domains. -/
def roleOperation? (id : Nat) (name : String) : Option Operation :=
  let fixed := Operation.fixed "Enforcer"
  let variadic := Operation.variadic "Enforcer"
  let truth := fun (act : Action Bool) => do
    return Answer.bool (← onEnforcer id act)
  let texts := fun (act : Action (List String)) => do
    return Answer.texts (← onEnforcer id act)
  let names := fun (act : Action (List Name)) => do
    return Answer.value (.list (← onEnforcer id do Enforcer.valuesOf (← act)))
  let rows := fun (act : Action (List Row)) => do
    return Answer.rows (← onEnforcer id act)
  match name with
  | "get_roles_for_user" => some (fixed name ["name"] ["domain"] fun a => do
      names (Enforcer.rolesOf (a.get "name") (domainArgument a)))
  | "get_roles_for_user_in_domain" => some (fixed name ["name", "domain"] [] fun a => do
      names (Enforcer.rolesOf (a.get "name") (domainArgument a)))
  | "get_users_for_role" => some (fixed name ["name"] ["domain"] fun a => do
      names (Enforcer.usersOf (a.get "name") (domainArgument a)))
  | "get_users_for_role_in_domain" => some (fixed name ["name", "domain"] [] fun a => do
      names (Enforcer.usersOf (a.get "name") (domainArgument a)))
  | "has_role_for_user" => some (fixed name ["name", "role"] ["domain"] fun a => do
      truth (Enforcer.hasRole (a.get "name") (a.get "role") (domainArgument a)))
  | "add_role_for_user" => some (fixed name ["user", "role"] ["domain"] fun a =>
      truth (Enforcer.addRole (a.get "user") (a.get "role") (a.present? "domain")))
  | "add_role_for_user_in_domain" => some (fixed name ["user", "role", "domain"] [] fun a =>
      truth (Enforcer.addRole (a.get "user") (a.get "role") (a.get? "domain")))
  | "delete_role_for_user" => some (fixed name ["user", "role"] ["domain"] fun a =>
      truth (Enforcer.deleteRoleOf (a.get "user") (a.get "role") (a.present? "domain")))
  | "delete_role_for_user_in_domain" => some (fixed name ["user", "role", "domain"] [] fun a =>
      truth (Enforcer.deleteRoleOf (a.get "user") (a.get "role") (a.get? "domain")))
  | "delete_roles_for_user" => some (fixed name ["user"] ["domain"] fun a =>
      truth (Enforcer.deleteRolesOf (a.get "user") (a.present? "domain")))
  | "delete_roles_for_user_in_domain" => some (fixed name ["user", "domain"] [] fun a =>
      truth (Enforcer.deleteRolesOf (a.get "user") (a.get? "domain")))
  | "delete_user" => some (fixed name ["user"] [] fun a =>
      truth (Enforcer.deleteUser (a.get "user")))
  | "delete_role" => some (fixed name ["role"] [] fun a =>
      truth (Enforcer.deleteRole (a.get "role")))
  | "delete_permission" => some (variadic name [] fun a =>
      truth (Enforcer.deletePermission a.rest))
  | "add_permission_for_user" => some (variadic name ["user"] fun a =>
      truth (Enforcer.addRow .policy Enforcer.policyKey (Value.rowOf (a.get "user" :: a.rest))))
  | "delete_permission_for_user" => some (variadic name ["user"] fun a =>
      truth (Enforcer.removeRow .policy Enforcer.policyKey (Value.rowOf (a.get "user" :: a.rest))))
  | "delete_permissions_for_user" => some (fixed name ["user"] [] fun a =>
      truth (Enforcer.deletePermissionsOf (a.get "user")))
  | "get_permissions_for_user" => some (fixed name ["user"] [] fun a =>
      rows (Enforcer.permissionsOf (a.get "user")))
  | "has_permission_for_user" => some (variadic name ["user"] fun a => do
      let m ← modelAt (← wiringAt id).model
      return .bool (m.hasRow .policy Enforcer.policyKey (Value.rowOf (a.get "user" :: a.rest))))
  | "get_implicit_roles_for_user" => some (fixed name ["name"] ["domain"] fun a => do
      names (Enforcer.implicitRoles (a.get "name") (domainArgument a)))
  | "get_implicit_users_for_role" => some (fixed name ["role"] ["domain"] fun a => do
      names (Enforcer.implicitUsers (a.get "role") (domainArgument a)))
  | "get_implicit_permissions_for_user" => some (fixed name ["user"] ["domain"] fun a =>
      rows (Enforcer.implicitPermissions (a.get "user") (a.present? "domain")))
  | "get_permissions_for_user_in_domain" => some (fixed name ["user", "domain"] [] fun a =>
      rows (Enforcer.implicitPermissions (a.get "user") (a.present? "domain")))
  | "get_implicit_users_for_permission" => some (variadic name [] fun a =>
      texts (Enforcer.usersWith a.rest))
  | "get_all_users_by_domain" => some (fixed name ["domain"] [] fun a =>
      texts (Enforcer.usersInDomain (a.get "domain")))
  | "delete_all_users_by_domain" => some (fixed name ["domain"] [] fun a =>
      truth (Enforcer.deleteUsersInDomain (a.get "domain")))
  | "delete_domains" => some (variadic name [] fun a => truth (Enforcer.deleteDomains a.rest))
  | "get_all_domains" => some (fixed name [] [] fun _ => names Enforcer.allDomains)
  | _ => none

/-! ### Cache -/

/-- The operations of an enforcer that remembers decisions. -/
def cacheOperation? (id : Nat) (name : String) : Option Operation :=
  let fixed := Operation.fixed "CachedEnforcer"
  match name with
  | "enable_cache" => some (fixed name [] ["enabled"] fun a => do
      onEnforcer id (Enforcer.enableCache ((a.get? "enabled").getD (.bool true)))
      return .nothing)
  | "invalidate_cache" => some (fixed name [] [] fun _ => do
      onEnforcer id Enforcer.invalidate
      return .nothing)
  | "cache_size" => some (fixed name [] [] fun _ => do
      return .value (.int (← wiringAt id).enforcer.cache.length))
  | _ => none

/-- The operations of the enforcer of a number. -/
def enforcerOperation? (id : Nat) (kind : EnforcerKind) (name : String) : Option Operation :=
  let core := coreOperation? id kind name
  let management := managementOperation? id name
  let roles := roleOperation? id name
  match kind with
  | .core => core
  | .management => core.or management
  | .full => core.or (management.or roles)
  | .cached => core.or (management.or (roles.or (cacheOperation? id name)))

end Session

end AccessControl
