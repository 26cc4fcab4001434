import AccessControl.Session.Argument

/-!
# Operations of models

What a host can ask of a model.
-/

namespace AccessControl

namespace Session

/-- Changes a model by an operation that may fail. -/
def changeModel {α : Type} (id : Nat) (f : Model → Except Failure (Model × α)) :
    SessionAction α := do
  let m ← modelAt id
  let (m, a) ← f m
  store id (.model m)
  return a

/-- Defines a section. -/
def define (id : Nat) (a : Arguments) : SessionAction Answer := do
  let kind ← a.kind "sec"
  let key ← (a.get "key").receiver "startswith"
  Model.checkKeyOf kind key
  let text ← (a.get "value").receiver "strip"
  let made ← changeModel id (·.defineKind kind key text)
  keep (made.map Model.definedEvent).toList
  return .bool made.isSome

/-- Makes the definitions of a text. -/
def loadText (id : Nat) (a : Arguments) : SessionAction Answer := do
  let text ← (a.get "text").receiver "splitlines"
  let m ← modelAt id
  let (result, m, events) := m.load text
  store id (.model m)
  keep events
  result
  return .nothing

/-- Orders rows by priority. -/
def sortModel (id : Nat) : SessionAction Answer := do
  let (result, m) := (← modelAt id).sortByPriority
  store id (.model m)
  result
  return .nothing

/-- All rows by kind and key. -/
def snapshotValue (m : Model) : Value :=
  let part := fun kind => Value.mapping
    ((m.snapshot kind).map fun (key, rows) =>
      (key, .tuple (rows.map fun row => .tuple (row.map .text))))
  .mapping [("p", part .policy), ("g", part .role)]

/-- Builds the role graphs of some numbers from the role rows of a model. -/
def linkAll (m : Model) : List (String × Value) → SessionAction Unit
  | [] => return ()
  | (key, v) :: rest => do
    match v, ← objectOf? v with
    | _, some (id, .graph g) => store id (.graph (g.rebuild (m.roleRows key)))
    | .list _, _ | .mapping _, _ =>
      if !(m.roleRows key).isEmpty then throw (v.noAttribute "add_link")
    | v, _ => throw (v.noAttribute "clear")
    keep (m.linkEvents [(key, {})])
    linkAll m rest

/-- The row that a rule gives, which a definition must accept. -/
def checkedRow (d : Definition) (rule : Value) : Except Failure (List Value) := do
  let row ← rule.items
  let _ ← d.checkRow row
  return row

/-- The operations of the model of a number. -/
def modelOperation? (id : Nat) (name : String) : Option Operation :=
  let fixed := Operation.fixed "Model"
  let variadic := Operation.variadic "Model"
  match name with
  | "define" | "add_def" => some (fixed "define" ["sec", "key", "value"] [] (define id))
  | "load_model_from_text" => some (fixed name ["text"] [] (loadText id))
  | "validate" => some (fixed name [] [] fun _ => do
      (← modelAt id).validate
      return .nothing)
  | "has_section" => some (fixed name ["sec"] ["key"] fun a => do
      let kind ← a.kind "sec"
      let m ← modelAt id
      match (a.get? "key").getD .none with
      | .none => return .bool (m.hasKind kind)
      | .text key => return .bool (m.has kind key)
      | key =>
        key.checkKey
        return .bool false)
  | "get_assertion" => some (fixed name ["sec", "key"] [] fun a => do
      let kind ← a.kind "sec"
      let d ← (← modelAt id).lookUp kind (a.get "key")
      return .definition d)
  | "assertions" => some (fixed name ["sec"] [] fun a => do
      let kind ← a.kind "sec"
      return .definitions (((← modelAt id).ofKind kind).map fun d => (d.key, d)))
  | "get_field_index" => some (fixed name ["ptype", "field"] [] fun a => do
      let i ← (← modelAt id).fieldIndex (← Model.keyOf .policy (a.get "ptype")) (a.get "field")
      return .value (.int i))
  | "get_policy" => some (fixed name ["sec", "ptype"] [] fun a => do
      let kind ← a.kind "sec"
      return .rows ((← (← modelAt id).lookUp kind (a.get "ptype")).rows))
  | "get_filtered_policy" => some (variadic name ["sec", "ptype", "field_index"] fun a => do
      let kind ← a.kind "sec"
      let f := Value.filterOf .ofValue (a.get "field_index") a.rest
      return .rows (← (← modelAt id).rowsWhere kind (← Model.keyOf kind (a.get "ptype")) f))
  | "has_policy" => some (fixed name ["sec", "ptype", "rule"] [] fun a => do
      let kind ← a.kind "sec"
      return .bool (← hasRule (← modelAt id) kind (a.get "ptype") (a.items "rule")))
  | "add_policy" => some (fixed name ["sec", "ptype", "rule"] [] fun a => do
      let kind ← a.kind "sec"
      let key ← Model.keyOf kind (a.get "ptype")
      let _ ← (← modelAt id).get kind key
      let row ← a.items "rule"
      return .bool (← changeModel id (·.addRow kind key row)))
  | "add_policies" => some (fixed name ["sec", "ptype", "rules"] [] fun a => do
      let kind ← a.kind "sec"
      let key ← Model.keyOf kind (a.get "ptype")
      let d ← (← modelAt id).get kind key
      let rows ← (← a.items "rules").mapM fun rule => liftM (checkedRow d rule)
      return .bool (← changeModel id (·.addRows kind key rows)))
  | "update_policy" => some (fixed name ["sec", "ptype", "old_rule", "new_rule"] [] fun a => do
      let kind ← a.kind "sec"
      let key ← Model.keyOf kind (a.get "ptype")
      let _ ← (← modelAt id).get kind key
      let old ← a.items "old_rule"
      let new ← a.items "new_rule"
      return .bool (← changeModel id (·.updateRow kind key old new)))
  | "remove_policy" => some (fixed name ["sec", "ptype", "rule"] [] fun a => do
      let kind ← a.kind "sec"
      let key ← Model.keyOf kind (a.get "ptype")
      let _ ← (← modelAt id).get kind key
      let row ← a.items "rule"
      return .bool (← changeModel id (·.removeRow kind key row)))
  | "remove_policies" => some (fixed name ["sec", "ptype", "rules"] [] fun a => do
      let kind ← a.kind "sec"
      let key ← Model.keyOf kind (a.get "ptype")
      let _ ← (← modelAt id).get kind key
      let rows ← (a.get "rules").itemsOfItems
      return .bool (← changeModel id (·.removeRows kind key rows)))
  | "remove_filtered_policy" => some (variadic name ["sec", "ptype", "field_index"] fun a => do
      let kind ← a.kind "sec"
      let f := Value.filterOf .ofValue (a.get "field_index") a.rest
      let key ← Model.keyOf kind (a.get "ptype")
      return .rows (← changeModel id (·.removeWhere kind key f)))
  | "get_values_for_field_in_policy" =>
    some (fixed name ["sec", "ptype", "field_index"] [] fun a => do
      let kind ← a.kind "sec"
      let d ← (← modelAt id).lookUp kind (a.get "ptype")
      return .texts (← distinctFrom (.ofValue (a.get "field_index")) d.rows))
  | "get_values_for_field_in_policy_all_types" =>
    some (fixed name ["sec", "field_index"] [] fun a => do
      let kind ← a.kind "sec"
      let rows := ((← modelAt id).ofKind kind).flatMap (·.rows)
      return .texts (← distinctFrom (.ofValue (a.get "field_index")) rows))
  | "clear_policy" => some (fixed name [] [] fun _ => do
      changeModel id fun m => .ok (m.clearRows, ())
      return .nothing)
  | "snapshot" => some (fixed name [] [] fun _ => return .value (snapshotValue (← modelAt id)))
  | "sort_policies_by_priority" => some (fixed name [] [] fun _ => sortModel id)
  | "build_role_links" => some (fixed name ["rm_map"] [] fun a => do
      match a.get "rm_map" with
      | .mapping entries => linkAll (← modelAt id) entries
      | v => throw (v.noAttribute "items")
      return .nothing)
  | "print_model" => some (fixed name [] [] fun _ => do
      keep (← modelAt id).lineEvents
      return .nothing)
  | _ => none

end Session

end AccessControl
