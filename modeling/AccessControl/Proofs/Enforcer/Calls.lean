import AccessControl.Proofs.Enforcer.Mutation
import AccessControl.Session.Enforcers

/-!
# Calls

What a host can call on an enforcer, in runs of any length: decisions, mutations of rows,
questions, changes of parts and of switches.  A call that fails ends no run.
-/

namespace AccessControl

open AccessControl.Action

/-! ### Questions -/

/-- A question about rows, users, roles, permissions and domains. -/
inductive Question where
  | rows (kind : RowKind) (key : String)
  | rowsWhere (kind : RowKind) (key : String) (f : RowFilter)
  | hasRow (kind : RowKind) (key : Value) (row : List Value)
  | fieldIndex (key : String) (name : Value)
  | valuesAt (kind : RowKind) (key : String) (i : Nat)
  | allValuesAt (kind : RowKind) (i : Nat)
  | rolesOf (user domain : Value)
  | usersOf (role domain : Value)
  | hasRole (user role domain : Value)
  | permissionsOf (subject : Value)
  | hasPermission (row : List Value)
  | implicitRoles (user domain : Value)
  | implicitUsers (role domain : Value)
  | implicitPermissions (user : Value) (domain : Option Value)
  | usersWith (permission : List Value)
  | usersInDomain (domain : Value)
  | allDomains
  | isEnabled

namespace Question

/-- Names as a host sees them. -/
def named (act : Action (List Name)) : Action Answer := do
  let names ← act
  return .value (.list (← Enforcer.valuesOf names))

/-- The operation of an enforcer that answers a question. -/
def act : Question → Action Answer
  | .rows kind key => do
    return .rows (← (← get).model.rows kind.kind key)
  | .rowsWhere kind key f => do
    return .rows (← (← get).model.rowsWhere kind.kind key f)
  | .hasRow kind key row => do
    return .bool (← Session.hasRule (← get).model kind.kind key (.ok row))
  | .fieldIndex key name => do
    return .value (.int (← (← get).model.fieldIndex key name))
  | .valuesAt kind key i => do
    return .texts (← (← get).model.valuesAt kind.kind key i)
  | .allValuesAt kind i => do
    return .texts (← (← get).model.allValuesAt kind.kind i)
  | .rolesOf user domain => named (Enforcer.rolesOf user domain)
  | .usersOf role domain => named (Enforcer.usersOf role domain)
  | .hasRole user role domain => .bool <$> Enforcer.hasRole user role domain
  | .permissionsOf subject => .rows <$> Enforcer.permissionsOf subject
  | .hasPermission row => do
    return .bool ((← get).model.hasRow .policy Enforcer.policyKey row)
  | .implicitRoles user domain => named (Enforcer.implicitRoles user domain)
  | .implicitUsers role domain => named (Enforcer.implicitUsers role domain)
  | .implicitPermissions user domain => .rows <$> Enforcer.implicitPermissions user domain
  | .usersWith permission => .texts <$> Enforcer.usersWith permission
  | .usersInDomain domain => .texts <$> Enforcer.usersInDomain domain
  | .allDomains => named Enforcer.allDomains
  | .isEnabled => do
    return .value (← get).enabled

section Parts

variable {P : (α : Type) → Action α → Prop} (hP : Composes P)

include hP

theorem map_of {α β : Type} (f : α → β) {a : Action α} (ha : P α a) :
  P β (f <$> a)
  := by
  rw [map_eq_pure_bind]
  apply hP.bind ha
  intro x
  apply hP.pure

/-- What composes holds of looking at the core of an enforcer. -/
theorem view_of
    {α : Type} {f : Enforcer → α} (hf : ∀ e, f e = f e.core) :
  P α (do
    return f (← get))
  := by
  apply hP.look
  · intro e
    rw [hf e]
  · intro e
    apply hP.pure

/-- The same, where looking may fail. -/
theorem read_of
    {α : Type} {f : Enforcer → Except Failure α} (hf : ∀ e, f e = f e.core) :
  P α (do
    f (← get))
  := by
  apply hP.look
  · intro e
    rw [hf e]
  · intro e
    apply hP.lift

/-- The same, where what is found is told in another form. -/
theorem tell_of
    {α β : Type} {f : Enforcer → Except Failure α} (hf : ∀ e, f e = f e.core) (g : α → β) :
  P β (do
    let x ← f (← get)
    return g x)
  := by
  apply hP.look
  · intro e
    rw [hf e]
  · intro e
    apply hP.bind (hP.lift _)
    intro x
    apply hP.pure

theorem graph_of (key : String) : P _ (Enforcer.graph key) := by
  apply hP.look
  · intro e
    rfl
  · intro e
    split
    · apply hP.pure
    · apply hP.throw

theorem valuesOf_of (names : List Name) :
  P _ (Enforcer.valuesOf names)
  := view_of hP fun _ => rfl

theorem named_of {a : Action (List Name)} (ha : P _ a) : P _ (named a) := by
  apply hP.bind ha
  intro names
  apply hP.bind (valuesOf_of hP names)
  intro values
  apply hP.pure

theorem rolesOf_of (user domain : Value) : P _ (Enforcer.rolesOf user domain) := by
  apply hP.bind (graph_of hP _)
  intro g
  apply hP.lift

theorem implicitRoles_of (user domain : Value) :
  P _ (Enforcer.implicitRoles user domain)
  := read_of hP fun _ => rfl

theorem permissionsOfAll_of (domain : Option Value) (subjects : List Value) :
  P _ (Enforcer.permissionsOfAll domain subjects)
  := by
  induction subjects with
  | nil => apply hP.pure
  | cons subject rest ih =>
      have hhere : P _ (Enforcer.permissionsIn domain subject) := read_of hP fun _ => rfl
      apply hP.bind hhere
      intro here
      apply hP.bind ih
      intro others
      apply hP.pure

theorem implicitPermissions_of (user : Value) (domain : Option Value) :
  P _ (Enforcer.implicitPermissions user domain)
  := by
  apply hP.bind (implicitRoles_of hP _ _)
  intro roles
  apply hP.bind (valuesOf_of hP _)
  intro values
  apply permissionsOfAll_of hP

theorem usersInDomain_of (domain : Value) : P _ (Enforcer.usersInDomain domain) := by
  apply hP.bind (Mutation.domainIndex_of hP)
  intro index
  cases index with
  | none => apply hP.pure
  | some i =>
      apply hP.look
      · intro e
        rfl
      · intro e
        apply hP.bind (hP.lift _)
        intro roleRows
        apply hP.bind (hP.lift _)
        intro policyRows
        apply hP.pure

theorem granted_of
    {permission : List Value}
    (henforce : ∀ name, P _ (Enforcer.enforce (.text name :: permission))) (names : List String) :
  P _ (Enforcer.granted permission names)
  := by
  induction names with
  | nil => apply hP.pure
  | cons name rest ih =>
      apply hP.bind (henforce name)
      intro allowed
      apply hP.bind ih
      intro others
      apply hP.pure

theorem usersWith_of
    {permission : List Value}
    (henforce : ∀ name, P _ (Enforcer.enforce (.text name :: permission))) :
  P _ (Enforcer.usersWith permission)
  := by
  apply hP.look
  · intro e
    rfl
  · intro e
    apply hP.bind (hP.lift _)
    intro subjects
    apply hP.bind (hP.lift _)
    intro members
    apply hP.bind (hP.lift _)
    intro roles
    apply granted_of hP henforce

/-- What composes holds of every question, if it holds of the decisions that the question
asks for. -/
theorem act_of
    (q : Question)
    (henforce : ∀ permission name, q = .usersWith permission →
      P _ (Enforcer.enforce (.text name :: permission))) :
  P _ q.act
  := by
  cases q with
  | rows kind key => exact tell_of hP (fun _ => rfl) _
  | rowsWhere kind key f => exact tell_of hP (fun _ => rfl) _
  | hasRow kind key row => exact tell_of hP (fun _ => rfl) _
  | fieldIndex key name =>
      exact @tell_of P hP Nat Answer (fun e => e.model.fieldIndex key name) (fun _ => rfl) _
  | valuesAt kind key i => exact tell_of hP (fun _ => rfl) _
  | allValuesAt kind i => exact tell_of hP (fun _ => rfl) _
  | rolesOf user domain => apply named_of hP (rolesOf_of hP _ _)
  | usersOf role domain =>
      apply named_of hP
      apply hP.bind (graph_of hP _)
      intro g
      apply hP.lift
  | hasRole user role domain =>
      apply map_of hP
      apply hP.bind (rolesOf_of hP _ _)
      intro roles
      apply hP.pure
  | permissionsOf subject =>
      apply map_of hP
      exact read_of hP fun _ => rfl
  | hasPermission row => exact view_of hP fun _ => rfl
  | implicitRoles user domain => apply named_of hP (implicitRoles_of hP _ _)
  | implicitUsers role domain =>
      apply named_of hP
      exact read_of hP fun _ => rfl
  | implicitPermissions user domain => apply map_of hP _ (implicitPermissions_of hP _ _)
  | usersWith permission =>
      apply map_of hP
      apply usersWith_of hP
      intro name
      apply henforce permission name rfl
  | usersInDomain domain => apply map_of hP _ (usersInDomain_of hP _)
  | allDomains =>
      apply named_of hP
      apply hP.bind (graph_of hP _)
      intro g
      apply hP.pure
  | isEnabled => exact @view_of P hP Answer (fun e => .value e.enabled) fun _ => rfl

end Parts

end Question

/-! ### Calls -/

/-- A call of an operation of an enforcer. -/
inductive Call where
  | enforce (request : List Value)
  | enforceEx (request : List Value)
  | enforceAll (requests : List (List Value))
  | mutate (x : Mutation)
  | ask (q : Question)
  | savePolicy
  | buildLinks
  | setModel (m : Model)
  | setGraph (key : String) (g : RoleGraph)
  | register (name : String) (f : MatcherFunction)
  | enable (switch : Value)
  | enableAutoSave (on : Bool)
  | enableAutoBuild (on : Bool)
  | enableCache (switch : Value)
  | invalidateCache

/-- What a mutation answers: whether anything changed, if it can tell. -/
def Mutation.answer : Mutation → Bool → Answer
  | .loadPolicy, _ => .nothing
  | .clearPolicy, _ => .nothing
  | _, changed => .bool changed

namespace Call

/-- What is done with the cache of an enforcer, if it has one. -/
def onCache (a : Action Unit) : Action Answer := do
  if (← get).kind == .cached then a
  return .nothing

/-- The operation of an enforcer that is called. -/
def act : Call → Action Answer
  | .enforce request => .bool <$> Enforcer.enforce request
  | .enforceEx request => Session.explained <$> Enforcer.enforceEx request
  | .enforceAll requests =>
    (fun allowed => .value (.list (allowed.map .bool))) <$> Enforcer.enforceAll requests
  | .mutate x => x.answer <$> x.act
  | .ask q => q.act
  | .savePolicy => (fun _ => .bool true) <$> Enforcer.savePolicy
  | .buildLinks => (fun _ => .nothing) <$> Enforcer.buildLinks
  | .setModel m => (fun _ => .nothing) <$> Enforcer.setModel m
  | .setGraph key g => (fun _ => .nothing) <$> Enforcer.setGraph key g
  | .register name f => (fun _ => .nothing) <$> Enforcer.register name f
  | .enable switch => (fun _ => .nothing) <$> Enforcer.enable switch
  | .enableAutoSave on => (fun _ => .nothing) <$> modify fun e => { e with autoSave := on }
  | .enableAutoBuild on => (fun _ => .nothing) <$> modify fun e => { e with autoBuild := on }
  | .enableCache switch => onCache (Enforcer.enableCache switch)
  | .invalidateCache => onCache Enforcer.invalidate

/-- What some calls answer, one after the other, and the enforcer after them. -/
def run : List Call → Enforcer → List (Except Failure Answer) × Enforcer
  | [], e => ([], e)
  | call :: rest, e =>
    let (answer, e) := call.act.perform e
    let (answers, e) := run rest e
    (answer :: answers, e)

theorem run_cons (call : Call) (rest : List Call) (e : Enforcer) :
  run (call :: rest) e =
    ((call.act.perform e).1 :: (run rest (call.act.perform e).2).1,
      (run rest (call.act.perform e).2).2)
  := rfl

/-- Whenever rows are loaded in a run of calls, loading them succeeds. -/
def Loads : List Call → Enforcer → Prop
  | [], _ => True
  | call :: rest, e =>
    (call = .mutate .loadPolicy → (Enforcer.loadPolicy.perform e).1 = .ok ()) ∧
      Loads rest (call.act.perform e).2

end Call

end AccessControl
