import AccessControl.Enforcer.Decision
import AccessControl.Enforcer.Rows

/-!
# Users, roles, permissions and domains

Queries and changes in terms of users and roles.  A role row gives a user a role, in a
domain if it has three fields, and a policy row gives its first field a permission.  The
domain of a permission is in a field of its own.
-/

namespace AccessControl

namespace Enforcer

/-- The key of the role definition that these operations use. -/
def roleKey : String := "g"

/-- The key of the policy definition that these operations use. -/
def policyKey : String := "p"

/-- The name of the field that holds a domain. -/
def domainField : String := "dom"

/-- Tests of the fields from a position on. -/
def filterAt (start : Int) (values : List Value) : RowFilter :=
  ⟨.index start, values.map FieldTest.ofValue⟩

/-! ### Roles -/

/-- The roles that a user has directly. -/
def rolesOf (user domain : Value) : Action (List Name) := do
  let g ← graph roleKey
  g.rolesOf user domain

/-- The users that have a role directly. -/
def usersOf (role domain : Value) : Action (List Name) := do
  let g ← graph roleKey
  g.usersOf role domain

/-- A user has a role directly. -/
def hasRole (user role domain : Value) : Action Bool := do
  let roles ← rolesOf user domain
  return roles.contains (.ofValue role)

/-- The values that gave some names. -/
def valuesOf (names : List Name) : Action (List Value) := do
  return names.map (RoleGraph.valueIn ((← get).graphs.map (·.2)))

/-- Gives a user a role. -/
def addRole (user role : Value) (domain : Option Value) : Action Bool :=
  addRow .role roleKey ([user, role] ++ domain.toList)

/-- Takes a role from a user. -/
def deleteRoleOf (user role : Value) (domain : Option Value) : Action Bool :=
  removeRow .role roleKey ([user, role] ++ domain.toList)

/-- Takes all roles from a user, or those in a domain. -/
def deleteRolesOf (user : Value) (domain : Option Value) : Action Bool :=
  removeWhere .role roleKey
    (filterAt 0 (match domain with
      | none => [user]
      | some d => [user, .text "", d]))

/-! ### Users and permissions -/

/-- Removes the roles and the permissions of a user. -/
def deleteUser (user : Value) : Action Bool := do
  let roles ← removeWhere .role roleKey (filterAt 0 [user])
  let permissions ← removeWhere .policy policyKey (filterAt 0 [user])
  return roles || permissions

/-- Removes a role from all users, and its permissions. -/
def deleteRole (role : Value) : Action Bool := do
  let members ← removeWhere .role roleKey (filterAt 1 [role])
  let permissions ← removeWhere .policy policyKey (filterAt 0 [role])
  return members || permissions

/-- Takes a permission from everyone. -/
def deletePermission (permission : List Value) : Action Bool :=
  removeWhere .policy policyKey (filterAt 1 permission)

/-- Takes all permissions from a user. -/
def deletePermissionsOf (user : Value) : Action Bool :=
  removeWhere .policy policyKey (filterAt 0 [user])

/-- The permissions of a subject. -/
def permissionsOf (subject : Value) : Action (List Row) := do
  (← get).model.rowsWhere .policy policyKey (filterAt 0 [subject])

/-! ### Inherited roles and permissions -/

/-- All roles of a user, inherited ones included, through all role graphs. -/
def implicitRoles (user domain : Value) : Action (List Name) := do
  RoleGraph.closureOf ((← get).graphs.map (·.2)) false domain user

/-- All users that have a role, also by inheritance, through all role graphs. -/
def implicitUsers (role domain : Value) : Action (List Name) := do
  RoleGraph.closureOf ((← get).graphs.map (·.2)) true domain role

/-- The permissions of a subject, in a domain if one is given. -/
def permissionsIn (domain : Option Value) (subject : Value) : Action (List Row) := do
  (← get).model.rowsWhere .policy policyKey (filterAt 0 (subject :: domain.toList))

/-- The permissions of subjects, one subject after the other. -/
def permissionsOfAll (domain : Option Value) : List Value → Action (List Row)
  | [] => return []
  | subject :: rest => do
    let here ← permissionsIn domain subject
    let others ← permissionsOfAll domain rest
    return here ++ others

/-- The permissions of a user and of all its roles. -/
def implicitPermissions (user : Value) (domain : Option Value) : Action (List Row) := do
  let roles ← implicitRoles user (domain.getD .none)
  permissionsOfAll domain (user :: (← valuesOf roles))

/-- The names among some candidates for whom a permission is granted. -/
def granted (permission : List Value) : List String → Action (List String)
  | [] => return []
  | name :: rest => do
    let allowed ← enforce (.text name :: permission)
    let others ← granted permission rest
    return if allowed then name :: others else others

/-- The users, but not the roles, for whom a permission is granted. -/
def usersWith (permission : List Value) : Action (List String) := do
  let m := (← get).model
  let subjects ← m.allValuesAt .policy 0
  let members ← m.allValuesAt .role 0
  let roles ← m.allValuesAt .role 1
  granted permission ((subjects ++ members).eraseDups.filter fun name => !roles.contains name)

/-! ### Domains -/

/-- The position of the domain in policy rows. -/
def domainIndex : Action (Option Nat) := do
  match (← get).model.fieldIndex policyKey (.text domainField) with
  | .ok i => return some i
  | .error (.field ..) => return none
  | .error failure => throw failure

/-- The first texts of rows that have a value at a position. -/
def subjectsAt (i : Nat) (value : Value) (rows : List Row) : List String :=
  (rows.filter fun row => row[i]?.any fun s => value.equals (.text s)).filterMap List.head?

/-- The users of role rows and policy rows in a domain. -/
def usersInDomain (domain : Value) : Action (List String) := do
  match ← domainIndex with
  | none => return []
  | some i =>
    let m := (← get).model
    let roleRows ← m.rows .role roleKey
    let policyRows ← m.rows .policy policyKey
    return (subjectsAt 2 domain roleRows ++ subjectsAt i domain policyRows).eraseDups

/-- The role definition has a domain. -/
def hasDomains (m : Model) : Bool :=
  match m.find? .role roleKey with
  | some d => 2 < d.arity
  | none => false

/-- Removes the rows of a domain; the result tells whether policy rows have a domain. -/
def deleteUsersInDomain (domain : Value) : Action Bool := do
  match ← domainIndex with
  | none => return false
  | some i =>
    let _ ← removeWhere .policy policyKey (filterAt i [domain])
    if hasDomains (← get).model then
      let _ ← removeWhere .role roleKey (filterAt 2 [domain])
    return true

/-- Removes the rows of domains until policy rows turn out to have none. -/
def deleteEach : List Value → Action Bool
  | [] => return true
  | domain :: rest => do
    if ← deleteUsersInDomain domain then deleteEach rest else return false

/-- Removes the rows of some domains, or all rows if none is named. -/
def deleteDomains (domains : List Value) : Action Bool := do
  if domains.isEmpty then
    clearPolicy
    return true
  else if ← deleteEach domains then
    buildLinks
    return true
  else return false

/-- The domains in which there are roles. -/
def allDomains : Action (List Name) := do
  let g ← graph roleKey
  return g.domains

end Enforcer

end AccessControl
