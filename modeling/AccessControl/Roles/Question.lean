import AccessControl.Call.Argument
import AccessControl.Call.Signature
import AccessControl.Roles.Closure

/-!
# Questions about roles

What a host asks of role graphs, with values for names.  A domain that counts as false is
the default one.  The nodes of a name are found by a table, so the name and the domain
must be keys as soon as nodes are looked for.
-/

namespace AccessControl

namespace RoleGraph

/-- The domain that a value stands for. -/
def domainOf (v : Value) : Value := if v.isTruthy then v else .text ""

/-- Nodes of a name can be looked for in a domain. -/
def checkLookup (g : RoleGraph) (name domain : Value) : Except Failure Unit := do
  let _ ← g.domainsFor (.ofValue domain)
  name.checkKey
  domain.checkKey

/-- The roles that a value has directly. -/
def rolesOf (g : RoleGraph) (name domain : Value) : Except Failure (List Name) := do
  let d := domainOf domain
  g.checkLookup name d
  g.roles (.ofValue name) (.ofValue d)

/-- The names that have a value as a role directly. -/
def usersOf (g : RoleGraph) (name domain : Value) : Except Failure (List Name) := do
  let d := domainOf domain
  g.checkLookup name d
  g.users (.ofValue name) (.ofValue d)

/-- A value is reached from another by a chain of roles. -/
def isLinked (g : RoleGraph) (name role domain : Value) : Except Failure Bool := do
  if ← g.namesMatch (.ofValue name) (.ofValue role) then return true
  else
    let d := domainOf domain
    g.checkLookup name d
    g.hasLink (.ofValue name) (.ofValue role) (.ofValue d)

/-- Gives a value the role that another value is. -/
def link (g : RoleGraph) (name role domain : Value) : Except Failure RoleGraph := do
  let d := domainOf domain
  name.checkKey
  d.checkKey
  role.checkKey
  let g := ((g.note name).note role).note d
  return g.addLink (.ofValue name) (.ofValue role) (.ofValue d)

/-- Takes from a value the role that another value is, and tells whether it had it. -/
def unlink (g : RoleGraph) (name role domain : Value) : Except Failure (RoleGraph × Bool) := do
  let d := domainOf domain
  name.checkKey
  d.checkKey
  role.checkKey
  return g.deleteLink (.ofValue name) (.ofValue role) (.ofValue d)

/-- The names reached from a value by one step or more, through some graphs. -/
def closureOf (graphs : List RoleGraph) (reverse : Bool) (domain seed : Value) :
    Except Failure (List Name) := do
  let d := domainOf domain
  match graphs with
  | [] => return []
  | g :: _ =>
    g.checkLookup seed d
    closure graphs reverse (.ofValue d) (.ofValue seed)

/-- The value that gave a name to the first of some graphs that has one. -/
def valueIn (graphs : List RoleGraph) (name : Name) : Value :=
  (graphs.findSome? fun g => g.given.lookup name).getD name.value

/-- The parameters of a link. -/
def linkSignature : Signature :=
  { name := "RoleManager.add_link", required := ["name1", "name2"], optional := ["domain"],
    implicit := 1 }

/-- Adds a link by its arguments. -/
def linkBy (g : RoleGraph) (a : Arguments) : Except Failure RoleGraph :=
  g.link (a.get "name1") (a.get "name2") ((a.get? "domain").getD .none)

/-- The graph of some links, each of which lists its arguments. -/
def ofLinks (links : List (List Value)) : Except Failure RoleGraph :=
  links.foldlM (fun g link => do g.linkBy (← linkSignature.bind link [])) {}

end RoleGraph

end AccessControl
