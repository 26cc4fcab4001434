import AccessControl.Roles.Graph

/-!
# Closure

All roles or all members of a name, through several role graphs, in breadth-first
order.
-/

namespace AccessControl

namespace RoleGraph

/-- The names one step away from a name, over all graphs in order. -/
def step (reverse : Bool) (domain name : Name) : List RoleGraph → Except Failure (List Name)
  | [] => .ok []
  | g :: rest => do
    let here ← if reverse then g.users name domain else g.roles name domain
    let others ← step reverse domain name rest
    return here ++ others

/-- Goes on from the names that wait, after the names `found`; every name is found
once. -/
def closureFrom (graphs : List RoleGraph) (reverse : Bool) (domain : Name) :
    Nat → List Name → List Name → Except Failure (List Name)
  | 0, found, _ | _ + 1, found, [] => .ok found
  | fuel + 1, found, name :: waiting => do
    let names ← step reverse domain name graphs
    let fresh := names.eraseDups.filter fun n => !found.contains n
    closureFrom graphs reverse domain fuel (found ++ fresh) (waiting ++ fresh)

/-- The number of names that a closure can find. -/
def nodeCount (graphs : List RoleGraph) : Nat := total (graphs.map (·.nodes.length))

/-- The names reached from `seed` by one step or more.  The seed is among them only if
a cycle leads back to it. -/
def closure (graphs : List RoleGraph) (reverse : Bool) (domain seed : Name) :
    Except Failure (List Name) :=
  closureFrom graphs reverse domain (nodeCount graphs + 1) [] [seed]

end RoleGraph

end AccessControl
