import AccessControl.Failure.Cause
import AccessControl.Roles.Name

/-!
# Role graphs

The graph of one role relation.  A node is a name in a domain, known by its position;
an edge from `a` to `b` says that `a` has the role `b`.  The positions of nodes, their
outgoing and incoming edges and the number of edges of every domain are kept beside
each other.  Names that no edge mentions any more keep their node.  A name that is no
text is shown as it was first given.
-/

namespace AccessControl

/-- A test whether a name stands for another, which is read as a pattern. -/
abbrev NameMatcher := Name → Name → Except Failure Bool

/-- How many edges a chain of roles may have. -/
structure DepthLimit where
  levels : Nat := 10
  shown : String := "10"
  deriving DecidableEq, Inhabited

/-- The limit of a number of levels. -/
def DepthLimit.ofNat (n : Nat) : DepthLimit := ⟨n, toString n⟩

/-- The graph of a role relation. -/
structure RoleGraph where
  limit : DepthLimit := {}
  nameMatcher : Option NameMatcher := none
  domainMatcher : Option NameMatcher := none
  nodes : List (Name × Name) := []
  index : List ((Name × Name) × Nat) := []
  out : List (List Nat) := []
  into : List (List Nat) := []
  /-- The number of edges by domain, in the order in which the domains got their
  first edge. -/
  edgeCounts : List (Name × Nat) := []
  /-- The values that gave names which are no texts. -/
  given : List (Name × Value) := []
  deriving Inhabited

namespace RoleGraph

/-! ### Nodes and edges -/

/-- The position of a name in a domain. -/
def position? (g : RoleGraph) (name domain : Name) : Option Nat :=
  g.index.lookup (name, domain)

/-- The name at a position. -/
def nameAt (g : RoleGraph) (i : Nat) : Name := ((g.nodes[i]?).map (·.1)).getD defaultDomain

/-- The roles of the node at a position. -/
def outAt (g : RoleGraph) (i : Nat) : List Nat := (g.out[i]?).getD []

/-- The members of the node at a position. -/
def intoAt (g : RoleGraph) (i : Nat) : List Nat := (g.into[i]?).getD []

/-- The graph with a node for a name in a domain, and the position of the node. -/
def ensure (g : RoleGraph) (name domain : Name) : RoleGraph × Nat :=
  match g.position? name domain with
  | some i => (g, i)
  | none =>
    let i := g.nodes.length
    ({ g with
        nodes := g.nodes ++ [(name, domain)]
        index := g.index ++ [((name, domain), i)]
        out := g.out ++ [[]]
        into := g.into ++ [[]] }, i)

/-- The counts with one more edge of a domain. -/
def increase (domain : Name) : List (Name × Nat) → List (Name × Nat)
  | [] => [(domain, 1)]
  | (d, n) :: rest => if d = domain then (d, n + 1) :: rest else (d, n) :: increase domain rest

/-- The counts with one edge of a domain less; a domain without edges is left out. -/
def decrease (domain : Name) : List (Name × Nat) → List (Name × Nat)
  | [] => []
  | (d, n) :: rest =>
    if d = domain then if n ≤ 1 then rest else (d, n - 1) :: rest
    else (d, n) :: decrease domain rest

/-- Adds the edge that gives `name` the role `role` in a domain. -/
def addLink (g : RoleGraph) (name role domain : Name) : RoleGraph :=
  let (g, a) := g.ensure name domain
  let (g, b) := g.ensure role domain
  if (g.outAt a).contains b then g
  else
    { g with
      out := g.out.modify a (· ++ [b])
      into := g.into.modify b (· ++ [a])
      edgeCounts := increase domain g.edgeCounts }

/-- Removes the edge that gives `name` the role `role` in a domain, and tells whether
there was one. -/
def deleteLink (g : RoleGraph) (name role domain : Name) : RoleGraph × Bool :=
  match g.position? name domain, g.position? role domain with
  | some a, some b =>
    if (g.outAt a).contains b then
      ({ g with
          out := g.out.modify a (·.erase b)
          into := g.into.modify b (·.erase a)
          edgeCounts := decrease domain g.edgeCounts }, true)
    else (g, false)
  | _, _ => (g, false)

/-- The graph without nodes and edges. -/
def clear (g : RoleGraph) : RoleGraph :=
  { limit := g.limit, nameMatcher := g.nameMatcher, domainMatcher := g.domainMatcher }

/-- The number of edges. -/
def size (g : RoleGraph) : Nat := total (g.edgeCounts.map (·.2))

/-- The domains other than the default one that have an edge. -/
def domains (g : RoleGraph) : List Name := (g.edgeCounts.map (·.1)).filter (· != defaultDomain)

/-! ### Patterns -/

/-- The elements that satisfy a test which may fail. -/
def filterE {α : Type} (p : α → Except Failure Bool) : List α → Except Failure (List α)
  | [] => .ok []
  | a :: rest => do
    let keep ← p a
    let kept ← filterE p rest
    return if keep then a :: kept else kept

/-- The domains in which a question about `domain` is answered: the domain itself and
the domains with edges whose names, read as patterns, it stands for. -/
def domainsFor (g : RoleGraph) (domain : Name) : Except Failure (List Name) :=
  match g.domainMatcher with
  | none => .ok [domain]
  | some m => do
    let others ← filterE (m domain) ((g.edgeCounts.map (·.1)).filter (· != domain))
    return domain :: others

/-- The positions of the nodes whose names, read as patterns, `name` stands for; those
in `found` are left out. -/
def patternNodes (m : NameMatcher) (name : Name) (domains : List Name) :
    List Nat → List ((Name × Name) × Nat) → Except Failure (List Nat)
  | found, [] => .ok found
  | found, ((stored, d), i) :: rest => do
    if domains.contains d && stored != name && !found.contains i then
      let same ← m name stored
      patternNodes m name domains (if same then found ++ [i] else found) rest
    else patternNodes m name domains found rest

/-- The positions of the nodes that stand for a name in some domains. -/
def lookup (g : RoleGraph) (name : Name) (domains : List Name) : Except Failure (List Nat) :=
  let found := domains.filterMap fun d => g.position? name d
  match g.nameMatcher with
  | none => .ok found
  | some m => patternNodes m name domains found g.index

/-- A name stands for a stored one. -/
def namesMatch (g : RoleGraph) (name stored : Name) : Except Failure Bool :=
  if name = stored then .ok true
  else
    match g.nameMatcher with
    | none => .ok false
    | some m => m name stored

/-! ### Links -/

/-- Adds the positions that have not been visited to those of the next level. -/
def visit (visited next : List Nat) : List Nat → List Nat × List Nat
  | [] => (visited, next)
  | i :: rest =>
    if visited.contains i then visit visited next rest
    else visit (visited ++ [i]) (next ++ [i]) rest

/-- Goes through the roles of the current level; none if `goal` is among them, else the
visited positions and the next level. -/
def expand (g : RoleGraph) (goal : Name) (domains : List Name) :
    List Nat → List Nat → List Nat → Except Failure (Option (List Nat × List Nat))
  | visited, next, [] => .ok (some (visited, next))
  | visited, next, target :: rest => do
    let name := g.nameAt target
    if ← g.namesMatch goal name then return none
    else
      let same ← g.lookup name domains
      let (visited, next) := visit visited next (target :: same)
      expand g goal domains visited next rest

/-- Searches for `goal` level by level, over at most as many levels as given. -/
def search (g : RoleGraph) (goal : Name) (domains : List Name) :
    Nat → List Nat → List Nat → Except Failure Bool
  | 0, _, _ => .ok false
  | levels + 1, visited, frontier =>
    match frontier with
    | [] => .ok false
    | frontier => do
      match ← g.expand goal domains visited [] (frontier.flatMap g.outAt) with
      | none => return true
      | some (visited, next) => search g goal domains levels visited next

/-- The name `role` is reached from `name` by a chain of roles in a domain; every name
reaches itself. -/
def hasLink (g : RoleGraph) (name role domain : Name) : Except Failure Bool := do
  if ← g.namesMatch name role then return true
  else
    let domains ← g.domainsFor domain
    let start ← g.lookup name domains
    g.search role domains g.limit.levels start start

/-! ### Neighbours -/

/-- The distinct names at the other ends of the edges of a name. -/
def neighbours (g : RoleGraph) (edges : Nat → List Nat) (name domain : Name) :
    Except Failure (List Name) := do
  let domains ← g.domainsFor domain
  let found ← g.lookup name domains
  return ((found.flatMap edges).map g.nameAt).eraseDups

/-- The roles that a name has directly. -/
def roles (g : RoleGraph) (name domain : Name) : Except Failure (List Name) :=
  g.neighbours g.outAt name domain

/-- The names that have a role directly. -/
def users (g : RoleGraph) (name domain : Name) : Except Failure (List Name) :=
  g.neighbours g.intoAt name domain

/-! ### Printing -/

/-- The graph with the value that gave a name, unless it has one already. -/
def note (g : RoleGraph) (v : Value) : RoleGraph :=
  match v, g.given.lookup (.ofValue v) with
  | .text _, _ | _, some _ => g
  | v, none => { g with given := g.given ++ [(.ofValue v, v)] }

/-- The value that gave a name. -/
def valueOf (g : RoleGraph) (name : Name) : Value := (g.given.lookup name).getD name.value

/-- The edges as `name < role` lines, with the domain of those outside the default
one. -/
def edgeLines (g : RoleGraph) : List String :=
  ((List.range g.nodes.length).zip g.nodes).flatMap fun (i, name, domain) =>
    (g.outAt i).map fun j =>
      (g.valueOf name).display ++ " < " ++ (g.valueOf (g.nameAt j)).display
        ++ (if domain = defaultDomain then ""
            else " (domain=" ++ (g.valueOf domain).display ++ ")")

/-- The text of a graph as messages show it. -/
def shown (g : RoleGraph) : String :=
  "RoleManager(edges=" ++ toString g.size ++ ", domains="
    ++ (Value.list (g.domains.map g.valueOf)).shown
    ++ ", max_hierarchy_level=" ++ g.limit.shown ++ ")"

end RoleGraph

end AccessControl
