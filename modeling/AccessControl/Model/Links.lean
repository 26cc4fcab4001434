import AccessControl.Model.Rows
import AccessControl.Roles.Graph

/-!
# Links of a model

The role graphs that the role rows of a model describe.  A row gives its first text the
role of its second, in the domain of its third if it has one.
-/

namespace AccessControl

/-- Role graphs by the key of their role definition. -/
abbrev RoleGraphs := List (String × RoleGraph)

namespace RoleGraph

/-- Adds the link of a role row. -/
def addRow (g : RoleGraph) : Row → RoleGraph
  | name :: role :: rest => g.addLink (.text name) (.text role) (.text (rest.headD ""))
  | _ => g

/-- The graph of some role rows, with the limit and the patterns of another graph. -/
def rebuild (g : RoleGraph) (rows : List Row) : RoleGraph := rows.foldl addRow g.clear

end RoleGraph

namespace Model

/-- The role rows under a key; there are none without a definition. -/
def roleRows (m : Model) (key : String) : List Row :=
  ((m.find? .role key).map (·.rows)).getD []

/-- The role graphs, built anew from the role rows of a model. -/
def link (m : Model) (graphs : RoleGraphs) : RoleGraphs :=
  graphs.map fun (key, g) => (key, g.rebuild (m.roleRows key))

/-- The reports about role graphs that have been built. -/
def linkEvents (m : Model) (graphs : RoleGraphs) : List LogEvent :=
  graphs.filterMap fun (key, _) =>
    (m.find? .role key).map fun d =>
      { level := .debug, source := "contextauthz.model.model",
        message := "Built role links for " ++ key ++ ": " ++ toString d.rows.length ++ " rows" }

end Model

end AccessControl
