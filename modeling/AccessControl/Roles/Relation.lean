import AccessControl.Expr.Evaluation
import AccessControl.Roles.Graph

/-!
# Role relations in expressions

The function by which an expression asks whether a name has a role.
-/

namespace AccessControl

/-- The function of a role relation: two names, and a domain if it is given.  Without a
graph a name has itself as its only role. -/
def roleFunction (graph : Option RoleGraph) : MatcherFunction := fun arguments =>
  if arguments.length < 2 then
    .error (.evaluation (.fewRoleArguments arguments.length))
  else
    match Value.firstOther? arguments with
    | some v => .error (.evaluation (.roleArgumentKind v.kind))
    | none =>
      match arguments, graph with
      | .text name :: .text role :: _, none => .ok (.bool (name == role))
      | [.text name, .text role], some g =>
        (g.hasLink (.text name) (.text role) defaultDomain).map .bool
      | .text name :: .text role :: .text domain :: _, some g =>
        (g.hasLink (.text name) (.text role) (.text domain)).map .bool
      | _, _ => .ok .none

end AccessControl
