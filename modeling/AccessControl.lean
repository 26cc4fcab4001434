import AccessControl.Failure.Instance
import AccessControl.Log.Console
import AccessControl.Policy.Values
import AccessControl.Proofs.Domains.Isolation
import AccessControl.Proofs.Enforcer.Batch
import AccessControl.Proofs.Enforcer.Installed
import AccessControl.Proofs.Enforcer.Lockstep
import AccessControl.Proofs.Enforcer.Priority
import AccessControl.Proofs.Enforcer.Scan
import AccessControl.Proofs.Rbac.Audit
import AccessControl.Session.Step
import AccessControl.Proofs.Expr.Inlining
import AccessControl.Proofs.Failure.Agreement
import AccessControl.Proofs.Roles.Partial
import AccessControl.Proofs.Expr.Agreement
import AccessControl.Proofs.Enforcer.Orderless
import AccessControl.Proofs.Enforcer.Reload
import AccessControl.Proofs.Text.Blank
import AccessControl.Proofs.Text.Utf8
import AccessControl.Proofs.Policy.Quoting
import AccessControl.Proofs.Files.Writing
import AccessControl.Proofs.Model.Operations
import AccessControl.Proofs.Policy.Reload
import AccessControl.Proofs.Expr.Grammar
import AccessControl.Proofs.Expr.Precedence
import AccessControl.Proofs.Number.Numeral
import AccessControl.Proofs.Expr.Spelling
import AccessControl.Proofs.Expr.Printing
import AccessControl.Proofs.Enforcer.Traces
import AccessControl.Proofs.Roles.Transitive
import AccessControl.Proofs.Enforcer.RoleQueries
import AccessControl.Proofs.Enforcer.Keys
import AccessControl.Proofs.Enforcer.Permissions
import AccessControl.Proofs.Enforcer.Deletion
import AccessControl.Proofs.Session.Building
import AccessControl.Proofs.Effect.Laziness
import AccessControl.Proofs.Enforcer.Removal
import AccessControl.Proofs.Domains.Deletion
import AccessControl.Proofs.Pattern.Escapes
import AccessControl.Proofs.Expr.Escapes
import AccessControl.Proofs.Expr.Lexing
import AccessControl.Proofs.Expr.Positions
import AccessControl.Proofs.Expr.Paths
import AccessControl.Proofs.Expr.Machine
import AccessControl.Proofs.Model.Layout
import AccessControl.Proofs.Policy.Texts
import AccessControl.Proofs.Pattern.Glob
import AccessControl.Proofs.Pattern.Segments
import AccessControl.Proofs.Pattern.Literal
import AccessControl.Proofs.Log.Secrets
import AccessControl.Proofs.Log.Record
import AccessControl.Proofs.Pattern.Bindings
import AccessControl.Proofs.Log.Length
import AccessControl.Proofs.Effect.Spacing
import AccessControl.Proofs.Roles.Edges
