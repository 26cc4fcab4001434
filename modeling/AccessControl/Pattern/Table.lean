import AccessControl.Pattern.Function
import AccessControl.Value.Entries

/-!
# Function tables

The functions that expressions can call, by name.  The name `eval` is taken by the
expressions themselves.
-/

namespace AccessControl

namespace Functions

/-- The table that holds the pattern functions. -/
def standard : Functions := PatternFunction.defaults

/-- The function that a value names, among those of a host or the pattern functions. -/
def ofValue? (host : Functions) : Value → Option MatcherFunction
  | .function name => (host.lookup name).or (PatternFunction.all.lookup name)
  | _ => none

/-- The failure of registering a value that is no function. -/
def notCallable (name : Value) : Failure :=
  .type ("matcher function " ++ name.shown ++ " must be callable")

/-- Registers a function under a name. -/
def register (table : Functions) (name : String) (f : MatcherFunction) : Except Failure Functions :=
  if name = "eval" then .error (.ofHost .value "'eval' is reserved for policy sub-expressions")
  else .ok (putEntry name f table)

/-- The names of a table in alphabetical order. -/
def names (table : Functions) : List String :=
  (table.map (·.1)).mergeSort fun a b => !(b < a)

/-- The text of a table as messages show it. -/
def shown (table : Functions) : String :=
  "FunctionMap(" ++ (Value.texts (names table)).shown ++ ")"

end Functions

end AccessControl
