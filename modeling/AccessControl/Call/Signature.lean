import AccessControl.Failure.Cause

/-!
# Signatures

How the arguments of a call, in order and by name, are matched with the parameters of
a function, and what is said about a call that does not fit.
-/

namespace AccessControl

/-- The parameters of a function: those that must be given, those that may be, whether
any number more may follow, and those given by name only.  `implicit` counts the
arguments that a call does not show. -/
structure Signature where
  name : String
  required : List String := []
  optional : List String := []
  variadic : Bool := false
  named : List String := []
  implicit : Nat := 0
  deriving Inhabited

/-- The arguments of a call by parameter; a parameter that was not given has none. -/
structure Arguments where
  given : List (String × Value)
  rest : List Value := []
  deriving Inhabited

/-- The argument of a parameter. -/
def Arguments.get? (a : Arguments) (name : String) : Option Value := a.given.lookup name

/-- The argument of a parameter that was checked to be given. -/
def Arguments.get (a : Arguments) (name : String) : Value := (a.get? name).getD .none

namespace Signature

/-- The parameters that take arguments in order. -/
def ordered (s : Signature) : List String := s.required ++ s.optional

/-- Names in quotes, with commas and a last `and`. -/
def nameList (names : List String) : String :=
  match names.map fun n => "'" ++ n ++ "'" with
  | [] => ""
  | [a] => a
  | [a, b] => a ++ " and " ++ b
  | quotedNames =>
    Value.commas quotedNames.dropLast ++ ", and " ++ (quotedNames.getLast?).getD ""

/-- A count of arguments in words. -/
def plural (n : Nat) : String := if n = 1 then "argument" else "arguments"

/-- The message of a call with too many arguments in order. -/
def tooMany (s : Signature) (given namedGiven : Nat) : String :=
  let most := s.ordered.length + s.implicit
  let least := s.required.length + s.implicit
  let count := if s.optional.isEmpty then toString most
    else "from " ++ toString least ++ " to " ++ toString most
  let total := given + s.implicit
  let extra := if namedGiven = 0 then ""
    else " positional " ++ plural total ++ " (and " ++ toString namedGiven ++ " keyword-only "
      ++ plural namedGiven ++ ")"
  s.name ++ "() takes " ++ count ++ " positional "
    ++ (if s.optional.isEmpty then plural most else "arguments") ++ " but " ++ toString total
    ++ extra ++ (if total = 1 ∧ namedGiven = 0 then " was given" else " were given")

/-- The message of a call that leaves out parameters. -/
def missing (s : Signature) (names : List String) (what : String) : String :=
  s.name ++ "() missing " ++ toString names.length ++ " required " ++ what ++ " "
    ++ plural names.length ++ ": " ++ nameList names

/-- Adds the arguments given by name. -/
def addNamed (s : Signature) :
    List (String × Value) → List (String × Value) → Except Failure (List (String × Value))
  | [], given => .ok given
  | (key, v) :: rest, given =>
    if !(s.ordered ++ s.named).contains key then
      .error (.type (s.name ++ "() got an unexpected keyword argument '" ++ key ++ "'"))
    else if (given.lookup key).isSome then
      .error (.type (s.name ++ "() got multiple values for argument '" ++ key ++ "'"))
    else addNamed s rest (given ++ [(key, v)])

/-- Matches the arguments of a call with the parameters. -/
def bind (s : Signature) (arguments : List Value) (keywords : List (String × Value)) :
    Except Failure Arguments := do
  let given ← s.addNamed keywords (s.ordered.zip arguments)
  let extra := arguments.drop s.ordered.length
  if !s.variadic && !extra.isEmpty then
    let namedGiven := (keywords.filter fun (key, _) => s.named.contains key).length
    .error (.type (s.tooMany arguments.length namedGiven))
  else
    let absent := s.required.filter fun n => (given.lookup n).isNone
    if !absent.isEmpty then .error (.type (s.missing absent "positional"))
    else .ok ⟨given, extra⟩

end Signature

end AccessControl
