import AccessControl.Call.Argument
import AccessControl.Call.Signature
import AccessControl.Session.Basic

/-!
# Arguments and answers

How the arguments of an operation are read as texts, positions, rows and objects, and
what an operation answers.
-/

namespace AccessControl

/-- What an operation answers. -/
inductive Answer where
  | value (v : Value)
  | definition (d : Definition)
  | definitions (entries : List (String × Definition))

namespace Answer

/-- The answer of an operation that has nothing to tell. -/
def nothing : Answer := .value .none

/-- A truth value as an answer. -/
def bool (b : Bool) : Answer := .value (.bool b)

/-- A text as an answer. -/
def text (s : String) : Answer := .value (.text s)

/-- Texts as an answer. -/
def texts (items : List String) : Answer := .value (Value.texts items)

/-- Rows as an answer. -/
def rows (rows : List Row) : Answer := .value (.list (rows.map Value.texts))

end Answer

/-- An operation by its signature and what it does. -/
structure Operation where
  signature : Signature
  body : Arguments → SessionAction Answer

namespace Operation

/-- Carries out an operation with the arguments of a call. -/
def call (o : Operation) (arguments : List Value) (keywords : List (String × Value)) :
    SessionAction Answer := do
  let a ← o.signature.bind arguments keywords
  o.body a

/-- An operation with fixed parameters; those in `optional` may be left out. -/
def fixed (owner name : String) (required optional : List String)
    (body : Arguments → SessionAction Answer) : Operation :=
  ⟨{ name := owner ++ "." ++ name, required, optional, implicit := 1 }, body⟩

/-- An operation with any number of further arguments. -/
def variadic (owner name : String) (required : List String)
    (body : Arguments → SessionAction Answer) : Operation :=
  ⟨{ name := owner ++ "." ++ name, required, variadic := true, implicit := 1 }, body⟩

end Operation

/-! ### Reading arguments -/

namespace Value

/-- The values of a row given as one list or as arguments of its own. -/
def rowOf : List Value → List Value
  | [.list items] | [.tuple items] => items
  | values => values

/-- Tests of the fields from a position on. -/
def filterOf (test : Value → FieldTest) (start : Value) (values : List Value) : RowFilter :=
  ⟨.ofValue start, values.map test⟩

end Value

namespace Arguments

/-- The argument of a parameter unless it is left out or none. -/
def present? (a : Arguments) (name : String) : Option Value :=
  match a.get? name with
  | some .none => none
  | given => given

/-- The rule that a parameter gives. -/
def items (a : Arguments) (name : String) : Except Failure (List Value) := (a.get name).items

/-- The kind of definition that a parameter names. -/
def kind (a : Arguments) (name : String) : Except Failure SectionKind :=
  SectionKind.ofValue (a.get name)

end Arguments

namespace Session

/-- The function of the host that a value names. -/
def hostFunction? (v : Value) : SessionAction (Option MatcherFunction) := do
  return Functions.ofValue? (← get).host v

/-- A test of names by a function of the host. -/
def nameMatcher (f : MatcherFunction) : NameMatcher := fun name stored =>
  (f [name.value, stored.value]).map Value.isTruthy

/-- A test of names by a value that is no function. -/
def brokenMatcher (v : Value) : NameMatcher := fun _ _ =>
  .error (.type ("'" ++ v.kind ++ "' object is not callable"))

/-- The test of names that a value gives, if any. -/
def nameMatcherOf (v : Value) : SessionAction (Option NameMatcher) := do
  match v, ← hostFunction? v with
  | .none, _ => return none
  | _, some f => return some (nameMatcher f)
  | v, none => return some (brokenMatcher v)

/-- A definition has a rule that a host gives.  Without a key it is first asked whether there
is any definition, and then which. -/
def hasRule (m : Model) (kind : SectionKind) (key : Value) (rule : Except Failure (List Value)) :
    Except Failure Bool := do
  match key with
  | .text key => if m.has kind key then return m.hasRow kind key (← rule) else return false
  | .none =>
    if m.hasKind kind then
      let _ ← rule
      let _ ← Model.keyOf kind .none
    return false
  | key =>
    key.checkKey
    return false

/-- The model that a value refers to; any other value lacks the attribute that is asked
for. -/
def modelOf (v : Value) (attributeName : String) : SessionAction (Nat × Model) := do
  match ← objectOf? v with
  | some (id, .model m) => return (id, m)
  | _ => throw (v.noAttribute attributeName)

/-- The role graph that a value refers to; any other value lacks the attribute that is
asked for. -/
def graphOf (v : Value) (attributeName : String) : SessionAction (Nat × RoleGraph) := do
  match ← objectOf? v with
  | some (id, .graph g) => return (id, g)
  | _ => throw (v.noAttribute attributeName)

end Session

end AccessControl
