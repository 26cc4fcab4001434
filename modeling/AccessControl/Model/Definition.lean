import AccessControl.Effect.Strategy
import AccessControl.Expr.Evaluation
import AccessControl.Model.Section
import AccessControl.Text.Digits

/-!
# Definitions

One named definition of a model: the shape of requests, of policy rows or of role rows,
an effect strategy, or a matcher.  A shape of rows also holds the rows, which are lists
of texts, one for every field.
-/

namespace AccessControl

/-- A policy row or a role row. -/
abbrev Row := List String

/-- What a definition says. -/
inductive Meaning where
  | request (fields : List String)
  | policy (fields : List String)
  | role (fields : List String)
  | effect (strategy : Strategy)
  | matcher (m : Matcher)

namespace Meaning

/-- The kind of definition that says this. -/
def kind : Meaning → SectionKind
  | .request _ => .request
  | .policy _ => .policy
  | .role _ => .role
  | .effect _ => .effect
  | .matcher _ => .matcher

/-- The fields of a shape. -/
def fields : Meaning → List String
  | .request fs | .policy fs | .role fs => fs
  | .effect _ | .matcher _ => []

/-- The strategy of an effect. -/
def strategy? : Meaning → Option Strategy
  | .effect s => some s
  | _ => none

/-- The matcher. -/
def matcher? : Meaning → Option Matcher
  | .matcher m => some m
  | _ => none

/-! ### Reading -/

/-- The text is a name of plain letters, digits and underscores that starts with no
digit. -/
def isFieldName (name : String) : Bool :=
  match name.toList with
  | [] => false
  | c :: rest =>
    (c.isAlpha || c == '_') && rest.all fun d => d.isAlphanum || d == '_'

/-- The fields that a text lists between commas. -/
def readFields (key text : String) : Except Failure (List String) :=
  let parts := (splitAt ',' text.toList).map fun part => String.ofList (trim part)
  if parts.contains "" then .error (.model (.emptyField key text)) else .ok parts

/-- The fields of requests or policy rows, which have names; `written` is the text
before it was trimmed. -/
def readNames (key written : String) : Except Failure (List String) := do
  let fields ← readFields key (strip written)
  match fields.find? fun f => !isFieldName f with
  | some f => .error (.model (.badField f key))
  | none =>
    if fields.eraseDups.length ≠ fields.length then
      .error (.model (.repeatedField key written))
    else return fields

/-- The fields of role rows, which are two or three. -/
def readPlaces (key text : String) : Except Failure (List String) := do
  let fields ← readFields key text
  if fields.length = 2 ∨ fields.length = 3 then return fields
  else .error (.model (.roleArity key fields.length))

/-- The matcher of a text; a text that is no expression is a fault of the model. -/
def readMatcher (key text : String) : Except Failure Matcher :=
  match Matcher.ofText text with
  | .error (.grammar fault source position) =>
    .error (.model (.badMatcher key fault source position))
  | result => result

/-- What a definition of some kind says by its text. -/
def ofText (kind : SectionKind) (key written : String) : Except Failure Meaning :=
  match kind with
  | .request => (readNames key written).map .request
  | .policy => (readNames key written).map .policy
  | .role => (readPlaces key (strip written)).map .role
  | .effect => (Strategy.ofText (strip written)).map .effect
  | .matcher => (readMatcher key (strip written)).map .matcher

end Meaning

/-- A definition: its key, its text, what it says, and its rows. -/
structure Definition where
  key : String
  text : String
  meaning : Meaning
  rows : List Row := []

namespace Definition

/-- The kind of a definition. -/
def kind (d : Definition) : SectionKind := d.meaning.kind

/-- The fields of a definition. -/
def fields (d : Definition) : List String := d.meaning.fields

/-- The number of fields. -/
def arity (d : Definition) : Nat := d.fields.length

/-- The position of a field. -/
def fieldIndex? (d : Definition) (name : String) : Option Nat := d.fields.idxOf? name

/-- The row that some values form, which must be texts, one for every field. -/
def checkRow (d : Definition) (values : List Value) : Except Failure Row :=
  if values.length ≠ d.arity then .error (.row (.arity d.key values d.arity))
  else
    match Value.allTexts? values with
    | some row => .ok row
    | none =>
      .error (.row (.notText d.key
        (((Value.firstOther? values).map Value.kind).getD Value.none.kind) values))

/-- The text of a definition as messages show it. -/
def shown (d : Definition) : String :=
  "Assertion(" ++ d.key ++ " = " ++ quoted d.text ++ ", rows=" ++ toString d.rows.length ++ ")"

end Definition

end AccessControl
