import AccessControl.Call.Signature
import AccessControl.Failure.Report

/-!
# Errors made by hosts

An error of one of the library's classes as a host makes it: from arguments in order and
by name, with defaults for what is left out.
-/

namespace AccessControl

/-- An error with its message, code, details and further attributes. -/
structure ErrorInstance where
  cls : ErrorClass
  message : Value
  code : Value
  details : List (String × Value)
  attributes : List (String × Value) := []

namespace ErrorInstance

/-- The value, or a text if the value counts as false. -/
def orText (v : Value) (text : String) : Value := if v.isTruthy then v else .text text

/-- The signature of the constructor of a class. -/
def signature (cls : ErrorClass) : Signature :=
  match cls with
  | .arity =>
    { name := "RequestArityMismatchError.__init__", required := ["expected", "actual"],
      optional := ["section"], implicit := 1 }
  | .grammar =>
    { name := "ExpressionSyntaxError.__init__", required := ["message"],
      optional := ["expression", "position"], implicit := 1 }
  | _ =>
    { name := "ContextAuthzError.__init__", optional := ["message", "code"], implicit := 1 }

/-- An error whose details are the arguments given by names of the host's own. -/
def ofDetails (cls : ErrorClass) (arguments : List Value) (keywords : List (String × Value)) :
    Except Failure ErrorInstance := do
  let s := signature cls
  let own := fun (entry : String × Value) => s.ordered.contains entry.1
  let a ← s.bind arguments (keywords.filter own)
  return {
    cls, message := orText (a.get "message") cls.defaultMessage
    code := orText (a.get "code") cls.code
    details := keywords.filter fun entry => !own entry }

/-- An error about a request of the wrong size. -/
def ofSizes (arguments : List Value) (keywords : List (String × Value)) :
    Except Failure ErrorInstance := do
  let a ← (signature .arity).bind arguments keywords
  let expected := a.get "expected"
  let actual := a.get "actual"
  let section_ := (a.get? "section").getD (.text "r")
  return {
    cls := .arity
    message := .text (arityMessage expected.display actual.display section_.display)
    code := .text ErrorClass.arity.code
    details := [("expected", expected), ("actual", actual), ("section", section_)]
    attributes := [("expected", expected), ("actual", actual)] }

/-- An error about a place in a text. -/
def ofPlace (arguments : List Value) (keywords : List (String × Value)) :
    Except Failure ErrorInstance := do
  let a ← (signature .grammar).bind arguments keywords
  let expression := (a.get? "expression").getD (.text "")
  let position := (a.get? "position").getD (.int 0)
  return {
    cls := .grammar
    message := .text ((a.get "message").display ++ " at position " ++ position.display ++ " in "
      ++ expression.shown)
    code := .text ErrorClass.grammar.code
    details := [("expression", expression), ("position", position)]
    attributes := [("expression", expression), ("position", position)] }

/-- Makes an error of a class. -/
def make (cls : ErrorClass) (arguments : List Value) (keywords : List (String × Value)) :
    Except Failure ErrorInstance :=
  match cls with
  | .arity => ofSizes arguments keywords
  | .grammar => ofPlace arguments keywords
  | cls => ofDetails cls arguments keywords

/-- The attributes of an error by name. -/
def allAttributes (e : ErrorInstance) : List (String × Value) :=
  [("message", e.message), ("code", e.code), ("details", .mapping e.details)] ++ e.attributes

/-- The text of an error. -/
def text (e : ErrorInstance) : String := e.message.display

end ErrorInstance

/-- The text of an error of the host by its class and arguments. -/
def hostErrorText (name : String) : List Value → String
  | [] => ""
  | [v] => if name = "KeyError" then v.shown else v.display
  | arguments => (Value.tuple arguments).display

/-- The line that reports an error of a class, which may be one of the library's. -/
def errorLine (name : String) (arguments : List Value) : Except Failure String := do
  let (title, text) ← match ErrorClass.ofName? name with
    | some cls => do
      let e ← ErrorInstance.make cls arguments []
      pure ("contextauthz.exceptions." ++ name, e.text)
    | none => pure (name, hostErrorText name arguments)
  return if text = "" then title else title ++ ": " ++ text

end AccessControl
