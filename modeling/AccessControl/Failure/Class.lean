import AccessControl.Value.Entries

/-!
# Error classes

The classes of the errors that this library raises, with their stable codes and
default messages, and the registry that finds a class by its code.
-/

namespace AccessControl

/-- The class of an error. -/
inductive ErrorClass where
  | base
  | model
  | arity
  | grammar
  | evaluation
  | field
  | row
  | source
  deriving DecidableEq, Inhabited

namespace ErrorClass

/-- The name of a class. -/
def name : ErrorClass → String
  | .base => "ContextAuthzError"
  | .model => "MalformedModelError"
  | .arity => "RequestArityMismatchError"
  | .grammar => "ExpressionSyntaxError"
  | .evaluation => "ExpressionEvaluationError"
  | .field => "FieldNotFoundError"
  | .row => "InvalidPolicyRowError"
  | .source => "AdapterError"

/-- The stable code of a class. -/
def code : ErrorClass → String
  | .base => "INTERNAL_ERROR"
  | .model => "MALFORMED_MODEL"
  | .arity => "REQUEST_ARITY_MISMATCH"
  | .grammar => "EXPRESSION_SYNTAX_ERROR"
  | .evaluation => "EXPRESSION_EVALUATION_ERROR"
  | .field => "FIELD_NOT_FOUND"
  | .row => "INVALID_POLICY_ROW"
  | .source => "ADAPTER_ERROR"

/-- The message of an error raised without one. -/
def defaultMessage : ErrorClass → String
  | .base => "An internal error occurred"
  | .model => "Malformed model definition"
  | .arity => "Request size does not match the request definition"
  | .grammar => "Invalid expression syntax"
  | .evaluation => "Expression evaluation failed"
  | .field => "Field not found"
  | .row => "Invalid policy row"
  | .source => "Policy adapter failure"

/-- All classes, in the order of their registration. -/
def all : List ErrorClass :=
  [.base, .model, .arity, .grammar, .evaluation, .field, .row, .source]

/-- The class of a given name. -/
def ofName? (name : String) : Option ErrorClass := all.find? (·.name == name)

/-- The names of the classes above a class, nearest first. -/
def ancestors : ErrorClass → List String
  | .base => ["Exception"]
  | _ => ["ContextAuthzError", "Exception"]

end ErrorClass

/-- A registry of class names by code, in the order of first registration. -/
structure ErrorRegistry where
  entries : List (String × String) := []
  deriving DecidableEq, Inhabited

namespace ErrorRegistry

/-- The registry that holds every class of the library. -/
def standard : ErrorRegistry := ⟨ErrorClass.all.map fun c => (c.code, c.name)⟩

/-- Registers a class under a code; a code that is known keeps its place. -/
def register (registry : ErrorRegistry) (code name : String) : ErrorRegistry :=
  ⟨putEntry code name registry.entries⟩

/-- The class registered under a code. -/
def get? (registry : ErrorRegistry) (code : String) : Option String :=
  registry.entries.lookup code

end ErrorRegistry

end AccessControl
