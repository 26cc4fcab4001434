import AccessControl.Value.Basic

/-!
# Causes of failure

Why an operation fails.  A failure is one of the library's own causes, sorted by the
class of error it is raised as, an error of the host, or a rejected record.
-/

namespace AccessControl

/-- The kinds of error that a host or its files raise. -/
inductive HostErrorKind where
  | type
  | value
  | missingAttribute
  | index
  | key
  | overflow
  | runtime
  | internal
  | notImplemented
  | pattern
  | delimited
  | fileNotFound
  | isDirectory
  | notDirectory
  | fileExists
  | longName
  | largeValue
  | decoding
  deriving DecidableEq, Inhabited

/-- The name of a kind of host error. -/
def HostErrorKind.name : HostErrorKind → String
  | .type => "TypeError"
  | .value => "ValueError"
  | .missingAttribute => "AttributeError"
  | .index => "IndexError"
  | .key => "KeyError"
  | .overflow => "OverflowError"
  | .runtime => "RuntimeError"
  | .internal => "SystemError"
  | .notImplemented => "NotImplementedError"
  | .pattern => "re.error"
  | .delimited => "csv.Error"
  | .fileNotFound => "FileNotFoundError"
  | .isDirectory => "IsADirectoryError"
  | .notDirectory => "NotADirectoryError"
  | .fileExists => "FileExistsError"
  | .longName | .largeValue => "OSError"
  | .decoding => "UnicodeDecodeError"

/-- An error of the files themselves, not of what is asked of them. -/
def HostErrorKind.isOfFiles : HostErrorKind → Bool
  | .fileNotFound | .isDirectory | .notDirectory | .fileExists | .longName => true
  | _ => false

/-- An error of the host: its kind and its message. -/
structure HostError where
  kind : HostErrorKind
  message : String
  deriving DecidableEq, Inhabited

/-! ### Causes by class -/

/-- What is wrong with the text of an expression. -/
inductive GrammarFault where
  | unexpectedCharacter (c : Char)
  | openText
  | empty
  | unexpectedToken (text : String)
  /-- A value is expected; `got` is the token found, or none at the end. -/
  | expectedValue (got : Option String)
  /-- A closing parenthesis is expected as `what` says. -/
  | expected (what : String) (got : Option String)
  | expectedName
  | methodCall (path : String)
  deriving DecidableEq

/-- What is wrong with a model. -/
inductive ModelFault where
  | unknownKind (name : Value)
  | badKey (key letter : String)
  | emptyField (key text : String)
  | badField (name key : String)
  | repeatedField (key text : String)
  | roleArity (key : String) (fields : Nat)
  | badMatcher (key : String) (fault : GrammarFault) (source : String) (position : Nat)
  | redefined (key : String) (fields previous : Nat)
  | missingSections (letters : List String)
  | noSection (letter : String) (key : Value)
  | noRoleDefinition (key : Value)
  | outsideSection (line : Nat)
  | noDefinition (line : Nat) (text : String)
  | openContinuation (line : Nat)
  | unsupportedEffect (text : String) (supported : List String)
  | unsupportedStrategy (name : Value)
  | unreadable (path : String) (error : HostError)

/-- Why an expression has no value. -/
inductive EvaluationFault where
  | truthNumber (b : Bool)
  | notNumeric (text : String)
  | kindNumber (kind : String)
  | expectedTruth (kind shown : String)
  | unknownName (name : String)
  | unknownSection (section_ path : String)
  | unresolvable (path : String)
  | noKey (key path : String)
  | noAttribute (name path : String)
  | notContainer (kind : String)
  | zeroDivisor (left op right : String)
  | unknownFunction (name : String)
  | callFailed (name : String) (error : HostError)
  | evalArity (arguments : Nat)
  | evalKind (kind : String)
  | cyclicEval (chain : List String)
  | deepEval
  | fewRoleArguments (arguments : Nat)
  | roleArgumentKind (kind : String)
  | badPattern (pattern : String) (error : HostError)
  | notAddress (text : String)
  | notNetwork (text : String)
  deriving DecidableEq

/-- What is wrong with a policy row. -/
inductive RowFault where
  | arity (key : String) (row : List Value) (expected : Nat)
  | notText (key kind : String) (row : List Value)
  | priority (key : String) (error : HostError)

/-- Why a policy source cannot be read or written. -/
inductive SourceFault where
  | noValues (row : List Value)
  | unknownType (key : String)
  | noSection (key : String) (row : List Value)
  | malformedLine (line : String) (error : HostError)
  | unreadable (path : String) (error : HostError)
  | unwritable (path : String) (error : HostError)
  | missing

/-- A part of a record that is rejected: the path to it, the rule it breaks and the
message. -/
structure Issue where
  path : List String
  rule : String
  message : String
  deriving DecidableEq, Inhabited

/-- Why an operation fails. -/
inductive Failure where
  | model (fault : ModelFault)
  | arity (expected actual : Nat) (section_ : String)
  | grammar (fault : GrammarFault) (source : String) (position : Nat)
  | evaluation (fault : EvaluationFault)
  | field (field : Value) (key : String)
  | row (fault : RowFault)
  | source (fault : SourceFault)
  /-- An adapter error that a host function raises with a code of its own. -/
  | hostSource (message code : String)
  | host (error : HostError)
  | rejected (issues : List Issue)

namespace Failure

/-- A host error of the given kind and message. -/
def ofHost (kind : HostErrorKind) (message : String) : Failure := .host ⟨kind, message⟩

/-- A host error about the kind of a value. -/
def type (message : String) : Failure := ofHost .type message

/-- The failure is raised as one of the library's own error classes. -/
def isLibrary : Failure → Bool
  | .host _ | .rejected _ => false
  | _ => true

end Failure

end AccessControl
