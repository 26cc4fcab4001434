import AccessControl.Failure.Cause
import AccessControl.Failure.Class

/-!
# Reports of failure

What a host is told about a failure: the class, the message, the stable code, the
details by name, and the kind of the error that caused it.
-/

namespace AccessControl

/-! ### Messages -/

/-- The token found where another was expected. -/
def gotText : Option String → String
  | none => "end of expression"
  | some text => quoted text

def GrammarFault.message : GrammarFault → String
  | .unexpectedCharacter c => "Unexpected character " ++ quoted (String.singleton c)
  | .openText => "Unterminated string literal"
  | .empty => "Empty expression"
  | .unexpectedToken text => "Unexpected token " ++ quoted text
  | .expectedValue got => "Expected a value, got " ++ gotText got
  | .expected what got => what ++ ", got " ++ gotText got
  | .expectedName => "Expected identifier after '.'"
  | .methodCall path => "Method calls are not supported (" ++ path ++ ")"

/-- The message of a grammar error, with the place and the text. -/
def grammarMessage (problem source : String) (position : Int) : String :=
  problem ++ " at position " ++ toString position ++ " in " ++ quoted source

def ModelFault.message : ModelFault → String
  | .unknownKind name => "unknown section kind " ++ name.shown
  | .badKey key letter =>
    "section key " ++ quoted key ++ " must be " ++ quoted letter ++ " followed by optional digits"
  | .emptyField key text => "empty field name in " ++ key ++ " = " ++ quoted text
  | .badField name key => "invalid field name " ++ quoted name ++ " in " ++ key
  | .repeatedField key text => "duplicate field name in " ++ key ++ " = " ++ quoted text
  | .roleArity key n =>
    "role definition " ++ key ++ " must have 2 or 3 fields, got " ++ toString n
  | .badMatcher key fault source position =>
    "invalid matcher " ++ key ++ ": " ++ grammarMessage fault.message source position
  | .redefined key n previous =>
    key ++ " redefined with " ++ toString n ++ " fields, previously " ++ toString previous
  | .missingSections letters => "missing required sections: " ++ Value.commas letters
  | .noSection _ key => "model has no section " ++ key.shown
  | .noRoleDefinition key => "model has no role definition " ++ key.shown
  | .outsideSection line => "line " ++ toString line ++ ": definition outside of a section"
  | .noDefinition line text =>
    "line " ++ toString line ++ ": expected 'key = value', got " ++ quoted text
  | .openContinuation line => "line " ++ toString line ++ ": unterminated line continuation"
  | .unsupportedEffect text _ => "unsupported policy effect: " ++ quoted text
  | .unsupportedStrategy name => "unsupported policy effect: " ++ name.shown
  | .unreadable path error => "cannot read model file " ++ path ++ ": " ++ error.message

def EvaluationFault.message : EvaluationFault → String
  | .truthNumber b => "boolean " ++ Value.boolText b ++ " used in numeric context"
  | .notNumeric text => "non-numeric value " ++ quoted text ++ " used in numeric context"
  | .kindNumber kind => kind ++ " value used in numeric context"
  | .expectedTruth kind shown => "expected a boolean, got " ++ kind ++ " " ++ shown
  | .unknownName name => "unknown identifier " ++ quoted name
  | .unknownSection s path => "unknown section " ++ quoted s ++ " in " ++ path
  | .unresolvable path => "unresolvable field reference " ++ path
  | .noKey key path => "key " ++ quoted key ++ " not found while resolving " ++ path
  | .noAttribute name path =>
    "attribute " ++ quoted name ++ " not found while resolving " ++ path
  | .notContainer kind => "'in' expects a tuple on the right, got " ++ kind
  | .zeroDivisor left op right => "division by zero in " ++ left ++ " " ++ op ++ " " ++ right
  | .unknownFunction name => "unknown function " ++ quoted name
  | .callFailed name error => name ++ "() failed: " ++ error.message
  | .evalArity n => "eval() takes exactly 1 argument, got " ++ toString n
  | .evalKind kind => "eval() expects an expression string, got " ++ kind
  | .cyclicEval chain => "cyclic eval() reference: " ++ " -> ".intercalate chain
  | .deepEval => "eval() nesting exceeds 16 levels"
  | .fewRoleArguments n =>
    "role function expects at least 2 arguments, got " ++ toString n
  | .roleArgumentKind kind => "role function arguments must be strings, got " ++ kind
  | .badPattern pattern error =>
    "invalid regular expression " ++ quoted pattern ++ ": " ++ error.message
  | .notAddress text => "ipMatch: " ++ quoted text ++ " is not a valid IP address"
  | .notNetwork text => "ipMatch: " ++ quoted text ++ " is neither an IP address nor a CIDR"

def RowFault.message : RowFault → String
  | .arity key row expected =>
    key ++ " row " ++ (Value.list row).shown ++ " has " ++ toString row.length
      ++ " values, expected " ++ toString expected
  | .notText key kind _ => key ++ " row values must be strings, got " ++ kind
  | .priority key error => "non-numeric priority in " ++ key ++ ": " ++ error.message

def SourceFault.message : SourceFault → String
  | .noValues row => "policy row " ++ (Value.list row).shown ++ " has no values"
  | .unknownType key => "unknown policy type " ++ quoted key
  | .noSection key row =>
    "model has no section " ++ quoted key ++ " for row " ++ (Value.list row).shown
  | .malformedLine line error => "malformed policy line " ++ quoted line ++ ": " ++ error.message
  | .unreadable path error => "cannot read policy file " ++ path ++ ": " ++ error.message
  | .unwritable path error => "cannot write policy file " ++ path ++ ": " ++ error.message
  | .missing => "no adapter configured"

/-- The message of a request of the wrong size. -/
def arityMessage (expected actual section_ : String) : String :=
  "invalid request size: expected " ++ expected ++ " values for '" ++ section_ ++ "', got "
    ++ actual

/-! ### Details and causes -/

def ModelFault.details : ModelFault → List (String × Value)
  | .unknownKind name => [("section", name)]
  | .badKey key _ | .emptyField key _ | .badField _ key | .repeatedField key _
  | .roleArity key _ | .badMatcher key .. | .redefined key _ _ => [("key", .text key)]
  | .noRoleDefinition key => [("key", key)]
  | .missingSections letters => [("missing", Value.texts letters)]
  | .noSection letter key => [("section", .text letter), ("key", key)]
  | .outsideSection line | .noDefinition line _ | .openContinuation line =>
    [("line", .int line)]
  | .unsupportedEffect text supported =>
    [("expression", .text text), ("supported", Value.texts supported)]
  | .unsupportedStrategy _ => []
  | .unreadable path _ => [("path", .text path)]

def RowFault.details : RowFault → List (String × Value)
  | .arity key row _ | .notText key _ row => [("key", .text key), ("row", .list row)]
  | .priority key _ => [("key", .text key)]

def SourceFault.details : SourceFault → List (String × Value)
  | .noValues row => [("row", .list row)]
  | .unknownType key | .noSection key _ => [("ptype", .text key)]
  | .malformedLine line _ => [("line", .text line)]
  | .unreadable path _ | .unwritable path _ => [("path", .text path)]
  | .missing => []

def ModelFault.cause : ModelFault → Option String
  | .badMatcher .. => some ErrorClass.grammar.name
  | .unreadable _ error => some error.kind.name
  | _ => none

def EvaluationFault.cause : EvaluationFault → Option String
  | .callFailed _ error | .badPattern _ error => some error.kind.name
  | .notAddress _ | .notNetwork _ => some HostErrorKind.value.name
  | _ => none

def RowFault.cause : RowFault → Option String
  | .priority _ error => some error.kind.name
  | _ => none

def SourceFault.cause : SourceFault → Option String
  | .malformedLine _ error | .unreadable _ error | .unwritable _ error => some error.kind.name
  | _ => none

/-! ### Reports -/

/-- What a host is told about a failure. -/
inductive Report where
  /-- An error of the library. -/
  | library (cls : ErrorClass) (message code : String) (details : List (String × Value))
      (cause : Option String)
  /-- An error of the host. -/
  | host (error : HostError)
  /-- A rejected record. -/
  | rejected (issues : List Issue)

/-- The report of a failure. -/
def Failure.report : Failure → Report
  | .model fault => .library .model fault.message ErrorClass.model.code fault.details fault.cause
  | .arity expected actual s =>
    .library .arity (arityMessage (toString expected) (toString actual) s) ErrorClass.arity.code
      [("expected", .int expected), ("actual", .int actual), ("section", .text s)] none
  | .grammar fault text position =>
    .library .grammar (grammarMessage fault.message text position) ErrorClass.grammar.code
      [("expression", .text text), ("position", .int position)] none
  | .evaluation fault =>
    .library .evaluation fault.message ErrorClass.evaluation.code [] fault.cause
  | .field name key =>
    .library .field ("field " ++ name.shown ++ " not found in " ++ key) ErrorClass.field.code
      [("ptype", .text key), ("field", name)] none
  | .row fault => .library .row fault.message ErrorClass.row.code fault.details fault.cause
  | .source fault => .library .source fault.message ErrorClass.source.code fault.details fault.cause
  | .hostSource message code => .library .source message code [] none
  | .host error => .host error
  | .rejected issues => .rejected issues

/-- The message of a report. -/
def Report.message : Report → String
  | .library _ message _ _ _ => message
  | .host error => error.message
  | .rejected _ => ""

/-- The name of the class of a report. -/
def Report.kind : Report → String
  | .library cls _ _ _ _ => cls.name
  | .host error => error.kind.name
  | .rejected _ => "ValidationError"

end AccessControl
