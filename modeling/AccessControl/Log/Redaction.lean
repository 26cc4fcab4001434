import AccessControl.Log.Preview
import AccessControl.Pattern.Regex.Replace
import AccessControl.Pattern.Table

/-!
# Redaction

Replacing what looks like a secret in a text: values behind a word such as `password`,
credentials of a request, keys of a service, and private keys.  The patterns are applied
one after the other, each to the result of those before it.
-/

namespace AccessControl

namespace Redaction

/-- The patterns of secrets. -/
def patterns : List String :=
  ["(?i)(?:password|passwd|pwd|secret|token|api[_-]?key|auth[_-]?token)\\s*[:=]\\s*[\"\\']?([^\"\\'\\s,]+)",
   "(?i)(?:bearer|basic)\\s+([a-zA-Z0-9+/=._-]+)",
   "(?i)(?:sk-|pk-)[a-zA-Z0-9]\x7b32,\x7d",
   "(?i)(?:-----BEGIN\\s+(?:RSA\\s+)?(?:PRIVATE\\s+)?KEY-----).*?(?:-----END\\s+(?:RSA\\s+)?(?:PRIVATE\\s+)?KEY-----)"]

/-- The options of the patterns. -/
def flags : PatternFlags := { ignoreCase := true, dotAll := true }

/-- What takes the place of a secret unless something else is asked for. -/
def defaultReplacement : String := "[REDACTED]"

/-- The parts of a replacement; without a backslash it is taken as it is. -/
def template (pattern : CompiledPattern) (replacement : String) :
    Except PatternError (List TemplatePart) :=
  if replacement.toList.contains '\\' then TemplatePart.ofText pattern replacement
  else .ok [.chars replacement.toList]

/-- Replaces every match of one pattern. -/
def replaceOne (replacement pattern : String) (text : List Char) : PatternResult (List Char) :=
  match CompiledPattern.ofTextWith flags pattern with
  | .error e => .error (e, pattern)
  | .ok compiled =>
    match template compiled replacement with
    | .error e => .error (e, replacement)
    | .ok parts => .ok (compiled.regex.replaceAll parts text)

/-- Replaces every match of some patterns, one after the other. -/
def replaceEach (replacement : String) : List String → List Char → PatternResult (List Char)
  | [], text => .ok text
  | pattern :: rest, text => do
    let text ← replaceOne replacement pattern text
    replaceEach replacement rest text

/-- The text with every secret replaced. -/
def redactWith (replacement text : String) : Except Failure String :=
  (PatternFunction.raw (replaceEach replacement patterns text.toList)).map String.ofList

/-- The text with every secret replaced by the usual mark. -/
def redact (text : String) : String :=
  match redactWith defaultReplacement text with
  | .ok text => text
  | .error _ => text

/-- The text that takes the place of a secret. -/
def replacementText : Value → Except Failure String
  | .text s => .ok s
  | v => do
    v.checkKey
    .error (.type ("decoding to str: need a bytes-like object, " ++ v.kind ++ " found"))

/-- A match as functions see it: they learn nothing of it but that it is one. -/
def matchValue : Value := .handle "re.Match" 0

/-- The text that a function puts in the place of a match that has some texts before it; it
may put nothing there. -/
def madeText (before : Nat) : Value → Except Failure (List Char)
  | .none => .ok []
  | .text s => .ok s.toList
  | v => .error (.type ("sequence item " ++ toString before ++ ": expected str instance, "
      ++ v.kind ++ " found"))

/-- Replaces every match of one pattern by what a function makes of it, which is the same for
all of them. -/
def replaceBy (f : MatcherFunction) (text : List Char) (pattern : String) :
    Except Failure (List Char) :=
  match CompiledPattern.ofTextWith flags pattern with
  | .error _ => .ok text
  | .ok compiled =>
    match compiled.regex.searchFrom (fun _ => true) text (.start text) with
    | none => .ok text
    | some (first, _) => do
      let made ← madeText (if first.position = 0 then 0 else 1) (← f [matchValue])
      return compiled.regex.replaceAll [.chars made] text

/-- The text with every secret replaced by what takes its place, a text or a function. -/
def redactBy (host : Functions) (replacement : Value) (text : String) : Except Failure String :=
  match Functions.ofValue? host replacement with
  | some f => (patterns.foldlM (replaceBy f) text.toList).map String.ofList
  | none => do redactWith (← replacementText replacement) text

/-- The parameters of a redaction. -/
def signature : Signature :=
  { name := "redact_secrets", required := ["text"], optional := ["replacement"] }

/-- A value with what a host gives by name: a text with every secret replaced, and any other
value as it is. -/
def call (host : Functions) (v : Value) (keywords : List (String × Value)) :
    Except Failure Value := do
  let a ← signature.bind [v] keywords
  match v with
  | .text s =>
    let replacement := (a.get? "replacement").getD (.text defaultReplacement)
    return .text (← redactBy host replacement s)
  | v => return v

/-- The parameters of the text of a value in a log. -/
def logSignature : Signature :=
  { name := "safe_log_value", required := ["value"], optional := ["limit", "redact"] }

/-- The text of a value in a log with what a host gives by name. -/
def logCall (v : Value) (keywords : List (String × Value)) : Except Failure String := do
  let a ← logSignature.bind [v] keywords
  let preview ← Preview.ofLimited v (Preview.limitOf a)
  return if ((a.get? "redact").getD (.bool true)).isTruthy then redact preview else preview

/-- The preview of a value, with its secrets replaced if asked for. -/
def logText (v : Value) (limit : Int) (redacted : Bool) : String :=
  let preview := Preview.ofValue v limit
  if redacted then redact preview else preview

end Redaction

end AccessControl
