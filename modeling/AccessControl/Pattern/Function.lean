import AccessControl.Call.Argument
import AccessControl.Call.Signature
import AccessControl.Expr.Evaluation
import AccessControl.Pattern.Address
import AccessControl.Pattern.Glob

/-!
# Pattern functions

The built-in functions of matchers as functions on values, with the errors of
arguments that are no texts, and the table that names them in expressions.
-/

namespace AccessControl

namespace PatternFunction

/-! ### Arguments -/

/-- The text in which a regular expression is looked for. -/
def subject : Value → Except Failure String
  | .text s => .ok s
  | v => .error (.type ("expected string or bytes-like object, got '" ++ v.kind ++ "'"))

/-- The text of a regular expression. -/
def expression (v : Value) : Except Failure String := do
  v.checkKey
  match v with
  | .text s => return s
  | _ => .error (.type "first argument must be string or compiled pattern")

/-- The parts of a glob that is given as a tuple of texts: a sign counts only if it is a
text of its own, and a bracket does not. -/
def tupleParts : List Value → Except Failure (List GlobPart)
  | [] => .ok []
  | .text "*" :: .text "*" :: rest => (tupleParts rest).map (.doubleStar :: ·)
  | .text "*" :: rest => (tupleParts rest).map (.star :: ·)
  | .text "?" :: rest => (tupleParts rest).map (.question :: ·)
  | .text "[" :: _ => .error (.ofHost .missingAttribute "'tuple' object has no attribute 'find'")
  | .text s :: rest => (tupleParts rest).map (s.toList.map .char ++ ·)
  | v :: _ =>
    .error (.type ("decoding to str: need a bytes-like object, " ++ v.kind ++ " found"))

/-! ### Results -/

/-- The failure of a regular expression as the host raises it. -/
def hostFailure : PatternError × String → HostError
  | (.incompatible, text) => ⟨.value, PatternError.message text .incompatible⟩
  | (.crossedGroup, text) => ⟨.internal, PatternError.message text .crossedGroup⟩
  | (.longCount digits, text) => ⟨.value, PatternError.message text (.longCount digits)⟩
  | (.tooManyRepeats, text) => ⟨.overflow, PatternError.message text .tooManyRepeats⟩
  | (.unknownName name, text) => ⟨.index, PatternError.message text (.unknownName name)⟩
  | (e, text) => ⟨.pattern, e.message text⟩

/-- A fault in a regular expression is a failure of the evaluation. -/
def wrapped {α : Type} : PatternResult α → Except Failure α
  | .ok a => .ok a
  | .error (e, text) =>
    match hostFailure (e, text) with
    | ⟨.pattern, message⟩ => .error (.evaluation (.badPattern text ⟨.pattern, message⟩))
    | error => .error (.host error)

/-- A fault in a regular expression is raised as it is. -/
def raw {α : Type} : PatternResult α → Except Failure α
  | .ok a => .ok a
  | .error e => .error (.host (hostFailure e))

/-! ### Functions -/

/-- The size of a value that is compared with a pattern piece by piece; only a text can
agree with one. -/
def comparableSize : Value → Except Failure Nat
  | .list items | .tuple items => .ok items.length
  | .mapping entries => .ok entries.length
  | v => .error (.type ("object of type '" ++ v.kind ++ "' has no len()"))

/-- A value that is no text has no part in common with the text before a star. -/
def noPart (v : Value) (head : List Char) : Except Failure Unit := do
  let size ← comparableSize v
  match v with
  | .mapping _ =>
    if head.length < size then .error (.type "unhashable type: 'slice'") else return ()
  | _ => return ()

def keyMatchOn (key pattern : Value) : Except Failure Value := do
  let p ← pattern.receiver "find"
  match key, beforeStar? p.toList with
  | .text k, _ => return .bool (keyMatch k p)
  | _, none => return .bool false
  | v, some head =>
    noPart v head
    return .bool false

def keyGetOn (key pattern : Value) : Except Failure Value := do
  let p ← pattern.receiver "find"
  match key, beforeStar? p.toList with
  | .text k, _ => return .text (keyGet k p)
  | _, none => return .text ""
  | v, some head =>
    noPart v head
    return .text ""

/-- A match of a whole path, which must be a text once the pattern has been read. -/
def matchOn (text : String) (match_ : String → Except Failure Value) (key : Value) :
    Except Failure Value := do
  let _ ← wrapped (compilePattern text)
  let k ← subject key
  match_ k

def keyMatch2On (key pattern : Value) : Except Failure Value := do
  let p ← pattern.receiver "replace"
  matchOn (KeyPart.regexText "[^/]+" (KeyPart.ofColons p))
    (fun k => (wrapped (keyMatch2 k p)).map .bool) key

def keyGet2On (key pattern name : Value) : Except Failure Value := do
  let p ← pattern.receiver "replace"
  let n := match name with
    | .text s => s
    | _ => ""
  matchOn (KeyPart.regexText "([^/]+)" (KeyPart.ofColons p))
    (fun k => (wrapped (keyGet2 k p n)).map fun
      | some s => .text s
      | none => .none) key

def keyMatch3On (key pattern : Value) : Except Failure Value := do
  let p ← pattern.receiver "replace"
  matchOn (KeyPart.regexText "[^/]+?" (KeyPart.ofBraces p))
    (fun k => (wrapped (keyMatch3 k p)).map .bool) key

def keyMatch4On (key pattern : Value) : Except Failure Value := do
  let p ← pattern.receiver "replace"
  matchOn (KeyPart.regexText "([^/]+)" (KeyPart.ofBraces p))
    (fun k => (wrapped (keyMatch4 k p)).map .bool) key

def keyMatch5On (key pattern : Value) : Except Failure Value := do
  let k ← key.receiver "find"
  let p ← pattern.receiver "replace"
  (wrapped (keyMatch5 k p)).map .bool

def regexMatchOn (text pattern : Value) : Except Failure Value := do
  let p ← expression pattern
  let _ ← wrapped (compilePattern p)
  let t ← subject text
  (wrapped (regexMatch t p)).map .bool

/-- The pattern of a glob. -/
def globOf (v : Value) : Except Failure CompiledPattern := do
  v.checkKey
  match v with
  | .text s => raw (Glob.compile s)
  | .tuple items => return Glob.ofParts (← tupleParts items)
  | v => throw (.type ("object of type '" ++ v.kind ++ "' has no len()"))

def globMatchOn (key pattern : Value) : Except Failure Value := do
  let p ← globOf pattern
  let k ← subject key
  return .bool (p.matches k)

/-- The first address equals the second, or lies in the network that the second
writes. -/
def ipMatch (address network : String) : Except Failure Bool :=
  match Address.ofText? (trim address.toList) with
  | none => .error (.evaluation (.notAddress address))
  | some a =>
    match Network.ofText? (trim network.toList) with
    | none => .error (.evaluation (.notNetwork network))
    | some n => .ok (n.contains a)

def ipMatchOn (address network : Value) : Except Failure Value := do
  let a ← address.receiver "strip"
  if (Address.ofText? (trim a.toList)).isNone then .error (.evaluation (.notAddress a))
  let n ← network.receiver "strip"
  (ipMatch a n).map .bool

/-! ### The table -/

/-- A function of two arguments with the given names. -/
def binary (name first second : String) (f : Value → Value → Except Failure Value) :
    MatcherFunction := fun arguments => do
  let a ← ({ name, required := [first, second] } : Signature).bind arguments []
  f (a.get first) (a.get second)

/-- The pattern functions by their own names. -/
def all : List (String × MatcherFunction) :=
  [("key_match", binary "key_match" "key1" "key2" keyMatchOn),
   ("key_get", binary "key_get" "key1" "key2" keyGetOn),
   ("key_match2", binary "key_match2" "key1" "key2" keyMatch2On),
   ("key_get2", fun arguments => do
      let a ← ({ name := "key_get2", required := ["key1", "key2", "path_var"] } : Signature).bind
        arguments []
      keyGet2On (a.get "key1") (a.get "key2") (a.get "path_var")),
   ("key_match3", binary "key_match3" "key1" "key2" keyMatch3On),
   ("key_match4", binary "key_match4" "key1" "key2" keyMatch4On),
   ("key_match5", binary "key_match5" "key1" "key2" keyMatch5On),
   ("regex_match", binary "regex_match" "key1" "key2" regexMatchOn),
   ("glob_match", binary "glob_match" "key1" "key2" globMatchOn),
   ("ip_match", binary "ip_match" "ip1" "ip2" ipMatchOn)]

/-- The names under which expressions call the pattern functions. -/
def matcherNames : List (String × String) :=
  [("keyMatch", "key_match"), ("keyGet", "key_get"), ("keyMatch2", "key_match2"),
   ("keyGet2", "key_get2"), ("keyMatch3", "key_match3"), ("keyMatch4", "key_match4"),
   ("keyMatch5", "key_match5"), ("regexMatch", "regex_match"), ("globMatch", "glob_match"),
   ("ipMatch", "ip_match")]

/-- The functions that expressions can call from the start. -/
def defaults : Functions :=
  matcherNames.filterMap fun (name, own) => (all.lookup own).map fun f => (name, f)

end PatternFunction

end AccessControl
