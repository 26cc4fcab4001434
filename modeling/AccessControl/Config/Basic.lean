import AccessControl.Failure.Cause
import AccessControl.Log.Event
import AccessControl.Number.Numeral
import AccessControl.Text.Case

/-!
# Configuration

The settings of an enforcer and of its reports, read from fields or from the variables of
an environment.  Every field is checked, and all issues are reported together: first
those of the known fields, then the fields that are not known.
-/

namespace AccessControl

/-- The settings of an enforcer.  A chain of roles has at most `maxHierarchyLevel`
links, which is positive. -/
structure Config where
  logLevel : LogLevel := .info
  logJson : Bool := false
  enforceEnabled : Bool := true
  autoBuildRoleLinks : Bool := true
  autoSave : Bool := true
  maxHierarchyLevel : Nat := 10
  traceEnabled : Bool := false
  deriving DecidableEq, Inhabited

namespace Config

/-- Why a value is not accepted: the rule that it breaks, and the message. -/
structure Rejection where
  rule : String
  message : String
  deriving DecidableEq, Inhabited

/-! ### Values -/

/-- The values that stand for a truth value in a text. -/
def truthWords : List (String × Bool) :=
  [("true", true), ("1", true), ("on", true), ("t", true), ("y", true), ("yes", true),
   ("false", false), ("0", false), ("off", false), ("f", false), ("n", false), ("no", false)]

/-- A value that stands for neither truth value. -/
def badTruth : Rejection :=
  ⟨"bool_parsing", "Input should be a valid boolean, unable to interpret input"⟩

/-- The truth value of an integer. -/
def truthOfInt (n : Int) : Except Rejection Bool :=
  if n = 0 then .ok false else if n = 1 then .ok true else .error badTruth

/-- A value of a kind that has no truth value. -/
def noTruth : Rejection := ⟨"bool_type", "Input should be a valid boolean"⟩

/-- The integer of 64 bits that a number of double precision is; both ends of the range are
left out. -/
def wordOf? (x : Binary64) : Option Int :=
  if x.isIntegral then
    x.truncate.filter fun n => -(twoPow 63 : Int) < n && n < twoPow 63
  else none

/-- The truth value that a value stands for.  An integer of more than 64 bits counts as a
number of double precision. -/
def readBool : Value → Except Rejection Bool
  | .bool b => .ok b
  | .text s =>
    match truthWords.lookup (s.map Char.toLower) with
    | some b => .ok b
    | none => .error badTruth
  | .int n =>
    if -(twoPow 63 : Int) ≤ n && n < twoPow 63 then truthOfInt n else .error noTruth
  | .float x =>
    match wordOf? x with
    | some n => truthOfInt n
    | none => .error noTruth
  | _ => .error noTruth

/-- The unsigned integer that plain digits write; a zero stands alone. -/
def plainNat? : List Char → Option Nat
  | [] => none
  | ['0'] => some 0
  | '0' :: _ => none
  | cs => if cs.all Char.isDigit then some (ofDigits (cs.map fun c => c.toNat - 48)) else none

/-- The integer that plain digits with an optional minus write. -/
def plainInt? : List Char → Option Int
  | '-' :: cs => (plainNat? cs).map fun n => -(n : Int)
  | cs => (plainNat? cs).map Int.ofNat

/-- The text begins with an integer that is too long to be read; a minus counts as one of
its characters. -/
def beginsTooLong (cs : List Char) : Bool :=
  let body := if cs.head? == some '-' then cs.drop 1 else cs
  let size := (body.takeWhile Char.isDigit).length + (cs.length - body.length)
  body.head? != some '0' && maxDigits < size

/-- The rest of a numeral behind zeros and underscores, up to a digit, a minus or, with the
zero before it, a point; nothing if another character comes first.  `last` is the last
character that was passed. -/
def behindZeros? (last : Char) : List Char → Option (List Char)
  | [] => some [last]
  | c :: rest =>
    if c = '0' || c = '_' then behindZeros? c rest
    else if c.isDigit || c = '-' then some (c :: rest)
    else if c = '.' then some (last :: c :: rest)
    else none

/-- A numeral without zeros in front. -/
def dropZeros? : List Char → Option (List Char)
  | '0' :: rest => behindZeros? '0' rest
  | c :: rest => if c.isDigit || c = '-' then some (c :: rest) else none
  | [] => none

/-- The part of a numeral before a point that only zeros follow. -/
def wholePart (cs : List Char) : List Char :=
  if ((cs.dropWhile (· != '.')).drop 1).all (· == '0') then cs.takeWhile (· != '.') else cs

/-- No underscore stands at an end or beside another one. -/
def underscoresFit : List Char → Bool
  | [] => true
  | ['_'] => false
  | '_' :: '_' :: _ => false
  | _ :: rest => underscoresFit rest

/-- A numeral without its underscores, if they stand in fitting places. -/
def dropUnderscores (cs : List Char) : List Char :=
  if cs.head? != some '_' && underscoresFit cs then cs.filter (· != '_') else cs

/-- A numeral without blanks, a plus, zeros in front and behind its point, and
underscores. -/
def tidyNumeral? (cs : List Char) : Option (List Char) :=
  let body := trimOf isSpacing cs
  let body :=
    match body with
    | '+' :: '-' :: _ => none
    | '+' :: rest => some rest
    | rest => some rest
  (body.bind dropZeros?).map fun cs => dropUnderscores (wholePart cs)

/-- A text that writes no integer. -/
def badInteger : Rejection :=
  ⟨"int_parsing", "Input should be a valid integer, unable to parse string as an integer"⟩

/-- A number that is too large to be read. -/
def tooLarge : Rejection :=
  ⟨"int_parsing_size", "Unable to parse input string as an integer, exceeded maximum size"⟩

/-- The integer that a text writes, as it is or once it is tidied up. -/
def integerOfText (text : String) : Except Rejection Int :=
  let cs := text.toList
  if beginsTooLong cs then .error tooLarge
  else
    match plainInt? cs with
    | some n => .ok n
    | none =>
      match (tidyNumeral? cs).filter fun cs => !beginsTooLong cs with
      | none => .error badInteger
      | some cs =>
        match plainInt? cs with
        | some n => .ok n
        | none => .error badInteger

/-- The integer that a value stands for. -/
def readInteger : Value → Except Rejection Int
  | .bool b => .ok (if b then 1 else 0)
  | .int n => .ok n
  | .text s => integerOfText s
  | .nan _ => .error ⟨"finite_number", "Input should be a finite number"⟩
  | .float x =>
    if x.isNaN || x.isInfinite then .error ⟨"finite_number", "Input should be a finite number"⟩
    else if x.isIntegral then
      match wordOf? x with
      | some n => .ok n
      | none => .error tooLarge
    else
      .error ⟨"int_from_float",
        "Input should be a valid integer, got a number with a fractional part"⟩
  | _ => .error ⟨"int_type", "Input should be a valid integer"⟩

/-- The number of levels that a value stands for. -/
def readLevels (v : Value) : Except Rejection Nat := do
  let n ← readInteger v
  if 1 ≤ n then return n.toNat
  else .error ⟨"greater_than_equal", "Input should be greater than or equal to 1"⟩

/-- The class of a value as messages show it. -/
def classText (v : Value) : String :=
  let name :=
    match v with
    | .selection .. => "contextauthz.enforcer.context.EnforceContext"
    | v => v.kind
  "<class '" ++ name ++ "'>"

/-- The level that a value names. -/
def readLevel : Value → Except Rejection LogLevel
  | .text s =>
    match LogLevel.ofName? (upperWord s) with
    | some level => .ok level
    | none =>
      .error ⟨"value_error", "Value error, Invalid log level: " ++ s ++ ". Must be one of "
        ++ (Value.texts (LogLevel.all.map (·.name))).shown⟩
  | v =>
    .error ⟨"value_error",
      "Value error, Log level must be string or LogLevel enum, got " ++ classText v⟩

/-! ### Fields -/

/-- The names of the fields. -/
def fieldNames : List String :=
  ["log_level", "log_json", "enforce_enabled", "auto_build_role_links", "auto_save",
   "max_hierarchy_level", "trace_enabled"]

/-- Reads a field if it is given; a value that is not accepted leaves the configuration
as it is and adds an issue. -/
def readField {α : Type} (name : String) (read : Value → Except Rejection α)
    (set : Config → α → Config) (fields : List (String × Value))
    (state : Config × List Issue) : Config × List Issue :=
  match fields.lookup name with
  | none => state
  | some v =>
    match read v with
    | .ok a => (set state.1 a, state.2)
    | .error e => (state.1, state.2 ++ [⟨[name], e.rule, e.message⟩])

/-- The issues of fields that are not known. -/
def unknownFields (fields : List (String × Value)) : List Issue :=
  (fields.filter fun (name, _) => !fieldNames.contains name).map fun (name, _) =>
    ⟨[name], "extra_forbidden", "Extra inputs are not permitted"⟩

/-- The configuration of some fields; those that are not given keep their defaults. -/
def ofFields (fields : List (String × Value)) : Except Failure Config :=
  let state := (({} : Config), ([] : List Issue))
  let state := readField "log_level" readLevel (fun c a => { c with logLevel := a }) fields state
  let state := readField "log_json" readBool (fun c a => { c with logJson := a }) fields state
  let state :=
    readField "enforce_enabled" readBool (fun c a => { c with enforceEnabled := a }) fields state
  let state :=
    readField "auto_build_role_links" readBool (fun c a => { c with autoBuildRoleLinks := a })
      fields state
  let state := readField "auto_save" readBool (fun c a => { c with autoSave := a }) fields state
  let state :=
    readField "max_hierarchy_level" readLevels (fun c a => { c with maxHierarchyLevel := a })
      fields state
  let state :=
    readField "trace_enabled" readBool (fun c a => { c with traceEnabled := a }) fields state
  let issues := state.2 ++ unknownFields fields
  if issues.isEmpty then .ok state.1 else .error (.rejected issues)

/-- The fields of a configuration. -/
def toFields (c : Config) : List (String × Value) :=
  [("log_level", .text c.logLevel.name), ("log_json", .bool c.logJson),
   ("enforce_enabled", .bool c.enforceEnabled),
   ("auto_build_role_links", .bool c.autoBuildRoleLinks), ("auto_save", .bool c.autoSave),
   ("max_hierarchy_level", .int c.maxHierarchyLevel), ("trace_enabled", .bool c.traceEnabled)]

/-! ### Environments -/

/-- The text of a variable stands for true. -/
def isSwitchedOn (text : String) : Bool :=
  ["true", "1", "yes", "on"].contains (text.map Char.toLower)

/-- The configuration of the variables of an environment. -/
def ofEnvironment (environment : List (String × String)) : Except Failure Config := do
  let read := fun name default => (environment.lookup name).getD default
  let switch := fun name default => Value.bool (isSwitchedOn (read name default))
  let levels ← match readInt (read "AUTHZ_MAX_HIERARCHY_LEVEL" "10") with
    | .ok n => pure n
    | .error e => .error (.ofHost .value e.message)
  ofFields
    [("log_level", .text (read "LOG_LEVEL" "INFO")),
     ("log_json", switch "LOG_JSON" "false"),
     ("enforce_enabled", switch "AUTHZ_ENFORCE_ENABLED" "true"),
     ("auto_build_role_links", switch "AUTHZ_AUTO_BUILD_ROLE_LINKS" "true"),
     ("auto_save", switch "AUTHZ_AUTO_SAVE" "true"),
     ("max_hierarchy_level", .int levels),
     ("trace_enabled", switch "AUTHZ_TRACE_ENABLED" "false")]

end Config

end AccessControl
