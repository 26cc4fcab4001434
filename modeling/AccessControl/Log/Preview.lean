import AccessControl.Call.Signature
import AccessControl.Text.Blank
import AccessControl.Value.Basic

/-!
# Previews

A value on one line of bounded length, as logs show it: a text as it is, a collection as
a record, and `none` as nothing.  What does not fit is cut off and an ellipsis put in
its place.
-/

namespace AccessControl

namespace Value

/-- The text of a number in a record. -/
def recordNumber : Binary64 → String
  | .nan => "NaN"
  | .infinite s => if s then "-Infinity" else "Infinity"
  | x => x.toText

mutual

/-- The text of a value in a record.  A value that records know nothing of is written as
its text. -/
def recordText : Value → String
  | .none => "null"
  | .bool b => if b then "true" else "false"
  | .int n => toString n
  | .float x => recordNumber x
  | .nan _ => recordNumber .nan
  | .text s => recordQuoted s
  | .list items | .tuple items => "[" ++ commas (recordItems items) ++ "]"
  | .mapping entries => "\x7b" ++ commas (recordEntries entries) ++ "\x7d"
  | .entity attributes => recordQuoted (Value.entity attributes).display
  | .selection r p e m => recordQuoted (Value.selection r p e m).display
  | .function name => recordQuoted (Value.function name).display
  | .handle kind id => recordQuoted (Value.handle kind id).display

def recordItems : List Value → List String
  | [] => []
  | v :: rest => recordText v :: recordItems rest

def recordEntries : List (String × Value) → List String
  | [] => []
  | (key, v) :: rest => (recordQuoted key ++ ": " ++ recordText v) :: recordEntries rest

end

end Value

namespace Preview

/-- The text of a value before it is shortened. -/
def text : Value → String
  | .none => ""
  | .list items => (Value.list items).recordText
  | .tuple items => (Value.tuple items).recordText
  | .mapping entries => (Value.mapping entries).recordText
  | v => v.display

/-- The first characters of a text; a negative count leaves that many off at the end. -/
def takeCount (n : Int) (cs : List Char) : List Char :=
  if 0 ≤ n then cs.take n.toNat else cs.take (cs.length - n.natAbs)

/-- The text cut to a limit, with an ellipsis in place of what is left off. -/
def shorten (limit : Int) (cs : List Char) : List Char :=
  if limit < cs.length then takeCount (limit - 1) cs ++ ['…'] else cs

/-- The limit of a preview unless another is asked for. -/
def defaultLimit : Int := 240

/-- The preview of a value; of none there is nothing to show, whatever the limit. -/
def ofValue (v : Value) (limit : Int) : String :=
  match v with
  | .none => ""
  | v => String.ofList (shorten limit (foldBlanks (text v).toList))

/-- The text of a value that must not be longer than a number which is no integer. -/
def within (limit : Binary64) (cs : List Char) : Except Failure String :=
  if Binary64.orderInt cs.length limit == some .gt then
    .error (.type "slice indices must be integers or None or have an __index__ method")
  else .ok (String.ofList cs)

/-- The preview of a value with a limit that a host gives. -/
def ofLimited (v limit : Value) : Except Failure String :=
  match v, limit.asInt?, limit.real? with
  | .none, _, _ => .ok ""
  | v, some n, _ => .ok (ofValue v n)
  | v, none, some x => within x (foldBlanks (text v).toList)
  | _, none, none =>
    .error (.type ("'>' not supported between instances of 'int' and '" ++ limit.kind ++ "'"))

/-- The parameters of a preview. -/
def signature : Signature :=
  { name := "safe_preview", required := ["value"], optional := ["limit"] }

/-- The limit among the arguments of a call. -/
def limitOf (a : Arguments) : Value := (a.get? "limit").getD (.int defaultLimit)

/-- The preview of a value with what a host gives by name. -/
def call (v : Value) (keywords : List (String × Value)) : Except Failure String := do
  let a ← signature.bind [v] keywords
  ofLimited v (limitOf a)

end Preview

end AccessControl
