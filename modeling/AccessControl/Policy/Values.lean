import AccessControl.Call.Argument
import AccessControl.Policy.Line

/-!
# Policy lines of values

The line of a row whose key and values a host gives.  They should be texts; a sequence
that holds no comma and no quote passes for a text until the line is put together.
-/

namespace AccessControl

namespace PolicyLine

/-- The value is the text of a sign that is written between quotes. -/
def isMark (v : Value) : Bool := v.equals (.text ",") || v.equals (.text "\"")

/-- A part of a line that must be a text once the line is put together. -/
def checkMarks (v : Value) (items : List Value) : Except Failure Value :=
  if items.any isMark then .error (v.noAttribute "replace") else .ok v

/-- The written form of a value that a host gives. -/
def formatPart (v : Value) : Except Failure Value :=
  match v with
  | .text s => .ok (.text (formatValue s))
  | v =>
    match v.items? with
    | some items => checkMarks v items
    | none => .error (.type ("argument of type '" ++ v.kind ++ "' is not iterable"))

/-- Puts a line together from parts, of which the first is at position `i`. -/
def joinParts (i : Nat) : List Value → Except Failure (List String)
  | [] => .ok []
  | .text s :: rest => (joinParts (i + 1) rest).map (s :: ·)
  | v :: _ =>
    .error (.type ("sequence item " ++ toString i ++ ": expected str instance, " ++ v.kind
      ++ " found"))

/-- The line of a rule under a key, as a host gives them. -/
def formatGiven (key rule : Value) : Except Failure String := do
  let values ← rule.spread
  let parts ← (key :: values).mapM formatPart
  let texts ← joinParts 0 parts
  return ", ".intercalate texts

end PolicyLine

end AccessControl
