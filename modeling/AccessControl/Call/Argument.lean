import AccessControl.Failure.Cause

/-!
# Demands on arguments

What an operation demands of a value that it is given: to be a text, to have items, to be
a key.  A value that does not meet the demand is an error of the host.
-/

namespace AccessControl

namespace Value

/-- The failure of a value that lacks an attribute. -/
def noAttribute (v : Value) (name : String) : Failure :=
  .ofHost .missingAttribute ("'" ++ v.kind ++ "' object has no attribute '" ++ name ++ "'")

/-- The text on which a method is called. -/
def receiver (v : Value) (method : String) : Except Failure String :=
  match v with
  | .text s => .ok s
  | v => .error (v.noAttribute method)

/-- A value by which a table is asked must be a key. -/
def checkKey (v : Value) : Except Failure Unit :=
  match v.notKey? with
  | some kind => .error (.type ("unhashable type: '" ++ kind ++ "'"))
  | Option.none => .ok ()

/-- The failure of a value that cannot be gone through. -/
def notIterable (v : Value) : Failure := .type ("'" ++ v.kind ++ "' object is not iterable")

/-- The items of a value that must be one that can be gone through. -/
def items (v : Value) : Except Failure (List Value) :=
  match v.items? with
  | some items => .ok items
  | Option.none => .error v.notIterable

/-- The items of each item of a value. -/
def itemsOfItems (v : Value) : Except Failure (List (List Value)) := do
  let rows ← v.items
  rows.mapM items

/-- The items of a value that are put among others. -/
def spread (v : Value) : Except Failure (List Value) :=
  match v.items? with
  | some items => .ok items
  | Option.none => .error (.type ("Value after * must be an iterable, not " ++ v.kind))

end Value

end AccessControl
