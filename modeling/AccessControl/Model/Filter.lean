import AccessControl.Model.Definition

/-!
# Row filters

Tests of the fields of a row from some position on.  A position counts from the end of
the row when it is negative; one before the start of the row is an error, and one
behind its end holds nothing.  A host may give any value for a position: where it is
needed, one that is no integer is an error.
-/

namespace AccessControl

/-! ### Positions -/

/-- A position as a host gives it: an integer, another number, or a value that is no
number. -/
inductive FieldPosition where
  | index (i : Int)
  | real (x : Binary64)
  | other (v : Value)
  deriving Inhabited

namespace FieldPosition

/-- The position that a value gives. -/
def ofValue (v : Value) : FieldPosition :=
  match v.asInt?, v.real? with
  | some i, _ => .index i
  | none, some x => .real x
  | none, none => .other v

/-- The failure of a number that is no position in a row. -/
def notIndex : Failure := .type "list indices must be integers or slices, not float"

/-- The failure of a value that is moved on by a number of fields. -/
def notMovable (v : Value) : Failure :=
  match v with
  | .text _ | .list _ | .tuple _ =>
    .type ("can only concatenate " ++ v.kind ++ " (not \"int\") to " ++ v.kind)
  | v => .type ("unsupported operand type(s) for +: '" ++ v.kind ++ "' and 'int'")

/-- The failure of a value that is compared with the length of a row. -/
def notComparable (v : Value) : Failure :=
  .type ("'<' not supported between instances of '" ++ v.kind ++ "' and 'int'")

/-- A number lies at or behind the end of a row of some length. -/
def isBehind (length : Nat) (x : Binary64) : Bool :=
  Binary64.orderInt length x == some .lt || Binary64.orderInt length x == some .eq

/-- A number lies before the end of a row of some length. -/
def isBefore (length : Nat) (x : Binary64) : Bool := Binary64.orderInt length x == some .gt

end FieldPosition

/-- The field at a position of a row. -/
def fieldAt {α : Type} (row : List α) (i : Int) : Except Failure (Option α) :=
  if (row.length : Int) ≤ i then .ok none
  else if 0 ≤ i then .ok row[i.toNat]?
  else if 0 ≤ i + row.length then .ok row[(i + row.length).toNat]?
  else .error (.ofHost .index "list index out of range")

/-! ### Filters -/

/-- A test of one field: anything passes, or only what equals a value. -/
inductive FieldTest where
  | any
  | equal (v : Value)
  deriving Inhabited

namespace FieldTest

/-- The test that a value asks for: the empty text allows anything. -/
def ofValue : Value → FieldTest
  | .text s => if s = "" then .any else .equal (.text s)
  | v => .equal v

/-- The test that a value asks for where every value that counts as false allows
anything. -/
def ofOptional (v : Value) : FieldTest := if v.isTruthy then .equal v else .any

/-- A field passes a test. -/
def holds (field : Value) : FieldTest → Bool
  | .any => true
  | .equal v => field.equals v

end FieldTest

/-- Tests of the fields from a position on. -/
structure RowFilter where
  start : FieldPosition
  tests : List FieldTest
  deriving Inhabited

namespace RowFilter

/-- A row passes tests of the fields from a position on. -/
def holdsFrom (row : List Value) : Int → List FieldTest → Except Failure Bool
  | _, [] => .ok true
  | i, .any :: rest => holdsFrom row (i + 1) rest
  | i, test :: rest => do
    match ← fieldAt row i with
    | none => return false
    | some field => if test.holds field then holdsFrom row (i + 1) rest else return false

/-- A row passes tests from a number on that is no integer: a test behind its end is
failed, and none can be made before. -/
def holdsFromReal (row : List Value) : Binary64 → List FieldTest → Except Failure Bool
  | _, [] => .ok true
  | x, .any :: rest => holdsFromReal row (x.add (.ofInt 1)) rest
  | x, _ :: _ =>
    if FieldPosition.isBehind row.length x then .ok false else .error FieldPosition.notIndex

/-- A row passes a filter. -/
def holds (f : RowFilter) (row : List Value) : Except Failure Bool :=
  match f.start with
  | .index i => holdsFrom row i f.tests
  | .real x => holdsFromReal row x f.tests
  | .other v => if f.tests.isEmpty then .ok true else .error (FieldPosition.notMovable v)

/-- The rows that pass a filter and those that do not. -/
def split (f : RowFilter) : List Row → Except Failure (List Row × List Row)
  | [] => .ok ([], [])
  | row :: rest => do
    let pass ← f.holds (row.map .text)
    let (passing, failing) ← f.split rest
    return if pass then (row :: passing, failing) else (passing, row :: failing)

end RowFilter

/-! ### Columns -/

/-- The texts at a position of some rows, each once. -/
def distinctAt (i : Int) (rows : List Row) : Except Failure (List String) := do
  let found ← rows.mapM fun row => fieldAt row i
  return (found.filterMap id).eraseDups

/-- The texts of some rows at a position that a host gives, each once. -/
def distinctFrom (position : FieldPosition) (rows : List Row) : Except Failure (List String) :=
  match position with
  | .index i => distinctAt i rows
  | .real x =>
    if rows.any fun row => FieldPosition.isBefore row.length x then
      .error FieldPosition.notIndex
    else .ok []
  | .other v => if rows.isEmpty then .ok [] else .error (FieldPosition.notComparable v)

end AccessControl
