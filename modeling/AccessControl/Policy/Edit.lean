import AccessControl.Policy.Source

/-!
# Edits of a source

Changes of single rows, which only a source in memory supports.  The result of an edit
tells whether the source changed.
-/

namespace AccessControl

namespace Source

/-- Changes the rows of a source in memory. -/
def edit (s : Source) (f : List StoredRow → Except Failure (List StoredRow × Bool)) :
    Except Failure (Source × Bool) :=
  match s with
  | .memory rows => (f rows).map fun (rows, changed) => (.memory rows, changed)
  | .file _ | .bare | .foreign _ => .error unsupported

/-- Stored rows with one more, and whether it was absent. -/
def appended (rows : List StoredRow) (row : StoredRow) : List StoredRow × Bool :=
  (append rows row, !rows.contains row)

/-- Stored rows without one, and whether it was present. -/
def erased (rows : List StoredRow) (row : StoredRow) : List StoredRow × Bool :=
  (rows.erase row, rows.contains row)

/-- Changes stored rows for one row after the other; the result tells whether any of
them changed something. -/
def each (f : List StoredRow → StoredRow → List StoredRow × Bool) :
    List StoredRow → List StoredRow → List StoredRow × Bool
  | rows, [] => (rows, false)
  | rows, row :: rest =>
    let (rows, here) := f rows row
    let (rows, later) := each f rows rest
    (rows, here || later)

/-- A stored row has a key, and its values pass a filter. -/
def passes (key : Value) (f : RowFilter) : StoredRow → Except Failure Bool
  | [] => .error (.ofHost .index "list index out of range")
  | k :: values => if k.equals key then f.holds values else .ok false

/-- The stored rows that do not pass a filter. -/
def keep (key : Value) (f : RowFilter) : List StoredRow → Except Failure (List StoredRow)
  | [] => .ok []
  | row :: rest => do
    let pass ← passes key f row
    let kept ← keep key f rest
    return if pass then kept else row :: kept

/-- Adds a row. -/
def addRow (s : Source) (key : Value) (row : List Value) : Except Failure (Source × Bool) :=
  s.edit fun rows => .ok (appended rows (key :: row))

/-- Adds rows. -/
def addRows (s : Source) (key : Value) (new : List (List Value)) : Except Failure (Source × Bool) :=
  s.edit fun rows => .ok (each appended rows (new.map fun row => key :: row))

/-- Puts a row in the place of another. -/
def updateRow (s : Source) (key : Value) (old new : List Value) :
    Except Failure (Source × Bool) :=
  s.edit fun rows => .ok (rows.replace (key :: old) (key :: new), rows.contains (key :: old))

/-- Removes a row. -/
def removeRow (s : Source) (key : Value) (row : List Value) : Except Failure (Source × Bool) :=
  s.edit fun rows => .ok (erased rows (key :: row))

/-- Removes rows. -/
def removeRows (s : Source) (key : Value) (old : List (List Value)) :
    Except Failure (Source × Bool) :=
  s.edit fun rows => .ok (each erased rows (old.map fun row => key :: row))

/-- Removes the rows that pass a filter. -/
def removeWhere (s : Source) (key : Value) (f : RowFilter) : Except Failure (Source × Bool) :=
  s.edit fun rows => do
    let kept ← keep key f rows
    return (kept, kept.length != rows.length)

end Source

end AccessControl
