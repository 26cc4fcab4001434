import AccessControl.Model.Basic
import AccessControl.Model.Filter

/-!
# Rows of a model

The rows of a policy or role definition as a list without repetition: looking rows up,
adding, replacing and removing them.  A batch changes the rows as a whole or not at
all.
-/

namespace AccessControl

namespace Row

/-- Adds a row at the end unless it is present. -/
def add? (rows : List Row) (row : Row) : Option (List Row) :=
  if rows.contains row then none else some (rows ++ [row])

/-- Adds rows at the end if none of them is present or repeated. -/
def addAll? : List Row → List Row → Option (List Row)
  | rows, [] => some rows
  | rows, row :: rest => do
    let rows ← add? rows row
    addAll? rows rest

/-- Puts a row in the place of another, unless the other is absent or the row is
present elsewhere. -/
def replace? (rows : List Row) (old new : Row) : Option (List Row) :=
  if !rows.contains old || (new != old && rows.contains new) then none
  else some (rows.replace old new)

/-- Removes a row if it is present. -/
def remove? (rows : List Row) (row : Row) : Option (List Row) :=
  if rows.contains row then some (rows.erase row) else none

/-- Removes rows if all of them are present. -/
def removeAll? (rows targets : List Row) : Option (List Row) :=
  if targets.all rows.contains then some (targets.foldl List.erase rows) else none

end Row

namespace Model

/-! ### Looking up -/

/-- The rows of a definition. -/
def rows (m : Model) (kind : SectionKind) (key : String) : Except Failure (List Row) :=
  (m.get kind key).map (·.rows)

/-- The rows of a definition that pass a filter. -/
def rowsWhere (m : Model) (kind : SectionKind) (key : String) (f : RowFilter) :
    Except Failure (List Row) := do
  let rows ← m.rows kind key
  (f.split rows).map (·.1)

/-- A definition has a row; a definition that does not exist has none. -/
def hasRow (m : Model) (kind : SectionKind) (key : String) (row : List Value) : Bool :=
  match m.find? kind key, Value.allTexts? row with
  | some d, some row => d.rows.contains row
  | _, _ => false

/-- The texts at a position in the rows of a definition, each once. -/
def valuesAt (m : Model) (kind : SectionKind) (key : String) (i : Int) :
    Except Failure (List String) := do
  let rows ← m.rows kind key
  distinctAt i rows

/-- The texts at a position in the rows of all definitions of a kind, each once. -/
def allValuesAt (m : Model) (kind : SectionKind) (i : Int) : Except Failure (List String) := do
  let found ← (m.ofKind kind).mapM fun d => distinctAt i d.rows
  return found.flatten.eraseDups

/-- All rows of a model: by kind, the rows of each definition by key. -/
def snapshot (m : Model) (kind : SectionKind) : List (String × List Row) :=
  (m.ofKind kind).map fun d => (d.key, d.rows)

/-- The number of policy rows and role rows. -/
def rowCount (m : Model) : Nat :=
  total ((m.snapshot .policy ++ m.snapshot .role).map fun (_, rows) => rows.length)

/-! ### Changing -/

/-- The model with other rows in a definition. -/
def withRows (m : Model) (kind : SectionKind) (key : String) (rows : List Row) : Model :=
  m.update kind key fun d => { d with rows }

/-- The model with the rows that a change leads to, and whether it leads to any. -/
def changed (m : Model) (kind : SectionKind) (key : String) : Option (List Row) → Model × Bool
  | some rows => (m.withRows kind key rows, true)
  | none => (m, false)

/-- Adds a row unless it is present, and tells whether it was added. -/
def addRow (m : Model) (kind : SectionKind) (key : String) (row : List Value) :
    Except Failure (Model × Bool) := do
  let d ← m.get kind key
  let row ← d.checkRow row
  return m.changed kind key (Row.add? d.rows row)

/-- Adds rows if none of them is present or repeated. -/
def addRows (m : Model) (kind : SectionKind) (key : String) (rows : List (List Value)) :
    Except Failure (Model × Bool) := do
  let d ← m.get kind key
  let rows ← rows.mapM d.checkRow
  return m.changed kind key (Row.addAll? d.rows rows)

/-- Puts a row in the place of another, unless the other is absent or the row is present
elsewhere. -/
def updateRow (m : Model) (kind : SectionKind) (key : String) (old new : List Value) :
    Except Failure (Model × Bool) := do
  let d ← m.get kind key
  let new ← d.checkRow new
  return m.changed kind key ((Value.allTexts? old).bind fun old => Row.replace? d.rows old new)

/-- Removes a row, and tells whether it was present. -/
def removeRow (m : Model) (kind : SectionKind) (key : String) (row : List Value) :
    Except Failure (Model × Bool) := do
  let d ← m.get kind key
  return m.changed kind key ((Value.allTexts? row).bind (Row.remove? d.rows))

/-- Removes rows if all of them are present. -/
def removeRows (m : Model) (kind : SectionKind) (key : String) (rows : List (List Value)) :
    Except Failure (Model × Bool) := do
  let d ← m.get kind key
  return m.changed kind key ((rows.mapM Value.allTexts?).bind (Row.removeAll? d.rows))

/-- Removes the rows that pass a filter; the result holds the removed rows. -/
def removeWhere (m : Model) (kind : SectionKind) (key : String) (f : RowFilter) :
    Except Failure (Model × List Row) := do
  let rows ← m.rows kind key
  let (removed, kept) ← f.split rows
  return (m.withRows kind key kept, removed)

/-- The model without policy rows and role rows. -/
def clearRows (m : Model) : Model :=
  ⟨m.definitions.map fun d =>
    if d.kind == .policy || d.kind == .role then { d with rows := [] } else d⟩

end Model

end AccessControl
