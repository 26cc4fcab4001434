import AccessControl.Enforcer.Basic

/-!
# Managing rows

Changes of rows through an enforcer.  A change goes to the model first; if it changes
anything it is passed on to the source, when rows are saved automatically, and role
graphs are built anew after a change of role rows, when links are built automatically.  A
source that does not support a change leaves it in memory.
-/

namespace AccessControl

namespace Enforcer

/-- Passes a change on to the source.  `operation` names it in the report that a source
does not support it. -/
def persist (operation : String) (edit : Source → Except Failure (Source × Bool)) :
    Action Unit := do
  let e ← get
  match e.source with
  | none => return ()
  | some s =>
    if !e.autoSave then return ()
    else
      match s, edit s with
      | .foreign v, _ => throw (v.noAttribute operation)
      | _, .ok (s, _) => modify fun e => { e with source := some s }
      | _, .error (.host ⟨.notImplemented, _⟩) =>
        report .debug
          (s.className ++ " does not support " ++ operation ++ "; change kept in memory") []
      | _, .error failure => throw failure

/-- Brings what is derived from rows of a kind up to date. -/
def rowsChanged (kind : SectionKind) : Action Unit := do
  let e ← get
  if kind == .role && e.autoBuild then relink
  invalidate

/-- Changes rows of a kind in the model and, if that changed anything, in the source; the
result tells whether it did. -/
def mutate (kind : SectionKind) (operation : String)
    (change : Model → Except Failure (Model × Bool))
    (edit : Source → Except Failure (Source × Bool)) : Action Bool := do
  let e ← get
  let (m, changed) ← change e.model
  if !changed then return false
  else
    modify fun e => { e with model := m }
    persist operation edit
    rowsChanged kind
    return true

/-- Adds a row unless it is present. -/
def addRow (kind : SectionKind) (key : String) (row : List Value) : Action Bool :=
  mutate kind "add_policy" (·.addRow kind key row) (·.addRow (.text key) row)

/-- Adds rows if none of them is present or repeated. -/
def addRows (kind : SectionKind) (key : String) (rows : List (List Value)) : Action Bool :=
  mutate kind "add_policies" (·.addRows kind key rows) (·.addRows (.text key) rows)

/-- Puts a row in the place of another. -/
def updateRow (kind : SectionKind) (key : String) (old new : List Value) : Action Bool :=
  mutate kind "update_policy" (·.updateRow kind key old new)
    (·.updateRow (.text key) old new)

/-- Removes a row. -/
def removeRow (kind : SectionKind) (key : String) (row : List Value) : Action Bool :=
  mutate kind "remove_policy" (·.removeRow kind key row) (·.removeRow (.text key) row)

/-- Removes rows if all of them are present. -/
def removeRows (kind : SectionKind) (key : String) (rows : List (List Value)) : Action Bool :=
  mutate kind "remove_policies" (·.removeRows kind key rows)
    (·.removeRows (.text key) rows)

/-- Removes the rows that pass a filter. -/
def removeWhere (kind : SectionKind) (key : String) (f : RowFilter) : Action Bool :=
  mutate kind "remove_filtered_policy"
    (fun m => do
      let (m, removed) ← m.removeWhere kind key f
      return (m, !removed.isEmpty))
    (·.removeWhere (.text key) f)

end Enforcer

end AccessControl
