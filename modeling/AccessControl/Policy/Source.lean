import AccessControl.Files.Basic
import AccessControl.Model.Rows
import AccessControl.Policy.Line

/-!
# Policy sources

Where the rows of a model come from and where they are kept: a list of rows in memory, a
file of policy lines, or a bare source that does neither.  A stored row starts with the
key of its definition.  A host may also put a value in the place of a source, which
cannot be asked for anything.
-/

namespace AccessControl

/-- A stored row: the key of a definition and the values of a row.  They are texts unless a
host has stored other values. -/
abbrev StoredRow := List Value

/-- A policy source. -/
inductive Source where
  | memory (rows : List StoredRow)
  | file (path : Location)
  | bare
  | foreign (v : Value)
  deriving Inhabited

namespace Source

/-- The name of the class of a source. -/
def className : Source → String
  | .memory _ => "MemoryAdapter"
  | .file _ => "FileAdapter"
  | .bare => "Adapter"
  | .foreign v => v.kind

/-- The text of a source as messages show it. -/
def shown : Source → String
  | .memory _ => "<contextauthz.persist.memory.MemoryAdapter object>"
  | .file path => "FileAdapter(" ++ quoted path.text ++ ")"
  | .bare => "<contextauthz.persist.adapter.Adapter object>"
  | .foreign v => v.shown

/-- The error of a source that does not support an operation. -/
def unsupported : Failure := .ofHost .notImplemented ""

/-! ### Making -/

/-- Adds a row to stored rows unless it is present. -/
def append (rows : List StoredRow) (row : StoredRow) : List StoredRow :=
  if rows.contains row then rows else rows ++ [row]

/-- A source in memory with some rows, each once. -/
def ofRows (rows : List StoredRow) : Source := .memory (rows.foldl append [])

/-- The rows that some policy lines hold. -/
def readLines (lines : List String) : Except Failure (List StoredRow) := do
  let rows ← lines.mapM PolicyLine.parse
  return (rows.filterMap id).map fun row => row.map .text

/-- A source in memory with the rows of a text of policy lines. -/
def ofText (text : String) : Except Failure Source :=
  (readLines ((lines text.toList).map String.ofList)).map ofRows

/-! ### Loading -/

/-- The kind of definition that a key belongs to. -/
def kindOfKey (key : String) : Except Failure SectionKind :=
  if key.toList.head? = some 'p' then .ok .policy
  else if key.toList.head? = some 'g' then .ok .role
  else .error (.source (.unknownType key))

/-- Adds a stored row to a model. -/
def loadRow (m : Model) (row : StoredRow) : Except Failure Model :=
  match row with
  | first :: value :: rest => do
    let key ← first.receiver "startswith"
    let kind ← kindOfKey key
    if !m.has kind key then .error (.source (.noSection key row))
    else
      let (m, _) ← m.addRow kind key (value :: rest)
      return m
  | _ => .error (.source (.noValues row))

/-- Adds the row of a policy line to a model. -/
def loadLine (m : Model) (line : List Char) : Except Failure Model := do
  match ← PolicyLine.parse (String.ofList line) with
  | some row => loadRow m (row.map .text)
  | none => return m

/-- The text of a policy file. -/
def readFile (files : Files) (path : Location) : Except Failure String :=
  match files.textAt path with
  | .ok text => .ok text
  | .error error =>
    if error.kind.isOfFiles then .error (.source (.unreadable path.text error))
    else .error (.host error)

/-- A report about what a source has done. -/
def event (level : LogLevel) (part message : String) : LogEvent :=
  { level, source := "contextauthz.persist." ++ part, message }

/-- Adds the rows of a source to a model.  Those before a failure stay. -/
def load (files : Files) (m : Model) : Source → Except Failure Unit × Model × List LogEvent
  | .memory rows =>
    match runSteps loadRow m rows with
    | (.ok (), m) =>
      (.ok (), m,
        [event .debug "memory" ("Loaded " ++ toString rows.length ++ " rows from memory")])
    | (.error e, m) => (.error e, m, [])
  | .file path =>
    match readFile files path with
    | .error e => (.error e, m, [])
    | .ok text =>
      match runSteps loadLine m (lines text.toList) with
      | (.ok (), m) => (.ok (), m, [event .debug "file" ("Loaded policy from " ++ path.text)])
      | (.error e, m) => (.error e, m, [])
  | .bare => (.error unsupported, m, [])
  | .foreign v => (.error (v.noAttribute "load_policy"), m, [])

/-! ### Saving -/

/-- The policy lines of all policy rows and role rows of a model. -/
def policyLines (m : Model) : List String :=
  (m.snapshot .policy ++ m.snapshot .role).flatMap fun (key, rows) =>
    rows.map fun row => PolicyLine.format key row

/-- The text of a policy file. -/
def fileText (lines : List String) : String := String.join (lines.map fun line => line ++ "\n")

/-- Replaces the rows of a source by those of a model. -/
def save (files : Files) (m : Model) : Source → Except Failure (Files × Source × List LogEvent)
  | .memory _ => do
    let rows ← readLines (policyLines m)
    return (files, .memory rows, [])
  | .file path =>
    let lines := policyLines m
    match files.write path (fileText lines) with
    | .ok files =>
      .ok (files, .file path,
        [event .info "file"
          ("Saved " ++ toString lines.length ++ " policy rows to " ++ path.text)])
    | .error error =>
      if error.kind.isOfFiles then .error (.source (.unwritable path.text error))
      else .error (.host error)
  | .bare => .error unsupported
  | .foreign v => .error (v.noAttribute "save_policy")

end Source

end AccessControl
