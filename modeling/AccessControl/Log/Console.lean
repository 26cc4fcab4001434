import AccessControl.Config.Basic
import AccessControl.Log.Record

/-!
# The log of a host

The tag that an enforcer puts on its reports, and the lines that a host's log holds after
it has been set up by a configuration.
-/

namespace AccessControl

namespace LogRecord

/-- The failure of a value in which no entry can be put. -/
def notAssignable (v : Value) : Failure :=
  match v with
  | .list _ => .type "list indices must be integers or slices, not str"
  | v => .type ("'" ++ v.kind ++ "' object does not support item assignment")

/-- The further fields with a tag, if there is one. -/
def tagFields (tag extra : Value) : Except Failure Value :=
  if tag.isTruthy then
    match extra with
    | .mapping entries => .ok (.mapping (putEntry tagKey tag entries))
    | v => .error (notAssignable v)
  else .ok extra

/-- The arguments of a report with the tag of an enforcer in their further fields.  A tag
among the arguments is taken instead. -/
def tagArguments (tag : Value) (keywords : List (String × Value)) :
    Except Failure (List (String × Value)) := do
  let tag := (keywords.lookup tagKey).getD tag
  let keywords := dropEntry tagKey keywords
  let extra ← tagFields tag ((keywords.lookup "extra").getD (.mapping []))
  return putEntry "extra" extra keywords

/-- The names that further fields must not have. -/
def protectedNames : List String :=
  ["message", "asctime", "name", "msg", "args", "levelname", "levelno", "pathname", "filename",
   "module", "exc_info", "exc_text", "stack_info", "lineno", "funcName", "created", "msecs",
   "relativeCreated", "thread", "threadName", "processName", "process"]

/-- Further fields must not have the name of a field that every record has. -/
def checkNames (extra : List (String × Value)) : Except Failure Unit :=
  match extra.find? fun (name, _) => protectedNames.contains name with
  | some (name, _) =>
    .error (.ofHost .key (quoted ("Attempt to overwrite " ++ quoted name ++ " in LogRecord")))
  | none => .ok ()

end LogRecord

/-- A report that a host makes. -/
structure HostReport where
  level : LogLevel
  message : String
  extra : List (String × Value)
  deriving Inhabited

/-- A log that a host has set up: its level and its layout. -/
structure Console where
  level : LogLevel
  layout : LogLayout

namespace Console

/-- What is written in place of the time of a record. -/
def timeMark : String := "<time>"

/-- The log of a configuration; `json` overrides its choice between records and plain
lines. -/
def ofConfig (config : Config) (json : Option Bool) (redacted : Bool) : Console :=
  ⟨config.logLevel, { json := json.getD config.logJson, redacted, datePattern := timeMark }⟩

/-- The text of a report. -/
def write (c : Console) (source : String) (tag : Value) (report : HostReport) :
    Except Failure String := do
  if report.level.rank < c.level.rank then return ""
  else
    let extra ← LogRecord.tagFields tag (.mapping report.extra)
    let fields := match extra with
      | .mapping entries => entries
      | _ => report.extra
    LogRecord.checkNames fields
    let record : LogRecord :=
      { level := .text report.level.name, source := .text source, message := .text report.message
        extra := fields }
    let text ← record.format c.layout
    return text ++ "\n"

/-- The lines of the log after some reports. -/
def lines (c : Console) (source : String) (tag : Value) (reports : List HostReport) :
    Except Failure (List String) := do
  let texts ← reports.mapM (c.write source tag)
  return (splitAt '\n' (String.join texts).toList).map String.ofList

end Console

end AccessControl
