import AccessControl.Call.Argument
import AccessControl.Log.Redaction
import AccessControl.Log.Template
import AccessControl.Log.Time
import AccessControl.Value.Entries

/-!
# Log records

A reported event with its time, and its text: a record of its fields on one line, or a
plain line.  Secrets in the message and in the further fields are replaced if asked
for.
-/

namespace AccessControl

/-- A record: the name of its level, the reporting part, the message with its argument, the
time in seconds and the milliseconds of it, further fields in order, and the text of an
error, which may turn out to be none. -/
structure LogRecord where
  level : Value
  source : Value
  message : Value
  argument : Value := .none
  seconds : Value := .int 0
  milliseconds : Value := .int 0
  extra : List (String × Value) := []
  exception : Except Failure (Option String) := .ok none
  deriving Inhabited

/-- How records are written. -/
structure LogLayout where
  json : Bool := true
  redacted : Bool := true
  datePattern : String := ""
  deriving DecidableEq, Inhabited

namespace LogRecord

/-- The names of the fields that a record has of its own. -/
def reserved : List String :=
  ["name", "msg", "args", "created", "filename", "funcName", "levelname", "levelno", "lineno",
   "module", "msecs", "message", "pathname", "process", "processName", "relativeCreated",
   "thread", "threadName", "exc_info", "exc_text", "stack_info", "taskName", "enforcer_id"]

/-- The name under which the tag of an enforcer is given. -/
def tagKey : String := "enforcer_id"

/-- The text of an error that values stand for; only `none` can stand for one and for its
trace. -/
def errorText (error trace : Value) : Except Failure String :=
  match trace, error with
  | .none, .none => .ok "NoneType: None"
  | .none, v => .error (v.noAttribute "__suppress_context__")
  | v, _ => .error (v.noAttribute "tb_frame")

/-- The text of the error that a value describes by its class, itself and its trace; a value
that counts as false describes none. -/
def errorOf (v : Value) : Except Failure (Option String) :=
  if !v.isTruthy then .ok none
  else
    match v, v.items? with
    | .mapping _, _ => .error (.ofHost .key "2")
    | _, some (_ :: error :: trace :: _) => (errorText error trace).map some
    | .text _, some _ => .error (.ofHost .index "string index out of range")
    | v, some _ => .error (.ofHost .index (v.kind ++ " index out of range"))
    | v, none => .error (.type ("'" ++ v.kind ++ "' object is not subscriptable"))

/-- The record with an attribute that a host gives.  Some names replace what the record
says itself, any other is a further field. -/
def give (r : LogRecord) (entry : String × Value) : LogRecord :=
  match entry with
  | ("levelname", v) => { r with level := v }
  | ("name", v) => { r with source := v }
  | ("msg", v) => { r with message := v }
  | ("args", v) => { r with argument := v }
  | ("created", v) => { r with seconds := v }
  | ("msecs", v) => { r with milliseconds := v }
  | ("exc_info", v) => { r with exception := errorOf v }
  | (name, v) => { r with extra := putEntry name v r.extra }

/-- The tag of the enforcer that reports, if it has one. -/
def tag? (r : LogRecord) : Option String :=
  match r.extra.lookup tagKey with
  | some v => if v.isTruthy then some v.display else none
  | none => none

/-- The time of a record, with milliseconds unless a pattern is given. -/
def timeText (layout : LogLayout) (r : LogRecord) : Except Failure String := do
  let moment ← Moment.ofValue r.seconds
  if layout.datePattern = "" then
    let text ← moment.format "%Y-%m-%d %H:%M:%S"
    Template.format "%s,%03d" (.tuple [.text text, r.milliseconds])
  else moment.format layout.datePattern

/-- The message of a record. -/
def messageText (r : LogRecord) : Except Failure String :=
  Template.format r.message.display r.argument

/-- The fields of a record before those that the reporting part adds. -/
def ownFields (r : LogRecord) (time message : String) (exception : Option String) :
    List (String × Value) :=
  [("timestamp", .text time), ("level", r.level), ("logger", r.source),
   ("message", .text message)]
    ++ (r.tag?.map fun tag => (tagKey, .text tag)).toList
    ++ (exception.map fun text => ("exception", .text text)).toList

/-- Adds a further field.  A reserved name adds none, and a field of that name is
replaced where it stands. -/
def addField (layout : LogLayout) (fields : List (String × Value)) (entry : String × Value) :
    List (String × Value) :=
  if reserved.contains entry.1 then fields
  else
    putEntry entry.1 (.text (Redaction.logText entry.2 Preview.defaultLimit layout.redacted)) fields

/-- All fields of a record in order. -/
def fields (layout : LogLayout) (r : LogRecord) : Except Failure (List (String × Value)) := do
  let time ← r.timeText layout
  let message ← r.messageText
  let exception ← r.exception
  let all := r.extra.foldl (addField layout) (r.ownFields time message exception)
  return if layout.redacted then putEntry "message" (.text (Redaction.redact message)) all else all

/-- The fields as a plain line. -/
def plainLine (fields : List (String × Value)) : String :=
  let field := fun name => ((fields.lookup name).map Value.display).getD ""
  " ".intercalate
    (["[" ++ field "timestamp" ++ "]", field "level", field "logger"]
      ++ ((fields.lookup tagKey).map fun tag => tagKey ++ "=" ++ tag.display).toList
      ++ [": " ++ field "message"])

/-- The text of a record. -/
def format (layout : LogLayout) (r : LogRecord) : Except Failure String :=
  (r.fields layout).map fun fields =>
    if layout.json then (Value.mapping fields).recordText else plainLine fields

end LogRecord

end AccessControl
