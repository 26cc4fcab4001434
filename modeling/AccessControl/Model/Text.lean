import AccessControl.Log.Event
import AccessControl.Model.Section
import AccessControl.Text.Blank

/-!
# Model text

The layout in which models are written: a header in brackets before each section, one
definition to a line, comments, and lines continued by a backslash.  Sections with
unknown names are skipped.
-/

namespace AccessControl

/-- A definition of a text: its kind, its key and its value. -/
structure Entry where
  kind : SectionKind
  key : String
  value : String
  deriving DecidableEq, Inhabited

namespace ModelText

/-- The section that a line belongs to. -/
inductive Place where
  | outside
  | skipped
  | inside (kind : SectionKind)
  deriving DecidableEq, Inhabited

/-- What a complete line says. -/
inductive Line where
  | header (name : String)
  | definition (key value : String)
  | neither
  deriving DecidableEq, Inhabited

/-- What a complete line says. -/
def readLine (line : List Char) : Line :=
  if line.head? = some '[' ∧ line.getLast? = some ']' then
    .header (String.ofList (trim ((line.drop 1).dropLast)))
  else if line.contains '=' then
    let key := trim (line.takeWhile (· != '='))
    if key.isEmpty then .neither
    else
      .definition (String.ofList key)
        (String.ofList (trim ((line.dropWhile (· != '=')).drop 1)))
  else .neither

/-- The line is blank or a comment. -/
def isSkipped (line : List Char) : Bool :=
  match line with
  | [] => true
  | c :: _ => c == '#' || c == ';'

/-- The state between two lines: the place, and the text of a line to be continued
with the number of its first line. -/
structure State where
  place : Place := .outside
  pending : List Char := []
  pendingLine : Nat := 0
  deriving DecidableEq, Inhabited

/-- What a text holds: its entries, and the skipped sections by name and line. -/
structure Contents where
  entries : List Entry := []
  skipped : List (String × Nat) := []
  deriving DecidableEq, Inhabited

/-- Reads a complete line at a place; the result is the place after it. -/
def take (place : Place) (number : Nat) (line : List Char) (contents : Contents) :
    Except Failure Place × Contents :=
  match readLine line with
  | .header name =>
    match SectionKind.ofAlias? name with
    | some kind => (.ok (.inside kind), contents)
    | none => (.ok .skipped, { contents with skipped := contents.skipped ++ [(name, number)] })
  | said =>
    match place, said with
    | .skipped, _ => (.ok .skipped, contents)
    | .outside, _ => (.error (.model (.outsideSection number)), contents)
    | .inside kind, .definition key value =>
      (.ok (.inside kind), { contents with entries := contents.entries ++ [⟨kind, key, value⟩] })
    | .inside _, _ =>
      (.error (.model (.noDefinition number (String.ofList line))), contents)

/-- Reads lines, numbered from `number` on. -/
def readLines : Nat → State → Contents → List (List Char) → Except Failure Unit × Contents
  | _, state, contents, [] =>
    if state.pending.isEmpty then (.ok (), contents)
    else (.error (.model (.openContinuation state.pendingLine)), contents)
  | number, state, contents, raw :: rest =>
    let own := trim raw
    let continued := !state.pending.isEmpty
    let line := if continued then state.pending ++ ' ' :: own else own
    if !continued && isSkipped own then readLines (number + 1) state contents rest
    else if line.getLast? = some '\\' then
      let first := if continued then state.pendingLine else number
      readLines (number + 1) ⟨state.place, trimEnd isBlank line.dropLast, first⟩ contents rest
    else
      match take state.place number line contents with
      | (.ok place, contents) => readLines (number + 1) ⟨place, [], 0⟩ contents rest
      | (.error e, contents) => (.error e, contents)

/-- Reads a text. -/
def read (text : String) : Except Failure Unit × Contents :=
  readLines 1 {} {} (lines text.toList)

/-- The entries of a text in order. -/
def entries (text : String) : Except Failure (List Entry) :=
  match read text with
  | (.ok (), contents) => .ok contents.entries
  | (.error e, _) => .error e

/-- The warnings about the skipped sections of a text. -/
def warnings (text : String) : List LogEvent :=
  (read text).2.skipped.map fun (name, number) =>
    { level := .warning, source := "contextauthz.model.text",
      message := "Ignoring unknown model section [" ++ name ++ "] at line " ++ toString number }

end ModelText

end AccessControl
