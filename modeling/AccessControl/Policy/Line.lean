import AccessControl.Failure.Cause
import AccessControl.Text.Blank

/-!
# Policy lines

The line in which a policy row is written: the key and the values of the row between
commas.  A value with a comma or a quote stands between double quotes, and a quote in it
is written twice.  Blank lines and comments hold no row.
-/

namespace AccessControl

namespace PolicyLine

/-! ### Reading -/

/-- The most characters of a value. -/
def maxLength : Nat := 131072

/-- Where the reader is in a line. -/
inductive Place where
  | start
  | plain
  | inQuotes
  | afterQuote
  | afterBreak
  deriving DecidableEq, Inhabited

/-- What is read of a line: the place, the letters of the current value, last first,
and their number, and the values before it, last first. -/
structure State where
  place : Place := .start
  letters : List Char := []
  size : Nat := 0
  values : List String := []
  deriving DecidableEq, Inhabited

/-- Why a line cannot be read. -/
inductive Fault where
  | tooLong
  | lineBreak
  deriving DecidableEq, Inhabited

/-- The wording of a fault. -/
def Fault.message : Fault → String
  | .tooLong => "field larger than field limit (" ++ toString maxLength ++ ")"
  | .lineBreak =>
    "new-line character seen in unquoted field - do you need to open the file in "
      ++ "universal-newline mode?"

namespace State

/-- Adds a letter to the current value. -/
def add (s : State) (place : Place) (c : Char) : Except Fault State :=
  if maxLength ≤ s.size then .error .tooLong
  else .ok { s with place, letters := c :: s.letters, size := s.size + 1 }

/-- Ends the current value. -/
def close (s : State) (place : Place) : State :=
  ⟨place, [], 0, String.ofList s.letters.reverse :: s.values⟩

/-- The character ends a line of a file. -/
def isBreak (c : Char) : Bool := c == '\n' || c == '\r'

/-- Reads a character. -/
def read (s : State) (c : Char) : Except Fault State :=
  match s.place with
  | .start =>
    if isBreak c then .ok (s.close .afterBreak)
    else if c = '"' then .ok { s with place := .inQuotes }
    else if c = ' ' then .ok s
    else if c = ',' then .ok (s.close .start)
    else s.add .plain c
  | .plain =>
    if isBreak c then .ok (s.close .afterBreak)
    else if c = ',' then .ok (s.close .start)
    else s.add .plain c
  | .inQuotes => if c = '"' then .ok { s with place := .afterQuote } else s.add .inQuotes c
  | .afterQuote =>
    if c = '"' then s.add .inQuotes c
    else if c = ',' then .ok (s.close .start)
    else if isBreak c then .ok (s.close .afterBreak)
    else s.add .plain c
  | .afterBreak => if isBreak c then .ok s else .error .lineBreak

/-- The values of a line that ends here. -/
def finish (s : State) : List String :=
  if s.place = .afterBreak then s.values.reverse else (s.close .start).values.reverse

end State

/-- The values of the rest of a line. -/
def readFrom : State → List Char → Except Fault (List String)
  | s, [] => .ok s.finish
  | s, c :: rest => do
    let s ← s.read c
    readFrom s rest

/-- The values that a line lists; a blank line and a comment list none. -/
def parse (line : String) : Except Failure (Option (List String)) :=
  let text := trim line.toList
  if text.isEmpty || text.head? = some '#' then .ok none
  else
    match readFrom {} text with
    | .ok values => .ok (some (values.map strip))
    | .error fault =>
      .error (.source (.malformedLine (String.ofList text) ⟨.delimited, fault.message⟩))

/-! ### Writing -/

/-- A quote is written twice. -/
def doubleQuotes (cs : List Char) : List Char :=
  cs.flatMap fun c => if c = '"' then ['"', '"'] else [c]

/-- The written form of a value. -/
def formatValue (value : String) : String :=
  if value.toList.contains ',' || value.toList.contains '"' then
    String.ofList ('"' :: doubleQuotes value.toList ++ ['"'])
  else value

/-- The line of a row under a key. -/
def format (key : String) (row : List String) : String :=
  ", ".intercalate ((key :: row).map formatValue)

end PolicyLine

end AccessControl
