import AccessControl.Failure.Cause
import AccessControl.Number.Shortest

/-!
# Times

The calendar day and the clock time of a number of seconds since the start of 1970, and
patterns in which a percent sign and a letter stand for a part of them.  Between the two
may stand flags, which choose what fills a part up and its case, then a width, and then
one of the marks `E` and `O`.
-/

namespace AccessControl

/-- A moment by calendar and clock.  `weekday` counts from Sunday and `yearDay` from the
first of January, both from zero. -/
structure Moment where
  year : Int
  month : Nat
  day : Nat
  hour : Nat
  minute : Nat
  second : Nat
  weekday : Nat
  yearDay : Nat
  seconds : Int
  deriving DecidableEq, Inhabited

namespace Moment

/-- The year, month and day of a number of days since the start of 1970. -/
def civil (days : Int) : Int × Nat × Nat :=
  let z := days + 719468
  let era := z.fdiv 146097
  let doe := z - era * 146097
  let yoe := (doe - doe / 1460 + doe / 36524 - doe / 146096) / 365
  let doy := doe - (365 * yoe + yoe / 4 - yoe / 100)
  let mp := (5 * doy + 2) / 153
  let month := if mp < 10 then mp + 3 else mp - 9
  let year := yoe + era * 400 + (if month ≤ 2 then 1 else 0)
  (year, month.toNat, (doy - (153 * mp + 2) / 5 + 1).toNat)

/-- The year has a day more. -/
def isLeap (year : Int) : Bool := year % 4 == 0 && (year % 100 != 0 || year % 400 == 0)

/-- The days of a year before a month. -/
def daysBefore (leap : Bool) (month : Nat) : Nat :=
  let days := [0, 31, 59, 90, 120, 151, 181, 212, 243, 273, 304, 334]
  (days[month - 1]?).getD 0 + (if leap && 2 < month then 1 else 0)

/-- The moment of a number of seconds since the start of 1970. -/
def ofSeconds (seconds : Int) : Moment :=
  let days := seconds.fdiv 86400
  let rest := (seconds - days * 86400).toNat
  let (year, month, day) := civil days
  { year, month, day, seconds
    hour := rest / 3600
    minute := rest % 3600 / 60
    second := rest % 60
    weekday := ((days + 4) % 7).toNat
    yearDay := daysBefore (isLeap year) month + day - 1 }

/-- The names of the days of the week. -/
def weekdayNames : List String :=
  ["Sunday", "Monday", "Tuesday", "Wednesday", "Thursday", "Friday", "Saturday"]

/-- The names of the months. -/
def monthNames : List String :=
  ["January", "February", "March", "April", "May", "June", "July", "August", "September",
   "October", "November", "December"]

/-- The first three letters of a name. -/
def short (name : String) : String := String.ofList (name.toList.take 3)

/-- A number with at least `width` characters. -/
def padded (blank : Char) (width : Nat) (n : Nat) : String :=
  let ds := toString n
  String.ofList (List.replicate (width - ds.length) blank) ++ ds

/-- A number with at least two digits. -/
def two (n : Nat) : String := padded '0' 2 n

/-- The hour on a clock of twelve hours. -/
def clockHour (m : Moment) : Nat := if m.hour % 12 = 0 then 12 else m.hour % 12

/-- The day of the week, counted from Monday. -/
def fromMonday (m : Moment) : Nat := (m.weekday + 6) % 7

/-- The year to which the week of a day belongs, and the number of the week in it. -/
def weekOf (m : Moment) : Int × Nat :=
  let week := ((m.yearDay : Int) - m.fromMonday + 10) / 7
  let weeksIn := fun (year : Int) (firstMonday : Int) =>
    let first := firstMonday % 7
    if first = 3 ∨ (first = 2 ∧ isLeap year) then 53 else 52
  let firstDay := (m.fromMonday : Int) - m.yearDay
  if week < 1 then
    let length : Int := if isLeap (m.year - 1) then 366 else 365
    (m.year - 1, weeksIn (m.year - 1) (firstDay - length))
  else if weeksIn m.year firstDay < week.toNat then (m.year + 1, 1)
  else (m.year, week.toNat)

/-- The date by month, day and short year. -/
def slashDate (m : Moment) : String :=
  two m.month ++ "/" ++ two m.day ++ "/" ++ two (m.year % 100).toNat

/-- The time of day. -/
def clock (m : Moment) : String := two m.hour ++ ":" ++ two m.minute ++ ":" ++ two m.second

/-- The name of a weekday. -/
def weekdayName (m : Moment) : String := (weekdayNames[m.weekday]?).getD ""

/-- The name of a month. -/
def monthName (m : Moment) : String := (monthNames[m.month - 1]?).getD ""

/-- The half of the day. -/
def half (m : Moment) : String := if m.hour < 12 then "AM" else "PM"

/-! ### Parts -/

/-- A part of a moment: a number with at least some digits, in front of which stand zeros or
blanks, a name, a text by an inner pattern, a text that has one case only, the half of the
day, the name of the zone, or the distance to the common time. -/
inductive TimePart where
  | number (n : Int) (digits : Nat) (blank : Bool)
  | name (s : String)
  | inner (s : String)
  | fixed (s : String)
  | half (s : String)
  | zone (s : String)
  | offset
  deriving DecidableEq

/-- The part of a moment that a letter stands for. -/
def part? (m : Moment) : Char → Option TimePart
  | 'Y' => some (.number m.year 1 false)
  | 'y' => some (.number (m.year % 100) 2 false)
  | 'C' => some (.number (m.year / 100) 1 false)
  | 'm' => some (.number m.month 2 false)
  | 'd' => some (.number m.day 2 false)
  | 'e' => some (.number m.day 2 true)
  | 'H' => some (.number m.hour 2 false)
  | 'k' => some (.number m.hour 2 true)
  | 'I' => some (.number m.clockHour 2 false)
  | 'l' => some (.number m.clockHour 2 true)
  | 'M' => some (.number m.minute 2 false)
  | 'S' => some (.number m.second 2 false)
  | 's' => some (.fixed (toString m.seconds))
  | 'p' => some (.half m.half)
  | 'P' => some (.fixed (m.half.map Char.toLower))
  | 'j' => some (.number (m.yearDay + 1) 3 false)
  | 'a' => some (.name (short m.weekdayName))
  | 'A' => some (.name m.weekdayName)
  | 'b' | 'h' => some (.name (short m.monthName))
  | 'B' => some (.name m.monthName)
  | 'w' => some (.number m.weekday 1 false)
  | 'u' => some (.number (m.fromMonday + 1) 1 false)
  | 'U' => some (.number ((m.yearDay + 7 - m.weekday) / 7 : Nat) 2 false)
  | 'W' => some (.number ((m.yearDay + 7 - m.fromMonday) / 7 : Nat) 2 false)
  | 'V' => some (.number m.weekOf.2 2 false)
  | 'G' => some (.number m.weekOf.1 1 false)
  | 'g' => some (.number (m.weekOf.1 % 100) 2 false)
  | 'D' | 'x' => some (.inner m.slashDate)
  | 'F' => some (.inner (toString m.year ++ "-" ++ two m.month ++ "-" ++ two m.day))
  | 'T' | 'X' => some (.inner m.clock)
  | 'R' => some (.inner (two m.hour ++ ":" ++ two m.minute))
  | 'r' =>
    some (.inner (two m.clockHour ++ ":" ++ two m.minute ++ ":" ++ two m.second ++ " " ++ m.half))
  | 'c' =>
    some (.inner (short m.weekdayName ++ " " ++ short m.monthName ++ " " ++ padded ' ' 2 m.day
      ++ " " ++ m.clock ++ " " ++ toString m.year))
  | 'z' => some .offset
  | 'Z' => some (.zone "GMT")
  | 'n' => some (.fixed "\n")
  | 't' => some (.fixed "\t")
  | '%' => some (.fixed "%")
  | _ => none

/-! ### Forms -/

/-- What a flag asks to be put in front of a part that is not wide enough. -/
inductive TimeFill where
  | zeros
  | blanks
  | nothing
  deriving DecidableEq

/-- The filling that a flag asks for. -/
def TimeFill.ofFlag? : Char → Option TimeFill
  | '0' => some .zeros
  | '_' => some .blanks
  | '-' => some .nothing
  | _ => none

/-- How a part is written: what fills it up, in which case, and how wide it is at least. -/
structure TimeForm where
  fill : Option TimeFill := none
  upper : Bool := false
  changed : Bool := false
  width : Nat := 0
  deriving DecidableEq

namespace TimeForm

/-- A text filled up to the width. -/
def fitted (f : TimeForm) (cs : List Char) : List Char :=
  List.replicate (f.width - cs.length) (if f.fill = some .zeros then '0' else ' ') ++ cs

/-- A number, filled up to its digits and the width; zeros stand behind its sign. -/
def number (f : TimeForm) (n : Int) (digits : Nat) (blank : Bool) : List Char :=
  let sign := if n < 0 then ['-'] else []
  let ds := Nat.toDigits 10 n.natAbs
  let missing := max digits f.width - sign.length - ds.length
  match f.fill.getD (if blank then .blanks else .zeros) with
  | .zeros => sign ++ List.replicate missing '0' ++ ds
  | .blanks => List.replicate missing ' ' ++ sign ++ ds
  | .nothing => f.fitted (sign ++ ds)

/-- A part in its form. -/
def write (f : TimeForm) : TimePart → List Char
  | .number n digits blank => f.number n digits blank
  | .name s => f.fitted ((if f.upper || f.changed then s.map Char.toUpper else s).toList)
  | .inner s => f.fitted ((if f.upper then s.map Char.toUpper else s).toList)
  | .fixed s => f.fitted s.toList
  | .half s => f.fitted ((if f.changed then s.map Char.toLower else s).toList)
  | .zone s => if f.fill = some .nothing then s.toList else f.fitted s.toList
  | .offset => f.fitted ['+'] ++ f.number 0 4 false

end TimeForm

/-- The letters that stand for a part behind the mark `E`. -/
def afterE : List Char := "cnprstuxyzCPRTXYZ%".toList

/-- The letters that stand for a part behind the mark `O`. -/
def afterO : List Char := "bdeghjklmnprstuwyzBCGHIMPRSTUVWZ%".toList

/-- A letter stands for a part behind a mark. -/
def isOpen (mark : Option Char) (letter : Char) : Bool :=
  match mark with
  | none => true
  | some 'E' => afterE.contains letter
  | some _ => afterO.contains letter

/-! ### Patterns -/

/-- How far a directive has been read. -/
inductive DirectiveStage where
  | flags
  | width
  | letter
  deriving DecidableEq

/-- A directive that has not come to its letter: how far it has been read, its form and its
mark so far, and its characters in reverse. -/
structure Directive where
  stage : DirectiveStage := .flags
  form : TimeForm := {}
  mark : Option Char := none
  read : List Char := ['%']
  deriving DecidableEq

namespace Directive

/-- The directive with one more character; none if that is its letter. -/
def next? (most : Nat) (d : Directive) (c : Char) : Option Directive :=
  let d := { d with read := c :: d.read }
  if d.stage = .flags && (TimeFill.ofFlag? c).isSome then
    some { d with form := { d.form with fill := TimeFill.ofFlag? c } }
  else if d.stage = .flags && c = '^' then some { d with form := { d.form with upper := true } }
  else if d.stage = .flags && c = '#' then some { d with form := { d.form with changed := true } }
  else if d.stage ≠ .letter && c.isDigit then
    let width := min most (10 * d.form.width + (c.toNat - 48))
    some { d with stage := .width, form := { d.form with width } }
  else if d.stage ≠ .letter && (c = 'E' || c = 'O') then
    some { d with stage := .letter, mark := some c }
  else none

/-- The text of a directive that stands for no part: its own characters. -/
def kept (d : Directive) (upper : Bool) : List Char :=
  d.form.fitted (if upper then d.read.reverse.map Char.toUpper else d.read.reverse)

/-- The text of a directive that ends with a letter. -/
def finish (m : Moment) (d : Directive) (letter : Char) : List Char :=
  match if isOpen d.mark letter then m.part? letter else none with
  | some part => d.form.write part
  | none =>
    let upper := d.form.upper || (d.form.changed && (letter = 'b' || letter = 'h'))
    { d with read := letter :: d.read }.kept upper

end Directive

/-- The text of a moment by a pattern, inside a directive if there is one.  No directive is
wider than `most`. -/
def formatChars (m : Moment) (most : Nat) : Option Directive → List Char → List Char
  | none, [] => []
  | some d, [] => d.kept d.form.upper
  | none, '%' :: rest => formatChars m most (some {}) rest
  | none, c :: rest => c :: formatChars m most none rest
  | some d, c :: rest =>
    match d.next? most c with
    | some d => formatChars m most (some d) rest
    | none => d.finish m c ++ formatChars m most none rest

/-- The room for a text by a pattern of some length. -/
def room (length : Nat) : Nat :=
  let needed := 256 * length
  (List.range (needed.log2 + 1)).foldl (fun size _ => if size < needed then 2 * size else size) 1024

/-- The greatest year that a pattern can write. -/
def lastYear : Int := twoPow 31 - 1

/-- The text of a moment by a pattern.  A text that there is no room for is left out. -/
def format (m : Moment) (pattern : String) : Except Failure String :=
  if lastYear < m.year then .error (.ofHost .overflow "signed integer is greater than maximum")
  else if pattern.toList.contains '\x00' then .error (.ofHost .value "embedded null character")
  else
    let size := room pattern.length
    let cs := formatChars m size none pattern.toList
    .ok (if cs.length < size then String.ofList cs else "")

/-! ### Moments of values -/

/-- The years of the calendar, before the first of which and after the last of which there
is no moment. -/
def years : Int × Int := (1900 - twoPow 31, 1899 + twoPow 31)

/-- The moment of a number of seconds that a clock can show. -/
def ofClock (seconds : Int) : Except Failure Moment :=
  if seconds < -twoPow 63 ∨ twoPow 63 ≤ seconds then
    .error (.ofHost .overflow "timestamp out of range for platform time_t")
  else
    let m := ofSeconds seconds
    if m.year < years.1 ∨ years.2 < m.year then
      .error (.ofHost .largeValue "[Errno 75] Value too large for defined data type")
    else .ok m

/-- The moment of a value that counts seconds; fractions of a second are left out. -/
def ofValue (v : Value) : Except Failure Moment :=
  match v.asInt?, v.real? with
  | some n, _ => ofClock n
  | none, some x =>
    if x.isNaN then .error (.ofHost .value "Invalid value NaN (not a number)")
    else
      match x.truncate with
      | some n => ofClock (if x.isNegative && !x.isIntegral then n - 1 else n)
      | none => .error (.ofHost .overflow "timestamp out of range for platform time_t")
  | none, none =>
    .error (.type ("'" ++ v.kind ++ "' object cannot be interpreted as an integer"))

end Moment

end AccessControl
