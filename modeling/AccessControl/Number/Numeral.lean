import AccessControl.Number.Binary64
import AccessControl.Text.Blank
import AccessControl.Text.Digits
import AccessControl.Text.Quoted

/-!
# Numerals

Reading integers and floating-point numbers from text.  Blanks around a numeral are
skipped, digits of every decimal script count, and single underscores may stand
between digits.  An integer that is read or written has at most 4300 digits.
-/

namespace AccessControl

/-- Why a text is no number, or a number has no text. -/
inductive NumeralError where
  /-- The text is not an integer in base ten. -/
  | notInteger (text : String)
  /-- The integer has more digits than are read. -/
  | tooManyDigits (digits : Nat)
  /-- The integer has more digits than are written. -/
  | unwritable
  /-- The text is not a floating-point number. -/
  | notFloat (text : String)
  deriving DecidableEq

/-- A quoted text of which at most 200 characters are shown. -/
def briefly (text : String) : String := String.ofList ((quoted text).toList.take 200)

/-- The wording of a numeral error. -/
def NumeralError.message : NumeralError → String
  | .notInteger text => "invalid literal for int() with base 10: " ++ briefly text
  | .tooManyDigits n =>
    "Exceeds the limit (4300 digits) for integer string conversion: value has " ++ toString n
      ++ " digits; use sys.set_int_max_str_digits() to increase the limit"
  | .unwritable =>
    "Exceeds the limit (4300 digits) for integer string conversion; use "
      ++ "sys.set_int_max_str_digits() to increase the limit"
  | .notFloat text => "could not convert string to float: " ++ quoted text

/-- The greatest number of digits of an integer that is read or written. -/
def maxDigits : Nat := 4300

/-- The integer has no more digits than are written. -/
def isWritable (n : Int) : Bool := n.natAbs < tenPow maxDigits

/-- A sign at the start of a numeral, and the rest. -/
def splitSign : List Char → Bool × List Char
  | '+' :: rest => (false, rest)
  | '-' :: rest => (true, rest)
  | rest => (false, rest)

/-- The digits at the start of a text, with single underscores between them, and the
rest; `inside` says that a digit has just been read. -/
def spanDigits (inside : Bool) : List Char → List Nat × List Char
  | [] => ([], [])
  | '_' :: rest =>
    if inside then
      match spanDigits false rest with
      | ([], _) => ([], '_' :: rest)
      | found => found
    else ([], '_' :: rest)
  | c :: rest =>
    match decimalValue? c with
    | none => ([], c :: rest)
    | some d =>
      let (ds, tail) := spanDigits true rest
      (d :: ds, tail)

/-- The number written by a list of digits. -/
def ofDigits (ds : List Nat) : Nat := ds.foldl (fun n d => 10 * n + d) 0

/-- The digits that a text consists of, with single underscores between them; `inside`
says that a digit has just been read. -/
def separatedDigits? (inside : Bool) : List Char → Option (List Nat)
  | [] => if inside then some [] else none
  | c :: rest =>
    if c = '_' then if inside then separatedDigits? false rest else none
    else
      match decimalValue? c with
      | none => none
      | some d => (separatedDigits? true rest).map (d :: ·)

/-- The character may be part of a numeral without a sign. -/
def isNumeralChar (c : Char) : Bool := c == '_' || (decimalValue? c).isSome

/-- Reads an integer.  The digits at the start are judged before what follows them. -/
def readInt (text : String) : Except NumeralError Int :=
  let (negative, body) := splitSign (trimOf isSpacing text.toList)
  match separatedDigits? false (body.takeWhile isNumeralChar) with
  | none => .error (.notInteger text)
  | some ds =>
    if maxDigits < ds.length then .error (.tooManyDigits ds.length)
    else if !(body.dropWhile isNumeralChar).isEmpty then .error (.notInteger text)
    else .ok (if negative then -(ofDigits ds : Int) else ofDigits ds)

/-- The number nearest to `± n * 10 ^ e` where `n` has `digits` digits; far beyond the
range of double precision the exponent alone decides. -/
def ofDecimal (negative : Bool) (n digits : Nat) (e : Int) : Binary64 :=
  if n = 0 then Binary64.zero negative
  else if 400 < e + digits then .infinite negative
  else if e + digits < -400 then Binary64.zero negative
  else
    match e with
    | .ofNat k => Binary64.ofRatio negative (n * tenPow k) 1
    | .negSucc k => Binary64.ofRatio negative n (tenPow (k + 1))

/-- Reads the exponent that may end a floating-point numeral. -/
def readExponent : List Char → Option Int
  | [] => some 0
  | c :: rest =>
    if c = 'e' ∨ c = 'E' then
      let (negative, body) := splitSign rest
      match spanDigits false body with
      | (d :: ds, []) =>
        let n := ofDigits (d :: ds)
        some (if negative then -(n : Int) else n)
      | _ => none
    else none

/-- Reads the unsigned part of a floating-point numeral. -/
def readMagnitude (negative : Bool) (body : List Char) : Option Binary64 :=
  let (whole, rest) := spanDigits false body
  let (frac, rest) := match rest with
    | '.' :: more => spanDigits false more
    | _ => ([], rest)
  if whole.isEmpty && frac.isEmpty then none
  else
    (readExponent rest).map fun e =>
      let ds := whole ++ frac
      let n := ofDigits ds
      ofDecimal negative n (toString n).length (e - frac.length)

/-- Reads a floating-point number; the words for an infinity and for no number are
read in any case. -/
def readFloat (text : String) : Except NumeralError Binary64 :=
  let (negative, body) := splitSign (trimOf isSpacing text.toList)
  let word := body.map Char.toLower
  if word = "inf".toList ∨ word = "infinity".toList then .ok (.infinite negative)
  else if word = "nan".toList then .ok .nan
  else
    match readMagnitude negative body with
    | some x => .ok x
    | none => .error (.notFloat text)

end AccessControl
