import AccessControl.Failure.Cause
import AccessControl.Number.Numeral
import AccessControl.Value.Basic

/-!
# Coercion

Numbers and truth values as expressions use them.  A text counts as the number it
writes; truth values are no numbers, and only truth values and numbers are
conditions.
-/

namespace AccessControl

/-- A number of either kind. -/
inductive Numeric where
  | int (n : Int)
  | float (x : Binary64)
  deriving DecidableEq

namespace Numeric

/-- The number as a value. -/
def value : Numeric → Value
  | .int n => .int n
  | .float x => .float x

/-- The number is zero. -/
def isZero : Numeric → Bool
  | .int n => n == 0
  | .float x => x.isZero

/-- The order of two numbers; there is none when one of them is `nan`. -/
def order : Numeric → Numeric → Option Ordering
  | .int m, .int n => some (compare m n)
  | .int m, .float y => Binary64.orderInt m y
  | .float x, .int n => (Binary64.orderInt n x).map Ordering.swap
  | .float x, .float y => Binary64.order x y

/-- The number in double precision; an integer may be too large. -/
def toFloat : Numeric → Except HostError Binary64
  | .float x => .ok x
  | .int n =>
    match Binary64.ofInt n with
    | .infinite _ => .error ⟨.overflow, "int too large to convert to float"⟩
    | x => .ok x

/-- Applies an operation on integers, or on double precision when one of the two
numbers is not an integer. -/
def combine (onInts : Int → Int → Int) (onFloats : Binary64 → Binary64 → Binary64) :
    Numeric → Numeric → Except HostError Numeric
  | .int m, .int n => .ok (.int (onInts m n))
  | a, b => do
    let x ← a.toFloat
    let y ← b.toFloat
    return .float (onFloats x y)

/-- The quotient of two integers, rounded once. -/
def divideInts (m n : Int) : Except HostError Numeric :=
  match Binary64.ofRatio ((m < 0) != (n < 0)) m.natAbs n.natAbs with
  | .infinite _ => .error ⟨.overflow, "integer division result too large for a float"⟩
  | x => .ok (.float x)

/-- The quotient of two numbers, in double precision. -/
def divide : Numeric → Numeric → Except HostError Numeric
  | .int m, .int n => divideInts m n
  | a, b => do
    let x ← a.toFloat
    let y ← b.toFloat
    return .float (x.div y)

/-- The number with the opposite sign. -/
def neg : Numeric → Numeric
  | .int n => .int (-n)
  | .float x => .float x.neg

end Numeric

/-- The number that a text writes, an integer if possible. -/
def numericText? (text : String) : Option Numeric :=
  match readInt (strip text) with
  | .ok n => some (.int n)
  | .error _ =>
    match readFloat (strip text) with
    | .ok x => some (.float x)
    | .error _ => none

/-- The number that a value stands for. -/
def Value.toNumeric : Value → Except EvaluationFault Numeric
  | .bool b => .error (.truthNumber b)
  | .int n => .ok (.int n)
  | .float x => .ok (.float x)
  | .nan _ => .ok (.float .nan)
  | .text s =>
    match numericText? s with
    | some n => .ok n
    | Option.none => .error (.notNumeric s)
  | v => .error (.kindNumber v.kind)

/-- The text of a value in a message of a failure; a value that cannot be written fails in
another way. -/
def Value.inMessage (v : Value) : Except Failure String :=
  match v.written with
  | .ok s => .ok s
  | .error e => .error (.ofHost .value e.message)

/-- The truth of a condition. -/
def Value.toTruth : Value → Except Failure Bool
  | .bool b => .ok b
  | .int n => .ok (n != 0)
  | .float x => .ok (!x.isZero)
  | .nan _ => .ok true
  | v => do
    let s ← v.inMessage
    .error (.evaluation (.expectedTruth v.kind s))

/-- Equality as expressions decide it: a number equals a text that writes it. -/
def Value.matches (v w : Value) : Bool :=
  match v, w with
  | .int n, .text s =>
    match numericText? s with
    | some m => Numeric.order (.int n) m == some .eq
    | Option.none => false
  | .float x, .text s =>
    match numericText? s with
    | some m => Numeric.order (.float x) m == some .eq
    | Option.none => false
  | .text s, .int n =>
    match numericText? s with
    | some m => Numeric.order m (.int n) == some .eq
    | Option.none => false
  | .text s, .float x =>
    match numericText? s with
    | some m => Numeric.order m (.float x) == some .eq
    | Option.none => false
  | v, w => v.equals w

end AccessControl
