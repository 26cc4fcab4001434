import AccessControl.Number.Basic

/-!
# Binary floating point

Numbers of double precision as exact dyadic rationals.  A finite number is a
sign, a mantissa and a power of two; every operation computes the exact rational
result and rounds it once, to the nearest number and to the even mantissa on a
tie.
-/

namespace AccessControl

/-- A number of double precision: `finite negative m q` stands for `m * 2 ^ q`,
with the sign `negative`. -/
inductive Binary64 where
  | nan
  | infinite (negative : Bool)
  | finite (negative : Bool) (mantissa : Nat) (exponent : Int)
  deriving DecidableEq, Inhabited

namespace Binary64

/-! ### Rounding -/

/-- The least exponent of a finite number. -/
def minExponent : Int := -1074

/-- The greatest exponent of a finite number. -/
def maxExponent : Int := 971

/-- Zero with the given sign. -/
def zero (negative : Bool) : Binary64 := .finite negative 0 minExponent

/-- The quotient `num / den` rounded to an integer, a half going to the even one. -/
def divRound (num den : Nat) : Nat :=
  let q := num / den
  let r := num % den
  if 2 * r < den then q
  else if den < 2 * r then q + 1
  else if q % 2 = 0 then q else q + 1

/-- The fraction `num / den` in units of `2 ^ q`, as a fraction. -/
def inUnits (num den : Nat) (q : Int) : Nat × Nat :=
  match q with
  | .ofNat n => (num, den * twoPow n)
  | .negSucc n => (num * twoPow (n + 1), den)

/-- The exponent of the number nearest to `num / den`: the least one that leaves
at most 53 binary digits. -/
def unitExponent (num den : Nat) : Int :=
  let q := max ((num.log2 : Int) - (den.log2 : Int) - 52) minExponent
  let (a, b) := inUnits num den q
  if a < b * twoPow 52 then max (q - 1) minExponent else q

/-- The number nearest to `num / den`, infinite when it is too large. -/
def ofRatio (negative : Bool) (num den : Nat) : Binary64 :=
  if num = 0 then zero negative
  else
    let q := unitExponent num den
    let (a, b) := inUnits num den q
    let m := divRound a b
    let (m, q) := if m = twoPow 53 then (twoPow 52, q + 1) else (m, q)
    if maxExponent < q then .infinite negative else .finite negative m q

/-- The number nearest to `z * 2 ^ q`; `negative` is the sign of a zero. -/
def ofScaled (negative : Bool) (z : Int) (q : Int) : Binary64 :=
  if z = 0 then zero negative
  else
    match q with
    | .ofNat n => ofRatio (z < 0) (z.natAbs * twoPow n) 1
    | .negSucc n => ofRatio (z < 0) z.natAbs (twoPow (n + 1))

/-- The number nearest to an integer. -/
def ofInt (z : Int) : Binary64 := ofRatio (z < 0) z.natAbs 1

/-! ### Parts -/

/-- The sign is a minus. -/
def isNegative : Binary64 → Bool
  | .nan => false
  | .infinite s => s
  | .finite s _ _ => s

def isNaN : Binary64 → Bool
  | .nan => true
  | _ => false

def isInfinite : Binary64 → Bool
  | .infinite _ => true
  | _ => false

/-- The number is zero, of either sign. -/
def isZero : Binary64 → Bool
  | .finite _ m _ => m == 0
  | _ => false

/-- The mantissa with the sign of the number. -/
def signedMantissa (negative : Bool) (m : Nat) : Int :=
  if negative then -(m : Int) else m

/-- The finite number `m * 2 ^ q` as a fraction. -/
def magnitude (m : Nat) (q : Int) : Nat × Nat :=
  match q with
  | .ofNat n => (m * twoPow n, 1)
  | .negSucc n => (m, twoPow (n + 1))

/-- Two scaled integers `a * 2 ^ p` and `b * 2 ^ q` over the smaller of the two
powers. -/
def align (a : Int) (p : Int) (b : Int) (q : Int) : Int × Int × Int :=
  let r := min p q
  (a * twoPow (p - r).toNat, b * twoPow (q - r).toNat, r)

/-! ### Arithmetic -/

/-- The number with the opposite sign. -/
def neg : Binary64 → Binary64
  | .nan => .nan
  | .infinite s => .infinite !s
  | .finite s m q => .finite (!s) m q

def add : Binary64 → Binary64 → Binary64
  | .nan, _ | _, .nan => .nan
  | .infinite s, .infinite t => if s = t then .infinite s else .nan
  | .infinite s, .finite .. => .infinite s
  | .finite .., .infinite t => .infinite t
  | .finite s m p, .finite t n q =>
    let (a, b, r) := align (signedMantissa s m) p (signedMantissa t n) q
    ofScaled (s && t) (a + b) r

def sub (x y : Binary64) : Binary64 := add x (neg y)

def mul : Binary64 → Binary64 → Binary64
  | .nan, _ | _, .nan => .nan
  | .infinite s, .infinite t => .infinite (s != t)
  | .infinite s, .finite t n _ => if n = 0 then .nan else .infinite (s != t)
  | .finite s m _, .infinite t => if m = 0 then .nan else .infinite (s != t)
  | .finite s m p, .finite t n q =>
    ofScaled (s != t) (signedMantissa (s != t) (m * n)) (p + q)

/-- The quotient; a zero divisor gives an infinity or no number. -/
def div : Binary64 → Binary64 → Binary64
  | .nan, _ | _, .nan => .nan
  | .infinite _, .infinite _ => .nan
  | .infinite s, .finite t _ _ => .infinite (s != t)
  | .finite s _ _, .infinite t => zero (s != t)
  | .finite s m p, .finite t n q =>
    if n = 0 then if m = 0 then .nan else .infinite (s != t)
    else
      let (a, b, _) := align m p n q
      ofRatio (s != t) a.natAbs b.natAbs

/-- The remainder of a division rounded toward zero; it has the sign of `x`. -/
def truncMod : Binary64 → Binary64 → Binary64
  | .nan, _ | _, .nan => .nan
  | .infinite _, _ => .nan
  | .finite s m p, .infinite _ => .finite s m p
  | .finite s m p, .finite _ n q =>
    if n = 0 then .nan
    else
      let (a, b, r) := align m p n q
      let z := (a.natAbs % b.natAbs : Nat)
      ofScaled s (signedMantissa s z) r

/-- The remainder of a division rounded down; it has the sign of the divisor. -/
def floorMod (x y : Binary64) : Binary64 :=
  let r := truncMod x y
  if r.isZero then zero y.isNegative
  else if r.isNaN then r
  else if r.isNegative != y.isNegative then add r y
  else r

/-! ### Comparison -/

/-- The order of two scaled integers. -/
def compareScaled (a : Int) (p : Int) (b : Int) (q : Int) : Ordering :=
  let (a, b, _) := align a p b q
  compare a b

/-- The order of two numbers; there is none when one of them is not a number. -/
def order : Binary64 → Binary64 → Option Ordering
  | .nan, _ | _, .nan => none
  | .infinite s, .infinite t =>
    some (if s = t then .eq else if s then .lt else .gt)
  | .infinite s, .finite .. => some (if s then .lt else .gt)
  | .finite .., .infinite t => some (if t then .gt else .lt)
  | .finite s m p, .finite t n q =>
    some (compareScaled (signedMantissa s m) p (signedMantissa t n) q)

/-- The order of an integer and a number, decided without rounding. -/
def orderInt (z : Int) : Binary64 → Option Ordering
  | .nan => none
  | .infinite s => some (if s then .gt else .lt)
  | .finite s m q => some (compareScaled z 0 (signedMantissa s m) q)

/-- Equality of numbers: both zeros are equal and `nan` equals nothing. -/
def beq (x y : Binary64) : Bool := order x y == some .eq

/-- The number is an integer. -/
def isIntegral : Binary64 → Bool
  | .finite _ m q =>
    let (a, b) := magnitude m q
    a % b == 0
  | _ => false

/-- The integer part of a finite number, rounded toward zero. -/
def truncate : Binary64 → Option Int
  | .finite s m q =>
    let (a, b) := magnitude m q
    some (signedMantissa s (a / b))
  | _ => none

end Binary64

end AccessControl
