import AccessControl.Number.Binary64

/-!
# Shortest decimal text

The text of a number of double precision is the decimal with the fewest digits
that rounds to it, and of those the nearest.  It is positional from `1e-4` up to
`1e16` and has an exponent of at least two digits outside that range.
-/

namespace AccessControl

namespace Binary64

/-- The fraction `num / den` is less than `10 ^ k`. -/
def isBelowTenPow (num den : Nat) : Int → Bool
  | .ofNat n => num < den * tenPow n
  | .negSucc n => num * tenPow (n + 1) < den

/-- The least `k` with `num / den < 10 ^ k`, searched upward from a start with
`fuel` steps. -/
def raiseDecade (num den : Nat) : Nat → Int → Int
  | 0, k => k
  | fuel + 1, k =>
    if isBelowTenPow num den k then k else raiseDecade num den fuel (k + 1)

/-- The decade of a positive fraction: the `k` with
`10 ^ (k - 1) ≤ num / den < 10 ^ k`. -/
def decade (num den : Nat) : Int :=
  let bits := (num.log2 : Int) - (den.log2 : Int) - 1
  raiseDecade num den 5 (bits * 30103 / 100000 - 1)

/-- The fraction `num / den` multiplied by `10 ^ k`. -/
def timesTenPow (num den : Nat) (k : Int) : Nat × Nat :=
  match k with
  | .ofNat n => (num * tenPow n, den)
  | .negSucc n => (num, den * tenPow (n + 1))

/-- The decimal `c * 10 ^ k` rounds to the finite number `m * 2 ^ q`. -/
def readsBack (m : Nat) (q : Int) (c : Nat) (k : Int) : Bool :=
  let (a, b) := timesTenPow c 1 k
  ofRatio false a b == .finite false m q

/-- The shortest decimal of `m * 2 ^ q` with `n` digits or more, tried for `fuel`
digit counts, as a pair of an integer and a power of ten. -/
def shortestFrom (m : Nat) (q : Int) (k : Int) : Nat → Nat → Nat × Int
  | 0, n =>
    let (a, b) := magnitude m q
    let (a, b) := timesTenPow a b (n - k)
    (divRound a b, k - n)
  | fuel + 1, n =>
    let (a, b) := magnitude m q
    let (a, b) := timesTenPow a b (n - k)
    let low := a / b
    match readsBack m q low (k - n), readsBack m q (low + 1) (k - n) with
    | true, true => (divRound a b, k - n)
    | true, false => (low, k - n)
    | false, true => (low + 1, k - n)
    | false, false => shortestFrom m q k fuel (n + 1)

/-- A decimal without trailing zeros: `dropZeros fuel c k` is `c * 10 ^ k` with
up to `fuel` zeros of `c` moved into the exponent. -/
def dropZeros : Nat → Nat → Int → Nat × Int
  | 0, c, k => (c, k)
  | fuel + 1, c, k => if c % 10 = 0 then dropZeros fuel (c / 10) (k + 1) else (c, k)

/-- The shortest decimal of the positive number `m * 2 ^ q`. -/
def shortest (m : Nat) (q : Int) : Nat × Int :=
  let (a, b) := magnitude m q
  let (c, k) := shortestFrom m q (decade a b) 16 1
  dropZeros 20 c k

/-- An exponent with a sign and at least two digits. -/
def exponentText (e : Int) : String :=
  let digits := toString e.natAbs
  (if e < 0 then "-" else "+") ++ (if digits.length < 2 then "0" ++ digits else digits)

/-- `n` zeros. -/
def zeros (n : Nat) : String := String.ofList (List.replicate n '0')

/-- The text of the decimal `c * 10 ^ k`. -/
def decimalText (c : Nat) (k : Int) : String :=
  let digits := toString c
  let point : Int := digits.length + k
  if -4 < point ∧ point ≤ 16 then
    if point ≤ 0 then "0." ++ zeros (-point).toNat ++ digits
    else if digits.length ≤ point.toNat then digits ++ zeros (point.toNat - digits.length) ++ ".0"
    else String.ofList (digits.toList.take point.toNat) ++ "."
      ++ String.ofList (digits.toList.drop point.toNat)
  else
    let lead := String.ofList (digits.toList.take 1)
    let rest := digits.toList.drop 1
    lead ++ (if rest.isEmpty then "" else "." ++ String.ofList rest) ++ "e"
      ++ exponentText (point - 1)

/-- The text of a number. -/
def toText : Binary64 → String
  | .nan => "nan"
  | .infinite s => if s then "-inf" else "inf"
  | .finite s m q =>
    let sign := if s then "-" else ""
    if m = 0 then sign ++ "0.0"
    else
      let (c, k) := shortest m q
      sign ++ decimalText c k

/-! ### Fixed precision -/

/-- The digits of `num / den` with `places` digits after the point, a half going to
the even neighbour. -/
def fixedText (num den places : Nat) : String :=
  let n := divRound (num * tenPow places) den
  let whole := toString (n / tenPow places)
  if places = 0 then whole
  else
    let frac := toString (n % tenPow places)
    whole ++ "." ++ zeros (places - frac.length) ++ frac

/-- The first `digits + 1` significant digits of a positive fraction, as an integer
and the power of ten of its first digit. -/
def significant (num den digits : Nat) : Nat × Int :=
  let k := decade num den
  let (a, b) := timesTenPow num den (digits + 1 - k)
  let c := divRound a b
  if c = tenPow (digits + 1) then (tenPow digits, k) else (c, k - 1)

end Binary64

end AccessControl
