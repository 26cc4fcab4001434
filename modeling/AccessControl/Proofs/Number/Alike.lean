import AccessControl.Expr.Coercion
import AccessControl.Proofs.Failure.Agreement
import AccessControl.Proofs.Number.Value

/-!
# Equal numbers

Equal numbers of double precision are one and the same, or zeros of either sign,
`Binary64.alike_of_beq`.  The sign of a zero shows only in the sign of another zero, and equal
numbers of either kind are ordered alike among all numbers.
-/

namespace AccessControl

namespace Binary64

/-! ### Canonical numbers -/

/-- A finite number as it is kept: its mantissa has at most 53 binary digits, and fewer only
under the least exponent. -/
def Canonical : Binary64 → Prop
  | .finite _ m q =>
    m < twoPow 53 ∧ (twoPow 52 ≤ m ∨ q = minExponent) ∧ minExponent ≤ q ∧ q ≤ maxExponent
  | .nan | .infinite _ => True

/-- Two numbers are the same, or zeros. -/
inductive Alike : Binary64 → Binary64 → Prop
  | refl (x : Binary64) : Alike x x
  | zeros (s t : Bool) : Alike (zero s) (zero t)

/-- Of two equal fractions the one with the long mantissa has the lesser exponent. -/
theorem exponent_le
    {m n : Nat} {p q : Int} (hm : m < twoPow 53) (hn : twoPow 52 ≤ n ∨ q = minExponent)
    (hp : minExponent ≤ p) (h : (m : ℚ) * 2 ^ p = n * 2 ^ q) :
  q ≤ p
  := by
  by_contra hlt
  have hn : twoPow 52 ≤ n := hn.resolve_right (by omega)
  have hone : (1 : ℚ) ≤ 2 := one_le_two
  apply ne_of_lt _ h
  calc (m : ℚ) * 2 ^ p < twoPow 53 * 2 ^ p :=
        mul_lt_mul_of_pos_right (Nat.cast_lt.mpr hm) (by positivity)
    _ = twoPow 52 * 2 ^ (p + 1) := by
        rw [twoPow_succ, Nat.cast_mul, zpow_add_one₀ two_ne_zero, Nat.cast_ofNat]
        ring
    _ ≤ n * 2 ^ q :=
        mul_le_mul (Nat.cast_le.mpr hn) (zpow_le_zpow_right₀ hone (by omega)) (by positivity)
          (Nat.cast_nonneg n)

theorem signedMantissa_zero (s : Bool) :
  signedMantissa s 0 = 0
  := by
  cases s <;> rfl

theorem abs_signedMantissa (s : Bool) (m : Nat) :
  |(signedMantissa s m : ℚ)| = m
  := by
  cases s <;> simp [signedMantissa]

/-- Equal numbers are the same, or zeros. -/
theorem alike_of_beq {x y : Binary64} (hx : x.Canonical) (hy : y.Canonical) (h : x.beq y = true) :
  Alike x y
  := by
  have h : order x y = some .eq := eq_of_beq h
  cases x with
  | nan => cases h
  | infinite s =>
      cases y with
      | nan => cases h
      | infinite t => cases s <;> cases t <;> first | exact .refl _ | cases h
      | finite t n q => cases s <;> cases h
  | finite s m p =>
      cases y with
      | nan => cases h
      | infinite t => cases t <;> cases h
      | finite t n q =>
          obtain ⟨hm, hlongm, hp, -⟩ := hx
          obtain ⟨hn, hlongn, hq, -⟩ := hy
          rw [order, compareScaled_eq_cmp, Option.some.injEq, cmp_eq_eq_iff] at h
          have habs : (m : ℚ) * 2 ^ p = n * 2 ^ q := by
            have hpow : ∀ e : Int, |(2 : ℚ) ^ e| = 2 ^ e := fun e => abs_of_pos (by positivity)
            rw [← abs_signedMantissa s m, ← abs_signedMantissa t n, ← hpow p, ← hpow q, ← abs_mul,
              ← abs_mul, h]
          obtain rfl : p = q :=
            le_antisymm (exponent_le hn hlongm hq habs.symm) (exponent_le hm hlongn hp habs)
          have hpos : (2 : ℚ) ^ p ≠ 0 := by positivity
          obtain rfl : m = n := Nat.cast_injective (mul_right_cancel₀ hpos habs)
          have hsigned : signedMantissa s m = signedMantissa t m :=
            Int.cast_injective (mul_right_cancel₀ hpos h)
          by_cases hst : s = t
          · rw [hst]
            apply Alike.refl
          · obtain rfl : m = 0 := by
              cases s <;> cases t <;> simp [signedMantissa] at hst hsigned <;> omega
            obtain rfl : p = minExponent := by
              apply hlongm.resolve_left
              apply not_le.mpr (twoPow_pos 52)
            exact .zeros s t

/-! ### Order among the integers -/

theorem strictMono_ofInteger : StrictMono ofInteger :=
  WithBot.coe_strictMono.comp (WithTop.coe_strictMono.comp Int.cast_strictMono)

/-- An integer is ordered among the numbers as what it stands for. -/
theorem orderInt_eq_cmp (z : Int) {x : Binary64} (hx : x ≠ .nan) :
  orderInt z x = some (cmp (ofInteger z) x.value)
  := by
  have hsigned : signedMantissa (z < 0) z.natAbs = z := by
    by_cases h : z < 0
    · rw [signedMantissa, decide_eq_true h, if_pos rfl]
      omega
    · rw [signedMantissa, decide_eq_false h, if_neg Bool.false_ne_true]
      omega
  have hvalue : (Binary64.finite (z < 0) z.natAbs 0).value = ofInteger z := by
    rw [value_finite (by rw [zpow_zero, mul_one]), hsigned]
  have horder : orderInt z x = order (.finite (z < 0) z.natAbs 0) x := by
    cases x with
    | nan | infinite s => rfl
    | finite s m q => rw [orderInt, order, hsigned]
  have hfinite : Binary64.finite (z < 0) z.natAbs 0 ≠ .nan := Binary64.noConfusion
  rw [horder, order_eq_cmp hfinite hx, hvalue]

/-! ### Operations -/

namespace Alike

variable {x x' y y' z : Binary64}

theorem trans (h : Alike x y) (h' : Alike y z) :
  Alike x z
  := by
  cases h with
  | refl => apply h'
  | zeros s t =>
      generalize hy : zero t = y at h'
      cases h' with
      | refl => rw [← hy]; exact .zeros s t
      | zeros _ u => exact .zeros s u

theorem isZero (h : Alike x y) :
  x.isZero = y.isZero
  := by
  cases h <;> rfl

/-- A number other than zero is like itself only. -/
theorem eq_of_ne_zero (h : Alike x y) (hx : x.isZero = false) :
  x = y
  := by
  cases h with
  | refl => rfl
  | zeros s t => cases hx

theorem ofScaled (s t : Bool) (z q : Int) :
  Alike (ofScaled s z q) (ofScaled t z q)
  := by
  unfold Binary64.ofScaled
  split
  · exact .zeros s t
  · exact .refl _

theorem neg (h : Alike x y) :
  Alike x.neg y.neg
  := by
  cases h with
  | refl => exact .refl _
  | zeros s t => exact .zeros (!s) (!t)

/-- A function of two numbers that takes zeros to like numbers on either side takes like
numbers to like numbers. -/
theorem of_zeros
    {f : Binary64 → Binary64 → Binary64}
    (hleft : ∀ s t y, Alike (f (zero s) y) (f (zero t) y))
    (hright : ∀ s t x, Alike (f x (zero s)) (f x (zero t))) (h : Alike x x') (h' : Alike y y') :
  Alike (f x y) (f x' y')
  := by
  have hfirst : Alike (f x y) (f x' y) := by
    cases h with
    | refl => exact .refl _
    | zeros s t => apply hleft
  apply hfirst.trans
  cases h' with
  | refl => exact .refl _
  | zeros s t => apply hright

theorem add (h : Alike x x') (h' : Alike y y') :
  Alike (x.add y) (x'.add y')
  := by
  apply of_zeros _ _ h h'
  · intro s t y
    cases y with
    | nan | infinite u => exact .refl _
    | finite u n q =>
        simp only [zero, Binary64.add, signedMantissa_zero]
        apply ofScaled
  · intro s t x
    cases x with
    | nan | infinite u => exact .refl _
    | finite u m p =>
        simp only [zero, Binary64.add, signedMantissa_zero]
        apply ofScaled

theorem sub (h : Alike x x') (h' : Alike y y') :
  Alike (x.sub y) (x'.sub y')
  := by
  rw [Binary64.sub, Binary64.sub]
  apply add h h'.neg

theorem mul (h : Alike x x') (h' : Alike y y') :
  Alike (x.mul y) (x'.mul y')
  := by
  apply of_zeros _ _ h h'
  · intro s t y
    cases y with
    | nan => exact .refl _
    | infinite u => exact .refl _
    | finite u n q =>
        simp only [zero, Binary64.mul, Nat.zero_mul, signedMantissa_zero]
        apply ofScaled
  · intro s t x
    cases x with
    | nan => exact .refl _
    | infinite u => exact .refl _
    | finite u m p =>
        simp only [zero, Binary64.mul, Nat.mul_zero, signedMantissa_zero]
        apply ofScaled

/-- A remainder has the sign of the divisor, which no zero changes. -/
theorem floorMod (h : Alike x x') (h' : Alike y y') :
  Alike (x.floorMod y) (x'.floorMod y')
  := by
  apply of_zeros _ _ h h'
  · intro s t y
    cases y with
    | nan | infinite u => exact .refl _
    | finite u n q =>
        by_cases hn : n = 0
        · have htrunc : ∀ s, truncMod (zero s) (.finite u n q) = .nan := by
            intro s
            rw [zero, truncMod, if_pos hn]
          rw [Binary64.floorMod, Binary64.floorMod, htrunc, htrunc]
          exact .refl _
        · have htrunc : ∀ s, truncMod (zero s) (.finite u n q) = zero s := by
            intro s
            rw [zero, truncMod, if_neg hn]
            simp [align, Binary64.ofScaled, signedMantissa_zero, zero]
          rw [Binary64.floorMod, Binary64.floorMod, htrunc, htrunc]
          exact .refl _
  · intro s t x
    cases x <;> exact .refl _

/-- The quotients of like numbers by one number are alike. -/
theorem div (h : Alike x x') (y : Binary64) :
  Alike (x.div y) (x'.div y)
  := by
  cases h with
  | refl => exact .refl _
  | zeros s t =>
      cases y with
      | nan => exact .refl _
      | infinite u => exact .zeros _ _
      | finite u n q =>
          by_cases hn : n = 0
          · simp only [zero, Binary64.div, if_pos hn]
            exact .refl _
          · have hquotient : ∀ s, (zero s).div (.finite u n q) = zero (s != u) := by
              intro s
              rw [zero, Binary64.div, if_neg hn]
              simp [align, ofRatio]
            rw [hquotient, hquotient]
            exact .zeros _ _

end Alike

end Binary64

namespace Numeric

/-! ### Order -/

/-- What a number stands for. -/
def real : Numeric → WithBot (WithTop ℚ)
  | .int n => Binary64.ofInteger n
  | .float x => x.value

theorem order_eq_cmp {a b : Numeric} (ha : a ≠ .float .nan) (hb : b ≠ .float .nan) :
  order a b = some (cmp a.real b.real)
  := by
  have hnan : ∀ x : Binary64, Numeric.float x ≠ .float .nan → x ≠ .nan :=
    fun x hx h => hx (congrArg _ h)
  cases a with
  | int m =>
      cases b with
      | int n =>
          rw [order, ← cmp_eq_compare, real, real, Binary64.strictMono_ofInteger.cmp_map_eq]
      | float y => apply Binary64.orderInt_eq_cmp m (hnan y hb)
  | float x =>
      cases b with
      | int n =>
          rw [order, Binary64.orderInt_eq_cmp n (hnan x ha), Option.map_some, cmp_swap]
          rfl
      | float y => apply Binary64.order_eq_cmp (hnan x ha) (hnan y hb)

theorem order_nan_left (b : Numeric) :
  order (.float .nan) b = none
  := by
  cases b <;> rfl

theorem order_nan_right (a : Numeric) :
  order a (.float .nan) = none
  := by
  cases a with
  | int n => rfl
  | float x => cases x <;> rfl

/-- Equal numbers come before, after and with the same numbers. -/
theorem order_congr {a b : Numeric} (h : order a b = some .eq) (c : Numeric) :
  order a c = order b c ∧ order c a = order c b
  := by
  have ha : a ≠ .float .nan := by
    rintro rfl
    rw [order_nan_left] at h
    cases h
  have hb : b ≠ .float .nan := by
    rintro rfl
    rw [order_nan_right] at h
    cases h
  rw [order_eq_cmp ha hb, Option.some.injEq, cmp_eq_eq_iff] at h
  by_cases hc : c = .float .nan
  · rw [hc]
    simp only [order_nan_left, order_nan_right, and_self]
  · rw [order_eq_cmp ha hc, order_eq_cmp hb hc, order_eq_cmp hc ha, order_eq_cmp hc hb, h]
    exact ⟨rfl, rfl⟩

/-! ### Operations -/

/-- Two numbers are the same, or zeros in double precision. -/
inductive Alike : Numeric → Numeric → Prop
  | int (n : Int) : Alike (.int n) (.int n)
  | float {x y : Binary64} (h : x.Alike y) : Alike (.float x) (.float y)

namespace Alike

variable {a a' b b' : Numeric}

theorem refl (a : Numeric) :
  Alike a a
  := by
  cases a with
  | int n => exact .int n
  | float x => exact .float (.refl x)

theorem order_eq (h : Alike a a') (h' : Alike b b') :
  order a b = order a' b'
  := by
  have hcongr : ∀ {a a' : Numeric}, Alike a a' → ∀ c, order a c = order a' c ∧
      order c a = order c a' := by
    intro a a' h c
    cases h with
    | int n => exact ⟨rfl, rfl⟩
    | float h =>
        cases h with
        | refl => exact ⟨rfl, rfl⟩
        | zeros s t =>
            apply order_congr
            cases s <;> cases t <;> rfl
  rw [(hcongr h b).1, (hcongr h' a').2]

theorem isZero (h : Alike a a') :
  a.isZero = a'.isZero
  := by
  cases h with
  | int n => rfl
  | float h => apply h.isZero

/-- A number other than zero is like itself only. -/
theorem eq_of_ne_zero (h : Alike a a') (ha : a.isZero = false) :
  a = a'
  := by
  cases h with
  | int n => rfl
  | float h => rw [h.eq_of_ne_zero ha]

theorem neg (h : Alike a a') :
  Alike a.neg a'.neg
  := by
  cases h with
  | int n => exact .int (-n)
  | float h => exact .float h.neg

theorem toFloat (h : Alike a a') :
  Parallel Binary64.Alike a.toFloat a'.toFloat
  := by
  cases h with
  | int n => apply Parallel.refl Binary64.Alike.refl
  | float h => exact .ok h

theorem combine
    (onInts : Int → Int → Int) {f : Binary64 → Binary64 → Binary64}
    (hf : ∀ {x x' y y' : Binary64}, x.Alike x' → y.Alike y' → (f x y).Alike (f x' y'))
    (h : Alike a a') (h' : Alike b b') :
  Parallel Alike (combine onInts f a b) (combine onInts f a' b')
  := by
  have hfloats : Parallel Alike (do return Numeric.float (f (← a.toFloat) (← b.toFloat)))
      (do return Numeric.float (f (← a'.toFloat) (← b'.toFloat))) := by
    apply h.toFloat.bind
    intro x x' hx
    apply h'.toFloat.bind
    intro y y' hy
    exact .ok (.float (hf hx hy))
  cases h with
  | int m =>
      cases h' with
      | int n => exact .ok (.int _)
      | float _ => apply hfloats
  | float _ => cases h' <;> apply hfloats

theorem divide (h : Alike a a') (b : Numeric) :
  Parallel Alike (a.divide b) (a'.divide b)
  := by
  have hfloats : Parallel Alike (do return Numeric.float ((← a.toFloat).div (← b.toFloat)))
      (do return Numeric.float ((← a'.toFloat).div (← b.toFloat))) := by
    apply h.toFloat.bind
    intro x x' hx
    apply (Parallel.refl Eq.refl b.toFloat).bind
    rintro y _ rfl
    exact .ok (.float (hx.div y))
  cases h with
  | int m => apply Parallel.refl Alike.refl
  | float _ => cases b <;> apply hfloats

end Alike

end Numeric

end AccessControl
