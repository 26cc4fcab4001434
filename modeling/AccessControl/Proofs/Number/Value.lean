import AccessControl.Proofs.Failure.Results
import AccessControl.Proofs.Number.Numeral

/-!
# Values of numbers

What a number of double precision stands for, and what an integer that is written in base ten
is read as.  Numbers are ordered as what they stand for, `Binary64.order_eq_lt`, and an integer
of at most 53 binary digits is read as itself, `readFloat_of_writes`.
-/

namespace AccessControl

namespace Binary64

/-! ### Order -/

/-- What a number stands for: a fraction, or an infinity beyond all fractions.  What is not a
number has a value only for want of another. -/
def value : Binary64 → WithBot (WithTop ℚ)
  | .nan => ⊥
  | .infinite negative => if negative then ⊥ else ((⊤ : WithTop ℚ) : WithBot (WithTop ℚ))
  | .finite negative m q => (((signedMantissa negative m : ℚ) * 2 ^ q : ℚ) : WithTop ℚ)

/-- Scaled integers are compared as the fractions that they are. -/
theorem compareScaled_eq_cmp (a p b q : Int) :
  compareScaled a p b q = cmp ((a : ℚ) * 2 ^ p) (b * 2 ^ q)
  := by
  have hunits : ∀ (z : Int) {e : Int}, min p q ≤ e →
      (z : ℚ) * 2 ^ e = ((z * twoPow (e - min p q).toNat : Int) : ℚ) * 2 ^ min p q := by
    intro z e he
    have hpow : ((twoPow (e - min p q).toNat : Nat) : ℚ) * 2 ^ min p q = 2 ^ e := by
      change ((2 ^ (e - min p q).toNat : Nat) : ℚ) * _ = _
      rw [Nat.cast_pow, Nat.cast_ofNat, ← zpow_natCast, ← zpow_add₀ two_ne_zero,
        Int.toNat_of_nonneg (by omega), sub_add_cancel]
    rw [Int.cast_mul, Int.cast_natCast, mul_assoc, hpow]
  rw [compareScaled, align, hunits a (min_le_left p q), hunits b (min_le_right p q),
    cmp_mul_pos_right (zpow_pos two_pos _), Int.cast_strictMono.cmp_map_eq, cmp_eq_compare]

/-- Numbers are ordered as what they stand for. -/
theorem order_eq_cmp {x y : Binary64} (hx : x ≠ .nan) (hy : y ≠ .nan) :
  order x y = some (cmp x.value y.value)
  := by
  have hfraction : ∀ r : ℚ, ((r : WithTop ℚ) : WithBot (WithTop ℚ)) < ((⊤ : WithTop ℚ) : WithBot _) :=
    fun r => WithBot.coe_lt_coe.mpr (WithTop.coe_lt_top r)
  have hbot : ∀ r : ℚ, ⊥ < ((r : WithTop ℚ) : WithBot (WithTop ℚ)) :=
    fun r => WithBot.bot_lt_coe _
  cases x with
  | nan => exact absurd rfl hx
  | infinite s =>
      cases y with
      | nan => exact absurd rfl hy
      | infinite t => cases s <;> cases t <;> simp [order, value, cmp, cmpUsing]
      | finite t n q =>
          cases s with
          | false => exact congrArg some ((cmp_eq_gt_iff _ _).mpr (hfraction _)).symm
          | true => exact congrArg some ((cmp_eq_lt_iff _ _).mpr (hbot _)).symm
  | finite s m p =>
      cases y with
      | nan => exact absurd rfl hy
      | infinite t =>
          cases t with
          | false => exact congrArg some ((cmp_eq_lt_iff _ _).mpr (hfraction _)).symm
          | true => exact congrArg some ((cmp_eq_gt_iff _ _).mpr (hbot _)).symm
      | finite t n q =>
          rw [order, compareScaled_eq_cmp, value, value, WithBot.coe_strictMono.cmp_map_eq,
            WithTop.coe_strictMono.cmp_map_eq]

/-- One number comes before another if what it stands for is less. -/
theorem order_eq_lt {x y : Binary64} (hx : x ≠ .nan) (hy : y ≠ .nan) :
  order x y = some .lt ↔ x.value < y.value
  := by
  rw [order_eq_cmp hx hy, Option.some.injEq, cmp_eq_lt_iff]

/-! ### Rounding -/

/-- The value of an integer. -/
def ofInteger (z : Int) : WithBot (WithTop ℚ) := ((z : ℚ) : WithTop ℚ)

theorem ofInteger_le_ofInteger {a b : Int} :
  ofInteger a ≤ ofInteger b ↔ a ≤ b
  := by
  rw [ofInteger, ofInteger, WithBot.coe_le_coe, WithTop.coe_le_coe, Int.cast_le]

theorem value_zero (negative : Bool) :
  (zero negative).value = ofInteger 0
  := by
  cases negative <;> simp [zero, value, signedMantissa, ofInteger]

/-- A quotient is rounded to a number or to an infinity. -/
theorem ofRatio_ne_nan (negative : Bool) (num den : Nat) :
  ofRatio negative num den ≠ .nan
  := by
  unfold ofRatio
  split
  · nofun
  · extract_lets unit
    split
    extract_lets m
    split
    split <;> nofun

/-- The number nearest to a quotient in units in which it has at most 53 binary digits. -/
theorem ofRatio_eq_finite
    {num den : Nat} {q : Int} {units : Nat × Nat} (hnum : num ≠ 0)
    (hunit : unitExponent num den = q) (hunits : inUnits num den q = units)
    (hcarry : divRound units.1 units.2 ≠ twoPow 53) (hq : q ≤ maxExponent) (negative : Bool) :
  ofRatio negative num den = .finite negative (divRound units.1 units.2) q
  := by
  obtain ⟨a, b⟩ := units
  unfold ofRatio
  rw [if_neg hnum]
  extract_lets unit
  obtain rfl : unit = q := hunit
  rw [hunits]
  split
  case h_1 a' b' h =>
    obtain ⟨rfl, rfl⟩ := Prod.mk.inj h
    extract_lets m
    rw [if_neg hcarry]
    exact if_neg (not_lt.mpr hq)

theorem divRound_one (n : Nat) :
  divRound n 1 = n
  := by
  simp [divRound, Nat.mod_one]

theorem inUnits_neg (num den k : Nat) :
  inUnits num den (-(k : Int)) = (num * twoPow k, den)
  := by
  cases k with
  | zero => simp [inUnits, twoPow]
  | succ k => rfl

/-- In its unit a positive integer below `2 ^ 53` has just 53 binary digits. -/
theorem scaled_bounds {n : Nat} (hpos : n ≠ 0) (hlt : n < twoPow 53) :
  n.log2 ≤ 52 ∧ twoPow 52 ≤ n * twoPow (52 - n.log2) ∧ n * twoPow (52 - n.log2) < twoPow 53
  := by
  have hlog : n.log2 ≤ 52 := by
    have hlog := (Nat.log2_lt hpos).mpr hlt
    omega
  refine ⟨hlog, ?_, ?_⟩
  · calc twoPow 52 = 2 ^ n.log2 * twoPow (52 - n.log2) := by
          change 2 ^ 52 = 2 ^ n.log2 * 2 ^ (52 - n.log2)
          rw [← pow_add, Nat.add_sub_cancel' hlog]
      _ ≤ n * twoPow (52 - n.log2) := Nat.mul_le_mul_right _ (Nat.log2_self_le hpos)
  · calc n * twoPow (52 - n.log2) < 2 ^ (n.log2 + 1) * twoPow (52 - n.log2) :=
          Nat.mul_lt_mul_of_pos_right Nat.lt_log2_self (twoPow_pos _)
      _ = twoPow 53 := by
          change 2 ^ (n.log2 + 1) * 2 ^ (52 - n.log2) = 2 ^ 53
          rw [← pow_add]
          congr 1
          omega

/-- A positive integer below `2 ^ 53` is not rounded. -/
theorem ofRatio_one {n : Nat} (hpos : n ≠ 0) (hlt : n < twoPow 53) (negative : Bool) :
  ofRatio negative n 1
    = .finite negative (n * twoPow (52 - n.log2)) (-((52 - n.log2 : Nat) : Int))
  := by
  obtain ⟨hlog, hlow, hhigh⟩ := scaled_bounds hpos hlt
  have hunit : unitExponent n 1 = -((52 - n.log2 : Nat) : Int) := by
    have hone : Nat.log2 1 = 0 := by decide +kernel
    have hstart : max ((n.log2 : Int) - (Nat.log2 1 : Int) - 52) minExponent
        = -((52 - n.log2 : Nat) : Int) := by
      rw [minExponent, hone]
      omega
    rw [unitExponent, hstart, inUnits_neg]
    dsimp only
    rw [if_neg]
    rw [one_mul]
    apply not_lt.mpr hlow
  have hround := ofRatio_eq_finite hpos hunit (inUnits_neg n 1 _)
    (by rw [divRound_one]; exact hhigh.ne) (by rw [maxExponent]; omega) negative
  rwa [divRound_one] at hround

/-- A finite number with a sign has the value of the one without, with this sign. -/
theorem value_finite {m : Nat} {q : Int} {n : Nat} (h : (m : ℚ) * 2 ^ q = n) (negative : Bool) :
  (Binary64.finite negative m q).value = ofInteger (signedMantissa negative n)
  := by
  rw [value, ofInteger]
  congr 2
  cases negative with
  | false => exact h
  | true =>
      change ((-(m : Int) : Int) : ℚ) * _ = ((-(n : Int) : Int) : ℚ)
      rw [Int.cast_neg, Int.cast_natCast, neg_mul, h, Int.cast_neg, Int.cast_natCast]

/-- An integer of at most 53 binary digits, or the next one, is a number of double precision. -/
theorem value_ofRatio_one (negative : Bool) {n : Nat} (h : n ≤ twoPow 53) :
  (ofRatio negative n 1).value = ofInteger (signedMantissa negative n)
  := by
  obtain rfl | hpos := Nat.eq_zero_or_pos n
  · rw [ofRatio, if_pos rfl, value_zero]
    cases negative <;> rfl
  obtain hlt | rfl := Nat.lt_or_eq_of_le h
  · rw [ofRatio_one hpos.ne' hlt]
    apply value_finite
    change ((n * 2 ^ (52 - n.log2) : Nat) : ℚ) * _ = _
    rw [Nat.cast_mul, Nat.cast_pow, Nat.cast_ofNat, mul_assoc, zpow_neg, zpow_natCast,
      mul_inv_cancel₀ (by positivity), mul_one]
  · have hround : ofRatio negative (twoPow 53) 1 = .finite negative (twoPow 52) 1 := by
      cases negative <;> decide +kernel
    rw [hround]
    apply value_finite
    norm_num [twoPow]

end Binary64

/-! ### Decimals -/

/-- A decimal is read as a number or as an infinity. -/
theorem ofDecimal_ne_nan (negative : Bool) (n digits : Nat) (e : Int) :
  ofDecimal negative n digits e ≠ .nan
  := by
  unfold ofDecimal
  split
  · nofun
  · split
    · nofun
    · split
      · nofun
      · split
        · apply Binary64.ofRatio_ne_nan
        · apply Binary64.ofRatio_ne_nan

/-- An integer of at most 53 binary digits, or the next one, is read as itself. -/
theorem value_ofDecimal (negative : Bool) {n : Nat} (h : n ≤ 2 ^ 53) :
  (ofDecimal negative n (toString n).length 0).value
    = Binary64.ofInteger (Binary64.signedMantissa negative n)
  := by
  have hdigits : (toString n).length ≤ 16 := by
    apply Nat.repr_length n 16 (by decide)
    omega
  unfold ofDecimal
  split
  case isTrue hzero =>
    rw [hzero, Binary64.value_zero]
    cases negative <;> rfl
  case isFalse =>
    rw [if_neg (by omega), if_neg (by omega)]
    change (Binary64.ofRatio negative (n * 1) 1).value = _
    rw [mul_one]
    apply Binary64.value_ofRatio_one negative h

/-! ### Integers -/

/-- A text is an integer in base ten: digits with single underscores between them, after a sign
or none, with blanks around. -/
def Writes (text : String) (z : Int) : Prop :=
  ∃ negative body ds, splitSign (trimOf isSpacing text.toList) = (negative, body) ∧
    separatedDigits? false body = some ds ∧ z = Binary64.signedMantissa negative (ofDigits ds)

/-- What is read as an integer is written as one. -/
theorem writes_of_readInt {text : String} {z : Int} (h : readInt text = .ok z) :
  Writes text z
  := by
  rw [readInt] at h
  obtain ⟨negative, body, hbody⟩ : ∃ negative body,
      splitSign (trimOf isSpacing text.toList) = (negative, body) := ⟨_, _, rfl⟩
  rw [hbody] at h
  dsimp only at h
  split at h
  · cases h
  case h_2 ds hds =>
    split at h
    · cases h
    · split at h
      · cases h
      case isFalse hrest =>
        rw [Bool.not_eq_true', Bool.not_eq_false, List.isEmpty_iff] at hrest
        have hwhole : body.takeWhile isNumeralChar = body := by
          have happend := List.takeWhile_append_dropWhile (p := isNumeralChar) (l := body)
          rwa [hrest, List.append_nil] at happend
        rw [hwhole] at hds
        exact ⟨negative, body, ds, hbody, hds, (Except.ok.inj h).symm⟩

/-- A numeral without a sign starts with a digit. -/
theorem exists_digit {cs : List Char} {ds : List Nat} (h : separatedDigits? false cs = some ds) :
  ∃ c rest d others, cs = c :: rest ∧ decimalValue? c = some d ∧ ds = d :: others
  := by
  cases cs with
  | nil => cases h
  | cons c rest =>
      rw [separatedDigits?] at h
      split at h
      · cases h
      · split at h
        · cases h
        case h_2 d hd =>
          obtain ⟨others, -, rfl⟩ := Option.map_eq_some_iff.mp h
          exact ⟨c, rest, d, others, rfl, hd, rfl⟩

/-- Digits that make up a text are the digits at its start. -/
theorem spanDigits_of_separated {cs : List Char} {ds : List Nat} {inside : Bool}
    (h : separatedDigits? inside cs = some ds) :
  spanDigits inside cs = (ds, [])
  := by
  induction cs generalizing inside ds with
  | nil =>
      rw [separatedDigits?] at h
      split at h
      · cases h
        rfl
      · cases h
  | cons c rest ih =>
      rw [separatedDigits?] at h
      split at h
      case isTrue hunderscore =>
        subst hunderscore
        split at h
        case isTrue hinside =>
          obtain ⟨_, _, d, others, -, -, rfl⟩ := exists_digit h
          rw [spanDigits, if_pos hinside, ih h]
        case isFalse => cases h
      case isFalse hdigit =>
        split at h
        · cases h
        case h_2 d hd =>
          obtain ⟨others, hothers, rfl⟩ := Option.map_eq_some_iff.mp h
          rw [spanDigits, hd, ih hothers]
          rintro rfl
          exact hdigit rfl

/-- No digit is a letter, so that lowering leaves it. -/
theorem toLower_of_digit {c : Char} {d : Nat} (h : decimalValue? c = some d) :
  c.toLower = c
  := by
  apply dif_neg
  intro hupper
  have halpha : c.isAlpha = true := by
    change (c.isUpper || c.isLower) = true
    rw [show c.isUpper = true from decide_eq_true hupper, Bool.true_or]
  have hascii : isAscii c = true := by
    apply isAscii_of_isAlphanum
    rw [Char.isAlphanum, halpha, Bool.true_or]
  rw [decimalValue?, if_pos hascii, isDigit_of_isAlpha halpha] at h
  cases h

/-- Blanks, a sign and digits are read as a number, which is the integer that the digits write
if it is not beyond `2 ^ 53`. -/
theorem readFloat_of_writes {text : String} {z : Int} (h : Writes text z) :
  ∃ x, readFloat text = .ok x ∧ x ≠ .nan ∧
    (z.natAbs ≤ 2 ^ 53 → x.value = Binary64.ofInteger z)
  := by
  obtain ⟨negative, body, ds, hbody, hds, rfl⟩ := h
  obtain ⟨c, rest, d, others, rfl, hc, rfl⟩ := exists_digit hds
  -- a digit is none of the letters with which the words begin
  have hword : ∀ (letter : Char) (word : List Char), decimalValue? letter = none →
      (c :: rest).map Char.toLower ≠ letter :: word := by
    intro letter word hletter heq
    obtain ⟨rfl, -⟩ := List.cons.inj heq
    rw [toLower_of_digit hc, hc] at hletter
    cases hletter
  let n := ofDigits (d :: others)
  have hmagnitude : readMagnitude negative (c :: rest)
      = some (ofDecimal negative n (toString n).length 0) := by
    rw [readMagnitude, spanDigits_of_separated hds]
    simp [readExponent, n]
  refine ⟨ofDecimal negative n (toString n).length 0, ?_, ofDecimal_ne_nan negative _ _ 0, ?_⟩
  · rw [readFloat, hbody]
    dsimp only
    rw [if_neg, if_neg, hmagnitude]
    · exact hword 'n' _ (by decide)
    · rintro (hinf | hinf)
      · exact hword 'i' _ (by decide) hinf
      · exact hword 'i' _ (by decide) hinf
  · intro hbound
    apply value_ofDecimal
    cases negative with
    | false => exact hbound
    | true =>
        rw [Binary64.signedMantissa, if_pos rfl, Int.natAbs_neg] at hbound
        exact hbound

end AccessControl
