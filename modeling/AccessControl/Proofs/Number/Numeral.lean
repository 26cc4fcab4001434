import AccessControl.Number.Numeral
import AccessControl.Proofs.Text.Classes
import Mathlib.Data.List.TakeWhile

/-!
# Numerals read back

A natural number that is written in base ten is read back, `readInt_toString`.
-/

namespace AccessControl

/-- A character of the digits of a number is a digit of base ten. -/
theorem isDigit_of_mem_toString {n : Nat} {c : Char} (h : c ∈ (toString n).toList) :
  c.isDigit = true
  := by
  rw [Nat.toString_eq_repr, Nat.toList_repr] at h
  apply Nat.isDigit_of_mem_toDigits (by decide) (by decide) h

theorem toString_ne_nil (n : Nat) :
  (toString n).toList ≠ []
  := by
  rw [Nat.toString_eq_repr, Nat.toList_repr]
  apply Nat.toDigits_ne_nil

/-- The values of digits of base ten. -/
def digitValues (ds : List Char) : List Nat := ds.map fun d => d.toNat - '0'.toNat

/-- The number that the digits of a number write is the number. -/
theorem ofDigits_toString (n : Nat) :
  ofDigits (digitValues (toString n).toList) = n
  := by
  rw [ofDigits, digitValues, List.foldl_map, Nat.toString_eq_repr, Nat.toList_repr]
  exact Nat.ofDigitChars_toDigits (by decide) (by decide)

theorem separatedDigits?_of_base {ds : List Char} (h : ∀ d ∈ ds, d.isDigit = true) {inside : Bool}
    (hsome : inside = true ∨ ds ≠ []) :
  separatedDigits? inside ds = some (digitValues ds)
  := by
  induction ds generalizing inside with
  | nil =>
      rw [separatedDigits?, if_pos (hsome.resolve_right (by simp))]
      rfl
  | cons d ds ih =>
      obtain ⟨hd, hds⟩ := List.forall_mem_cons.mp h
      have hunderscore : d ≠ '_' := by
        rintro rfl
        cases hd
      rw [separatedDigits?, if_neg hunderscore, decimalValue?_of_base hd]
      simp only [ih hds (.inl rfl)]
      rfl

theorem isNumeralChar_of_base {d : Char} (h : d.isDigit = true) :
  isNumeralChar d = true
  := by
  rw [isNumeralChar, decimalValue?_of_base h]
  simp

theorem isSpacing_of_base {d : Char} (h : d.isDigit = true) :
  isSpacing d = false
  := by
  rw [isSpacing, isBlank_of_isDigit (isDigit_of_base h)]
  rfl

/-- A text of digits has no sign. -/
theorem splitSign_of_base {ds : List Char} (h : ∀ d ∈ ds, d.isDigit = true) :
  splitSign ds = (false, ds)
  := by
  unfold splitSign
  split
  · cases h '+' (by simp)
  · cases h '-' (by simp)
  · rfl

/-- A natural number of at most 4300 digits is read back from its digits. -/
theorem readInt_toString {n : Nat} (h : (toString n).length ≤ maxDigits) :
  readInt (toString n) = .ok (n : Int)
  := by
  have hdigits : ∀ d ∈ (toString n).toList, d.isDigit = true :=
    fun d hd => isDigit_of_mem_toString hd
  have hnumeral : ∀ d ∈ (toString n).toList, isNumeralChar d = true :=
    fun d hd => isNumeralChar_of_base (hdigits d hd)
  have htrim : trimOf isSpacing (toString n).toList = (toString n).toList := by
    apply trimOf_eq_self
    · intro d hd
      apply isSpacing_of_base (hdigits d (List.mem_of_mem_head? hd))
    · intro d hd
      apply isSpacing_of_base (hdigits d (List.mem_of_mem_getLast? hd))
  have hlength : ¬ maxDigits < (digitValues (toString n).toList).length := by
    rw [digitValues, List.length_map, String.length_toList]
    omega
  rw [readInt, htrim, splitSign_of_base hdigits]
  dsimp only
  rw [List.takeWhile_eq_self_iff.mpr hnumeral, List.dropWhile_eq_nil_iff.mpr hnumeral,
    separatedDigits?_of_base hdigits (.inr (toString_ne_nil n))]
  dsimp only
  rw [if_neg hlength, ofDigits_toString]
  rfl

end AccessControl
