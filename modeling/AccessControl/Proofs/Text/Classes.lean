import AccessControl.Expr.Token
import AccessControl.Text.Identifier
import AccessControl.Proofs.Text.Blank

/-!
# Classes of characters

No blank is a digit or a part of a word, no digit starts an identifier, and the characters of the
first 128 that identifiers are made of are the ones that words are made of.
-/

namespace AccessControl

/-! ### Tables that are apart -/

/-- The blanks beyond the first 128 characters. -/
def lateBlanks : Ranges :=
  [(0x85, 0x85), (0xa0, 0xa0), (0x1680, 0x1680), (0x2000, 0x200a), (0x2028, 0x2029),
    (0x202f, 0x202f), (0x205f, 0x205f), (0x3000, 0x3000)]

/-- The digits beyond the first 128 characters, decimal or not. -/
def lateDigits : Ranges :=
  [(0xb2, 0xb3), (0xb9, 0xb9), (0x660, 0x669), (0x6f0, 0x6f9), (0x7c0, 0x7c9), (0x966, 0x96f),
   (0x9e6, 0x9ef), (0xa66, 0xa6f), (0xae6, 0xaef), (0xb66, 0xb6f), (0xbe6, 0xbef),
   (0xc66, 0xc6f), (0xce6, 0xcef), (0xd66, 0xd6f), (0xde6, 0xdef), (0xe50, 0xe59),
   (0xed0, 0xed9), (0xf20, 0xf29), (0x1040, 0x1049), (0x1090, 0x1099), (0x1369, 0x1371),
   (0x17e0, 0x17e9), (0x1810, 0x1819), (0x1946, 0x194f), (0x19d0, 0x19da), (0x1a80, 0x1a89),
   (0x1a90, 0x1a99), (0x1b50, 0x1b59), (0x1bb0, 0x1bb9), (0x1c40, 0x1c49), (0x1c50, 0x1c59),
   (0x2070, 0x2070), (0x2074, 0x2079), (0x2080, 0x2089), (0x2460, 0x2468), (0x2474, 0x247c),
   (0x2488, 0x2490), (0x24ea, 0x24ea), (0x24f5, 0x24fd), (0x24ff, 0x24ff), (0x2776, 0x277e),
   (0x2780, 0x2788), (0x278a, 0x2792), (0xa620, 0xa629), (0xa8d0, 0xa8d9), (0xa900, 0xa909),
   (0xa9d0, 0xa9d9), (0xa9f0, 0xa9f9), (0xaa50, 0xaa59), (0xabf0, 0xabf9), (0xff10, 0xff19),
   (0x104a0, 0x104a9), (0x10a40, 0x10a43), (0x10d30, 0x10d39), (0x10e60, 0x10e68),
   (0x11052, 0x1105a), (0x11066, 0x1106f), (0x110f0, 0x110f9), (0x11136, 0x1113f),
   (0x111d0, 0x111d9), (0x112f0, 0x112f9), (0x11450, 0x11459), (0x114d0, 0x114d9),
   (0x11650, 0x11659), (0x116c0, 0x116c9), (0x11730, 0x11739), (0x118e0, 0x118e9),
   (0x11950, 0x11959), (0x11c50, 0x11c59), (0x11d50, 0x11d59), (0x11da0, 0x11da9),
   (0x16a60, 0x16a69), (0x16ac0, 0x16ac9), (0x16b50, 0x16b59), (0x1d7ce, 0x1d7ff),
   (0x1e140, 0x1e149), (0x1e2f0, 0x1e2f9), (0x1e950, 0x1e959), (0x1f100, 0x1f10a),
   (0x1fbf0, 0x1fbf9)]

/-- No number of the table lies between the bounds.  Matching on the bounds makes the kernel compute
each of them once. -/
def Ranges.apart (ranges : Ranges) : Nat → Nat → Bool
  | a + 1, b + 1 => ranges.all fun r => Nat.blt (b + 1) r.1 || Nat.blt r.2 (a + 1)
  | _, _ => false

theorem Ranges.not_between_of_apart {ranges : Ranges} {a b : Nat} (h : ranges.apart a b = true)
    {n : Nat} (hn : ranges.contains n = true) :
  ¬ (a ≤ n ∧ n ≤ b)
  := by
  match a, b, h with
  | a + 1, b + 1, h =>
      obtain ⟨⟨first, last⟩, hmem, hbounds⟩ := List.any_eq_true.mp hn
      have hout := List.all_eq_true.mp h _ hmem
      simp only [Bool.or_eq_true, Nat.blt_eq] at hout
      simp only [Bool.and_eq_true, decide_eq_true_eq] at hbounds
      omega

/-- Tables that are apart have no number in common. -/
theorem Ranges.contains_of_apart {ranges others : Ranges}
    (h : (ranges.all fun (a, b) => others.apart a b) = true) {n : Nat}
    (hn : others.contains n = true) :
  ranges.contains n = false
  := by
  rw [contains, List.any_eq_false]
  rintro ⟨a, b⟩ hmem hbounds
  simp only [Bool.and_eq_true, decide_eq_true_eq] at hbounds
  apply not_between_of_apart (List.all_eq_true.mp h _ hmem) hn hbounds

theorem contains_lateBlanks {n : Nat} (hn : n ∈ blankCodes) (hlate : ¬ n < 128) :
  lateBlanks.contains n = true
  := by
  have hblank : ∀ m ∈ blankCodes, m < 128 ∨ lateBlanks.contains m = true := by decide
  exact (hblank n hn).resolve_left hlate

/-- All intervals of a table pass a check when those of each of its lines do. -/
theorem Ranges.all_line {p : Nat × Nat → Bool} {cs : List Char} {lines : List String}
    (h : (read cs none 0).all p = true) (hlines : (ofLines lines).all p = true) :
  (ofLines (String.ofList cs :: lines)).all p = true
  := by
  rw [ofLines, List.flatMap_cons, String.toList_ofList, List.all_append, Bool.and_eq_true]
  exact ⟨h, hlines⟩

/-- The tables of letters, numerals and digits have no blanks. -/
theorem tables_apart_lateBlanks :
  (letterRanges.all fun (a, b) => lateBlanks.apart a b) = true
    ∧ (numeralRanges.all fun (a, b) => lateBlanks.apart a b) = true
    ∧ (otherDigitRanges.all fun (a, b) => lateBlanks.apart a b) = true
    ∧ (scriptZeros.all fun (first, _) => lateBlanks.apart first (first + 9)) = true
  := by
  refine ⟨?_, ?_, ?_, ?_⟩
  · unfold letterRanges
    repeat (apply Ranges.all_line; decide +kernel)
    rfl
  · unfold numeralRanges
    repeat (apply Ranges.all_line; decide +kernel)
    rfl
  · unfold otherDigitRanges
    repeat (apply Ranges.all_line; decide +kernel)
    rfl
  · unfold scriptZeros
    repeat (apply Ranges.all_line; decide +kernel)
    rfl

/-! ### Classes without blanks -/

section Blank

variable {c : Char}

/-- A blank among the first 128 characters is no letter and no digit. -/
theorem isAlphanum_of_isBlank (h : isBlank c = true) :
  c.isAlphanum = false
  := eq_false_of_isBlank (by decide) h

theorem isDigit_of_isAlphanum (h : c.isAlphanum = false) :
  c.isDigit = false
  := by
  rw [Char.isAlphanum, Bool.or_eq_false_iff] at h
  exact h.2

theorem isDecimal_of_isBlank (h : isBlank c = true) :
  isDecimal c = false
  := by
  rw [isDecimal, decimalValue?]
  split
  case isTrue =>
    rw [isDigit_of_isAlphanum (isAlphanum_of_isBlank h)]
    rfl
  case isFalse hlate =>
    rw [isAscii, decide_eq_true_eq] at hlate
    rw [Option.isSome_eq_false_iff, Option.isNone_iff_eq_none, List.findSome?_eq_none_iff]
    rintro ⟨first, _⟩ hmem
    have hout := Ranges.not_between_of_apart
      (List.all_eq_true.mp tables_apart_lateBlanks.2.2.2 _ hmem)
      (contains_lateBlanks (toNat_mem_blankCodes h) hlate)
    dsimp only at hout ⊢
    rw [if_neg (by omega)]

theorem isDigit_of_isBlank (h : isBlank c = true) :
  isDigit c = false
  := by
  rw [isDigit]
  split
  case isTrue => exact isDigit_of_isAlphanum (isAlphanum_of_isBlank h)
  case isFalse hlate =>
    rw [isAscii, decide_eq_true_eq] at hlate
    rw [isDecimal_of_isBlank h, Ranges.contains_of_apart tables_apart_lateBlanks.2.2.1
      (contains_lateBlanks (toNat_mem_blankCodes h) hlate)]
    rfl

theorem isWordPart_of_isBlank (h : isBlank c = true) :
  Token.isWordPart c = false
  := by
  have hunderscore : c ≠ '_' := by
    rintro rfl
    cases h
  rw [Token.isWordPart, isLetterOrNumeral]
  split
  case isTrue =>
    rw [isAlphanum_of_isBlank h]
    simpa using hunderscore
  case isFalse hlate =>
    rw [isAscii, decide_eq_true_eq] at hlate
    have hblank := contains_lateBlanks (toNat_mem_blankCodes h) hlate
    rw [Ranges.contains_of_apart tables_apart_lateBlanks.1 hblank,
      Ranges.contains_of_apart tables_apart_lateBlanks.2.1 hblank]
    simpa using hunderscore

/-- No digit is a blank. -/
theorem isBlank_of_isDigit (h : isDigit c = true) :
  isBlank c = false
  := by
  by_contra hblank
  rw [Bool.not_eq_false] at hblank
  rw [isDigit_of_isBlank hblank] at h
  cases h

end Blank

/-! ### The first 128 characters -/

section Ascii

variable {c : Char}

theorem toNat_of_isAlpha (h : c.isAlpha = true) :
  (65 ≤ c.toNat ∧ c.toNat ≤ 90) ∨ (97 ≤ c.toNat ∧ c.toNat ≤ 122)
  := by
  have hletter : (decide ('A'.val ≤ c.val ∧ c.val ≤ 'Z'.val)
      || (decide ('a'.val ≤ c.val) && decide (c.val ≤ 'z'.val))) = true := h
  simpa [UInt32.le_iff_toNat_le] using hletter

theorem isAscii_of_isAlphanum (h : c.isAlphanum = true) :
  isAscii c = true
  := by
  rw [isAscii, decide_eq_true_eq]
  rw [Char.isAlphanum, Bool.or_eq_true, Char.isDigit_iff_toNat] at h
  obtain halpha | hdigit := h
  · have := toNat_of_isAlpha halpha
    omega
  · simp at hdigit
    omega

theorem isDigit_of_isAlpha (h : c.isAlpha = true) :
  c.isDigit = false
  := by
  by_contra hdigit
  rw [Bool.not_eq_false, Char.isDigit_iff_toNat] at hdigit
  have := toNat_of_isAlpha h
  simp at hdigit
  omega

theorem isAscii_of_isDigit (h : c.isDigit = true) :
  isAscii c = true
  := by
  apply isAscii_of_isAlphanum
  rw [Char.isAlphanum, h, Bool.or_true]

/-- The digits of base ten are digits. -/
theorem isDigit_of_base (h : c.isDigit = true) :
  isDigit c = true
  := by
  rw [isDigit, if_pos (isAscii_of_isDigit h), h]

theorem decimalValue?_of_base (h : c.isDigit = true) :
  decimalValue? c = some (c.toNat - '0'.toNat)
  := by
  rw [decimalValue?, if_pos (isAscii_of_isDigit h), if_pos h]

theorem isWordStart_of_isIdentifierStart (hc : isAscii c = true)
    (h : isIdentifierStart c = true) :
  Token.isWordStart c = true
  := by
  rw [isIdentifierStart, if_pos hc] at h
  rw [Token.isWordStart, isLetter, if_pos hc, h]

theorem isWordPart_of_isIdentifierPart (hc : isAscii c = true)
    (h : isIdentifierPart c = true) :
  Token.isWordPart c = true
  := by
  rw [isIdentifierPart, if_pos hc] at h
  rw [Token.isWordPart, isLetterOrNumeral, if_pos hc, h]

end Ascii

/-! ### Digits -/

/-- The tables of the starts of identifiers have no digits. -/
theorem starts_apart_lateDigits :
  (letterRanges.all fun (a, b) => lateDigits.apart a b) = true
    ∧ (startRanges.all fun (a, b) => lateDigits.apart a b) = true
  := by
  refine ⟨?_, ?_⟩
  · unfold letterRanges
    repeat (apply Ranges.all_line; decide +kernel)
    rfl
  · unfold startRanges
    repeat (apply Ranges.all_line; decide +kernel)
    rfl

/-- Some interval of the table covers the numbers between the bounds. -/
def Ranges.covers (ranges : Ranges) : Nat → Nat → Bool
  | a + 1, b + 1 => ranges.any fun r => Nat.ble r.1 (a + 1) && Nat.ble (b + 1) r.2
  | _, _ => false

theorem Ranges.contains_of_covers {ranges : Ranges} {a b : Nat} (h : ranges.covers a b = true)
    {n : Nat} (hfirst : a ≤ n) (hlast : n ≤ b) :
  ranges.contains n = true
  := by
  match a, b, h with
  | a + 1, b + 1, h =>
      obtain ⟨r, hmem, hbounds⟩ := List.any_eq_true.mp h
      rw [Bool.and_eq_true, Nat.ble_eq, Nat.ble_eq] at hbounds
      apply List.any_eq_true.mpr
      use r, hmem
      rw [Bool.and_eq_true, decide_eq_true_eq, decide_eq_true_eq]
      omega

/-- The tables of digits have late digits only. -/
theorem digits_covered :
  (scriptZeros.all fun (first, _) => lateDigits.covers first (first + 9)) = true
    ∧ (otherDigitRanges.all fun (a, b) => lateDigits.covers a b) = true
  := by
  refine ⟨?_, ?_⟩
  · unfold scriptZeros
    repeat (apply Ranges.all_line; decide +kernel)
    rfl
  · unfold otherDigitRanges
    repeat (apply Ranges.all_line; decide +kernel)
    rfl

theorem contains_lateDigits {c : Char} (h : isDigit c = true) (hlate : ¬ isAscii c = true) :
  lateDigits.contains c.toNat = true
  := by
  rw [isDigit, if_neg hlate, Bool.or_eq_true] at h
  obtain hdecimal | hother := h
  · rw [isDecimal, decimalValue?, if_neg hlate, List.findSome?_isSome_iff] at hdecimal
    obtain ⟨⟨first, last⟩, hmem, hc⟩ := hdecimal
    have hcovers := List.all_eq_true.mp digits_covered.1 _ hmem
    dsimp only at hcovers hc
    split at hc
    · apply Ranges.contains_of_covers hcovers
      · omega
      · omega
    · cases hc
  · obtain ⟨⟨a, b⟩, hmem, hc⟩ := List.any_eq_true.mp hother
    rw [Bool.and_eq_true, decide_eq_true_eq, decide_eq_true_eq] at hc
    exact Ranges.contains_of_covers (List.all_eq_true.mp digits_covered.2 _ hmem) hc.1 hc.2

/-- No digit starts an identifier. -/
theorem isIdentifierStart_of_isDigit {c : Char} (h : isDigit c = true) :
  isIdentifierStart c = false
  := by
  by_cases hc : isAscii c = true
  · rw [isDigit, if_pos hc] at h
    rw [isIdentifierStart, if_pos hc, Bool.or_eq_false_iff]
    constructor
    · by_contra halpha
      rw [isDigit_of_isAlpha (Bool.eq_true_of_not_eq_false halpha)] at h
      cases h
    · by_contra hunderscore
      rw [Bool.not_eq_false, beq_iff_eq] at hunderscore
      subst hunderscore
      cases h
  · have hlate := contains_lateDigits h hc
    rw [isIdentifierStart, if_neg hc,
      Ranges.contains_of_apart starts_apart_lateDigits.1 hlate,
      Ranges.contains_of_apart starts_apart_lateDigits.2 hlate]
    rfl

end AccessControl
