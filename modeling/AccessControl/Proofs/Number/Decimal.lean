import AccessControl.Proofs.Number.Value

/-!
# Decimal numerals

Digits of the decimal scripts write numbers: a run of them is read as an integer, unless it is too
long, and two runs with a point between them are read in double precision.
-/

namespace AccessControl

section Digits

variable {ds : List Char} (hds : ∀ d ∈ ds, isDecimal d = true)

include hds

theorem separatedDigits?_of_decimal {inside : Bool} (hsome : inside = true ∨ ds ≠ []) :
  ∃ ns, separatedDigits? inside ds = some ns ∧ ns.length = ds.length
  := by
  induction ds generalizing inside with
  | nil =>
      use []
      rw [separatedDigits?, if_pos (hsome.resolve_right (by simp))]
      exact ⟨rfl, rfl⟩
  | cons d ds ih =>
      obtain ⟨hd, hds⟩ := List.forall_mem_cons.mp hds
      obtain ⟨n, hn⟩ := Option.isSome_iff_exists.mp hd
      obtain ⟨ns, hns, hlength⟩ := ih hds (.inl rfl)
      have hunderscore : d ≠ '_' := by
        rintro rfl
        cases hd
      use n :: ns
      rw [separatedDigits?, if_neg hunderscore, hn]
      simp only [hns]
      exact ⟨rfl, congrArg Nat.succ hlength⟩

/-- The digits before a point end there. -/
theorem spanDigits_point (inside : Bool) (more : List Char) :
  ∃ ns, spanDigits inside (ds ++ '.' :: more) = (ns, '.' :: more) ∧ ns.length = ds.length
  := by
  induction ds generalizing inside with
  | nil =>
      use []
      exact ⟨rfl, rfl⟩
  | cons d ds ih =>
      obtain ⟨hd, hds⟩ := List.forall_mem_cons.mp hds
      obtain ⟨n, hn⟩ := Option.isSome_iff_exists.mp hd
      obtain ⟨ns, hns, hlength⟩ := ih hds true
      use n :: ns
      rw [List.cons_append, spanDigits, hn, hns]
      · exact ⟨rfl, congrArg Nat.succ hlength⟩
      · rintro rfl
        cases hd

/-- A text of digits has no sign, also when more follows the first of them. -/
theorem splitSign_of_decimal (hsome : ds ≠ []) (more : List Char) :
  splitSign (ds ++ more) = (false, ds ++ more)
  := by
  cases ds with
  | nil => exact absurd rfl hsome
  | cons d ds =>
      have hd := hds d List.mem_cons_self
      rw [List.cons_append]
      unfold splitSign
      split
      case h_1 heq =>
        obtain ⟨rfl, -⟩ := List.cons.inj heq
        cases hd
      case h_2 heq =>
        obtain ⟨rfl, -⟩ := List.cons.inj heq
        cases hd
      case h_3 => rfl

end Digits

theorem isDigit_of_isDecimal {c : Char} (h : isDecimal c = true) :
  isDigit c = true
  := by
  rw [isDigit]
  split
  case isTrue hascii =>
    rw [isDecimal, decimalValue?, if_pos hascii] at h
    split at h
    case isTrue hc => exact hc
    case isFalse => cases h
  case isFalse => rw [h, Bool.true_or]

theorem isSpacing_of_isDecimal {c : Char} (h : isDecimal c = true) :
  isSpacing c = false
  := by
  rw [isSpacing, isBlank_of_isDigit (isDigit_of_isDecimal h)]
  rfl

section Literals

variable {whole : List Char} (hwhole : ∀ d ∈ whole, isDecimal d = true) (hsome : whole ≠ [])

include hwhole hsome

/-- Decimal digits are read as an integer if there are not too many of them. -/
theorem readInt_of_decimal (hlength : whole.length ≤ maxDigits) :
  ∃ z, readInt (String.ofList whole) = .ok z
  := by
  obtain ⟨ns, hns, hcount⟩ := separatedDigits?_of_decimal hwhole (.inr hsome)
  have hnumeral : ∀ d ∈ whole, isNumeralChar d = true := by
    intro d hd
    rw [isNumeralChar, Bool.or_eq_true]
    exact .inr (hwhole d hd)
  have htrim : trimOf isSpacing whole = whole := by
    apply trimOf_eq_self
    · intro d hd
      apply isSpacing_of_isDecimal (hwhole d (List.mem_of_mem_head? hd))
    · intro d hd
      apply isSpacing_of_isDecimal (hwhole d (List.mem_of_mem_getLast? hd))
  have hsign := splitSign_of_decimal hwhole hsome []
  rw [List.append_nil] at hsign
  rw [readInt, String.toList_ofList, htrim, hsign]
  dsimp only
  rw [List.takeWhile_eq_self_iff.mpr hnumeral, List.dropWhile_eq_nil_iff.mpr hnumeral, hns]
  dsimp only
  rw [if_neg (by omega), if_neg (by simp)]
  exact ⟨_, rfl⟩

/-- Decimal digits on both sides of a point are read as a number, however many there are. -/
theorem readFloat_of_decimal
    {frac : List Char} (hfrac : ∀ d ∈ frac, isDecimal d = true) (hfracSome : frac ≠ []) :
  ∃ x, readFloat (String.ofList (whole ++ '.' :: frac)) = .ok x
  := by
  obtain ⟨ns, hns, hcount⟩ := spanDigits_point hwhole false frac
  obtain ⟨fs, hfs, -⟩ : ∃ fs, separatedDigits? false frac = some fs ∧
      fs.length = frac.length := separatedDigits?_of_decimal hfrac (.inr hfracSome)
  obtain ⟨d, rest, rfl⟩ := List.exists_cons_of_ne_nil hsome
  have hd := hwhole d List.mem_cons_self
  obtain ⟨n, hn⟩ := Option.isSome_iff_exists.mp hd
  have htrim : trimOf isSpacing (d :: rest ++ '.' :: frac) = d :: rest ++ '.' :: frac := by
    apply trimOf_eq_self
    · intro c hc
      cases hc
      apply isSpacing_of_isDecimal hd
    · intro c hc
      rw [List.getLast?_append_cons, List.getLast?_cons_of_ne_nil hfracSome] at hc
      apply isSpacing_of_isDecimal (hfrac c (List.mem_of_mem_getLast? hc))
  -- a digit is none of the letters with which the words begin
  have hword : ∀ (letter : Char) (word : List Char), decimalValue? letter = none →
      (d :: rest ++ '.' :: frac).map Char.toLower ≠ letter :: word := by
    intro letter word hletter heq
    obtain ⟨rfl, -⟩ := List.cons.inj heq
    rw [toLower_of_digit hn, hn] at hletter
    cases hletter
  have hmagnitude : ∃ x, readMagnitude false (d :: rest ++ '.' :: frac) = some x := by
    have hns' : ns ≠ [] := by
      rintro rfl
      cases hcount
    rw [readMagnitude, hns]
    simp [spanDigits_of_separated hfs, readExponent, hns']
  obtain ⟨x, hx⟩ := hmagnitude
  use x
  rw [readFloat, String.toList_ofList, htrim, splitSign_of_decimal hwhole hsome]
  dsimp only
  rw [if_neg, if_neg, hx]
  · exact hword 'n' _ (by decide)
  · rintro (hinf | hinf)
    · exact hword 'i' _ (by decide) hinf
    · exact hword 'i' _ (by decide) hinf

end Literals

end AccessControl
