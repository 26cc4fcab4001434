import AccessControl.Text.Blank
import Mathlib.Data.List.DropRight
import Mathlib.Tactic

/-!
# Blanks, trimmed texts and lines

Which characters are blank, what trimming leaves alone, how a text is put together again from its
lines, `lines_flatMap`, and which parts a text has between its separators.
-/

namespace AccessControl

/-! ### Blanks -/

/-- The numbers of the blanks. -/
def blankCodes : List Nat :=
  List.range' 0x9 5 ++ List.range' 0x1c 5 ++ [0x85, 0xa0, 0x1680] ++ List.range' 0x2000 11
    ++ [0x2028, 0x2029, 0x202f, 0x205f, 0x3000]

theorem le_iff_toNat {c d : Char} : c ≤ d ↔ c.toNat ≤ d.toNat := Iff.rfl

theorem toNat_mem_blankCodes {c : Char} (h : isBlank c = true) :
  c.toNat ∈ blankCodes
  := by
  simp only [isBlank, Bool.or_eq_true, Bool.and_eq_true, decide_eq_true_eq, beq_iff_eq,
    le_iff_toNat, ← Char.toNat_inj, Char.reduceToNat] at h
  simp only [blankCodes, List.mem_append, List.mem_range'_1, List.mem_cons, List.not_mem_nil]
  omega

/-- A blank is no character of a class that no blank belongs to. -/
theorem eq_false_of_isBlank {p : Char → Bool} (hp : ∀ n ∈ blankCodes, p (Char.ofNat n) = false)
    {c : Char} (h : isBlank c = true) :
  p c = false
  := by
  rw [← Char.ofNat_toNat c]
  apply hp _ (toNat_mem_blankCodes h)

/-- What ends a line is blank. -/
theorem isBlank_of_isLineBreak {c : Char} (h : isLineBreak c = true) :
  isBlank c = true
  := by
  simp only [isLineBreak, isBlank, Bool.or_eq_true, Bool.and_eq_true, decide_eq_true_eq,
    beq_iff_eq, le_iff_toNat, ← Char.toNat_inj, Char.reduceToNat] at h ⊢
  omega

theorem isLineBreak_eq_false {c : Char} (h : isBlank c = false) :
  isLineBreak c = false
  := by
  by_contra hbreak
  rw [Bool.not_eq_false] at hbreak
  rw [isBlank_of_isLineBreak hbreak] at h
  cases h

/-! ### Trimming -/

section Trimming

variable {p : Char → Bool}

/-- Only what is left of the end of a text is trimmed. -/
theorem trimEnd_append (xs : List Char) {ys : List Char} (h : trimEnd p ys ≠ []) :
  trimEnd p (xs ++ ys) = xs ++ trimEnd p ys
  := by
  induction xs with
  | nil => rfl
  | cons x rest ih =>
      rw [List.cons_append, trimEnd, ih]
      cases hkept : rest ++ trimEnd p ys with
      | nil => exact absurd (List.append_eq_nil_iff.mp hkept).2 h
      | cons c kept => rw [List.cons_append, hkept]

/-- A character that is kept keeps what stands before it. -/
theorem trimEnd_append_cons (xs : List Char) {c : Char} (hc : p c = false) (ys : List Char) :
  trimEnd p (xs ++ c :: ys) = xs ++ c :: trimEnd p ys
  := by
  have hcons : trimEnd p (c :: ys) = c :: trimEnd p ys := by
    rw [trimEnd]
    cases trimEnd p ys with
    | nil => simp [hc]
    | cons d kept => rfl
  rw [trimEnd_append, hcons]
  rw [hcons]
  apply List.cons_ne_nil

/-- A text whose last character is kept is kept. -/
theorem trimEnd_eq_self {cs : List Char} (h : ∀ c ∈ cs.getLast?, p c = false) :
  trimEnd p cs = cs
  := by
  obtain rfl | ⟨xs, c, rfl⟩ := List.eq_nil_or_concat cs
  · rfl
  · have hc : p c = false := h c (by simp)
    rw [List.concat_eq_append, trimEnd_append_cons xs hc]
    rfl

theorem dropWhile_eq_self {cs : List Char} (h : ∀ c ∈ cs.head?, p c = false) :
  cs.dropWhile p = cs
  := by
  cases cs with
  | nil => rfl
  | cons c rest => rw [List.dropWhile_cons_of_neg (by rw [h c rfl]; simp)]

/-- A text that starts and ends with characters that are kept is kept. -/
theorem trimOf_eq_self {cs : List Char} (hfirst : ∀ c ∈ cs.head?, p c = false)
    (hlast : ∀ c ∈ cs.getLast?, p c = false) :
  trimOf p cs = cs
  := by
  rw [trimOf, dropWhile_eq_self hfirst, trimEnd_eq_self hlast]

theorem trimEnd_eq_rdropWhile (cs : List Char) :
  trimEnd p cs = cs.rdropWhile p
  := by
  induction cs using List.reverseRecOn with
  | nil => rfl
  | append_singleton cs c ih =>
      by_cases hc : p c = true
      · rw [List.rdropWhile_concat_pos _ _ _ hc, ← ih]
        clear ih
        induction cs with
        | nil => simp [trimEnd, hc]
        | cons d cs ih => rw [List.cons_append, trimEnd, ih, trimEnd]
      · rw [List.rdropWhile_concat_neg _ _ _ hc,
          trimEnd_append_cons cs (Bool.eq_false_of_not_eq_true hc)]
        rfl

/-- What is left of a text when blanks at its end are trimmed stands at its start. -/
theorem isPrefix_trimEnd (cs : List Char) :
  trimEnd p cs <+: cs
  := by
  rw [trimEnd_eq_rdropWhile]
  apply List.rdropWhile_prefix

theorem trimEnd_trimEnd (cs : List Char) :
  trimEnd p (trimEnd p cs) = trimEnd p cs
  := by
  rw [trimEnd_eq_rdropWhile, trimEnd_eq_rdropWhile]
  apply List.rdropWhile_idempotent

theorem trimOf_cons {c : Char} (hc : p c = true) (cs : List Char) :
  trimOf p (c :: cs) = trimOf p cs
  := by
  rw [trimOf, List.dropWhile_cons_of_pos hc, trimOf]

/-- What is trimmed anyway may be dropped from the start before. -/
theorem trimOf_dropWhile {q : Char → Bool} (h : ∀ c, q c = true → p c = true)
    (cs : List Char) :
  trimOf p (cs.dropWhile q) = trimOf p cs
  := by
  induction cs with
  | nil => rfl
  | cons c cs ih =>
      by_cases hc : q c = true
      · rw [List.dropWhile_cons_of_pos hc, ih, trimOf_cons (h c hc)]
      · rw [List.dropWhile_cons_of_neg hc]

/-- The end may be trimmed before. -/
theorem trimOf_trimEnd (cs : List Char) :
  trimOf p (trimEnd p cs) = trimOf p cs
  := by
  induction cs with
  | nil => rfl
  | cons c cs ih =>
      by_cases hc : p c = true
      · rw [trimOf_cons hc, ← ih, trimEnd]
        cases trimEnd p cs with
        | nil => rw [if_pos hc]
        | cons d kept => rw [trimOf_cons hc]
      · have hkept : trimEnd p (c :: cs) = c :: trimEnd p cs :=
          trimEnd_append_cons [] (Bool.eq_false_of_not_eq_true hc) cs
        rw [trimOf, trimOf, hkept, List.dropWhile_cons_of_neg hc, List.dropWhile_cons_of_neg hc,
          ← hkept, trimEnd_trimEnd]

end Trimming

/-! ### Blanks at the ends -/

/-- The characters are blanks, such as spaces and tabs. -/
def Blanks (cs : List Char) : Prop := ∀ c ∈ cs, isBlank c = true

instance (cs : List Char) : Decidable (Blanks cs) :=
  decidable_of_iff (cs.all isBlank = true) List.all_eq_true

theorem trim_blanks_append {indent : List Char} (h : Blanks indent) (cs : List Char) :
  trim (indent ++ cs) = trim cs
  := by
  induction indent with
  | nil => rfl
  | cons c rest ih =>
      obtain ⟨hc, hrest⟩ := List.forall_mem_cons.mp h
      rw [List.cons_append, trim, trimOf_cons hc]
      apply ih hrest

theorem trimEnd_append_blanks (cs : List Char) {after : List Char} (h : Blanks after) :
  trimEnd isBlank (cs ++ after) = trimEnd isBlank cs
  := by
  rw [trimEnd_eq_rdropWhile, trimEnd_eq_rdropWhile]
  induction after using List.reverseRecOn with
  | nil => rw [List.append_nil]
  | append_singleton rest c ih =>
      rw [← List.append_assoc, List.rdropWhile_concat_pos _ _ _ (h c (by simp))]
      apply ih
      intro d hd
      apply h d (List.mem_append_left _ hd)

theorem trimEnd_blanks {cs : List Char} (h : Blanks cs) :
  trimEnd isBlank cs = []
  := trimEnd_append_blanks [] h

theorem trim_append_blanks (cs : List Char) {after : List Char} (h : Blanks after) :
  trim (cs ++ after) = trim cs
  := by
  rw [trim, ← trimOf_trimEnd, trimEnd_append_blanks cs h, trimOf_trimEnd, trim]

/-- A text between blanks, which itself neither starts nor ends with one. -/
theorem trim_between {indent cs after : List Char} (hindent : Blanks indent)
    (hfirst : ∀ c ∈ cs.head?, isBlank c = false) (hlast : ∀ c ∈ cs.getLast?, isBlank c = false)
    (hafter : Blanks after) :
  trim (indent ++ cs ++ after) = cs
  := by
  rw [trim_append_blanks _ hafter, trim_blanks_append hindent, trim, trimOf_eq_self hfirst hlast]

/-- A text is what is left of it without the blanks at its ends, between these blanks. -/
theorem exists_blanks (cs : List Char) :
  ∃ indent after, Blanks indent ∧ Blanks after ∧ cs = indent ++ trim cs ++ after
  := by
  refine ⟨cs.takeWhile isBlank, (cs.dropWhile isBlank).rtakeWhile isBlank, ?_, ?_, ?_⟩
  · intro c hc
    apply List.mem_takeWhile_imp hc
  · intro c hc
    apply List.mem_rtakeWhile_imp hc
  · rw [trim, trimOf, trimEnd_eq_rdropWhile, List.append_assoc, List.rdropWhile_append_rtakeWhile,
      List.takeWhile_append_dropWhile]

/-- A trimmed text starts with no blank. -/
theorem isBlank_of_head?_trim (cs : List Char) {c : Char} (hc : c ∈ (trim cs).head?) :
  isBlank c = false
  := by
  obtain ⟨tail, htail⟩ := isPrefix_trimEnd (p := isBlank) (cs.dropWhile isBlank)
  have hfirst : (cs.dropWhile isBlank).head? = some c := by
    rw [← htail, List.head?_append, ← trimOf, ← trim, Option.mem_def.mp hc, Option.some_or]
  have hnot := List.head?_dropWhile_not isBlank cs
  rw [hfirst] at hnot
  apply hnot

/-- A trimmed text ends with no blank. -/
theorem isBlank_of_getLast?_trim (cs : List Char) {c : Char} (hc : c ∈ (trim cs).getLast?) :
  isBlank c = false
  := by
  rw [trim, trimOf, trimEnd_eq_rdropWhile, Option.mem_def, List.getLast?_eq_some_iff] at hc
  obtain ⟨front, hfront⟩ := hc
  have hnot := List.rdropWhile_last_not isBlank (cs.dropWhile isBlank) (by simp [hfront])
  simpa [hfront] using hnot

/-! ### Lines -/

/-- A line without line breaks is read up to its end. -/
theorem lines_append {line : List Char} (h : ∀ c ∈ line, isLineBreak c = false)
    (rest : List Char) :
  lines (line ++ '\n' :: rest) = line :: lines rest
  := by
  induction line with
  | nil =>
      rw [List.nil_append, lines.eq_def]
      rfl
  | cons c line ih =>
      obtain ⟨hc, hline⟩ := List.forall_mem_cons.mp h
      have hreturn : c ≠ '\r' := by
        rintro rfl
        cases hc
      rw [List.cons_append, lines.eq_3 _ _ (by rintro more rfl; exact absurd rfl hreturn),
        ih hline, if_neg (by rw [hc]; simp)]

/-- The lines of a text that is made of lines without line breaks are these lines. -/
theorem lines_flatMap {ls : List (List Char)}
    (h : ∀ line ∈ ls, ∀ c ∈ line, isLineBreak c = false) :
  lines (ls.flatMap fun line => line ++ ['\n']) = ls
  := by
  induction ls with
  | nil => rfl
  | cons line rest ih =>
      obtain ⟨hline, hrest⟩ := List.forall_mem_cons.mp h
      rw [List.flatMap_cons, List.append_assoc, List.singleton_append, lines_append hline, ih hrest]

/-! ### Separators -/

theorem splitAt_ne_nil (c : Char) (cs : List Char) :
  splitAt c cs ≠ []
  := by
  cases cs with
  | nil => simp [splitAt]
  | cons d rest =>
      rw [splitAt]
      split
      · simp
      · split <;> simp

/-- A text lists at least one field. -/
theorem splitAt_eq_self {sep : Char} {cs : List Char} (h : sep ∉ cs) :
  splitAt sep cs = [cs]
  := by
  induction cs with
  | nil => rfl
  | cons c rest ih =>
      rw [List.mem_cons, not_or] at h
      rw [splitAt, if_neg (Ne.symm h.1), ih h.2]

theorem splitAt_append {sep : Char} {cs : List Char} (h : sep ∉ cs) (rest : List Char) :
  splitAt sep (cs ++ sep :: rest) = cs :: splitAt sep rest
  := by
  induction cs with
  | nil => rw [List.nil_append, splitAt, if_pos rfl]
  | cons c more ih =>
      rw [List.mem_cons, not_or] at h
      rw [List.cons_append, splitAt, if_neg (Ne.symm h.1), ih h.2]

/-- A text has one part more than separators. -/
theorem length_splitAt (sep : Char) (cs : List Char) :
  (splitAt sep cs).length = cs.count sep + 1
  := by
  induction cs with
  | nil => rfl
  | cons c rest ih =>
      rw [splitAt]
      by_cases hc : c = sep
      · subst hc
        rw [if_pos rfl, List.length_cons, ih, List.count_cons_self]
      · rw [if_neg hc, List.count_cons_of_ne hc, ← ih]
        obtain ⟨part, parts, hparts⟩ := List.exists_cons_of_ne_nil (splitAt_ne_nil sep rest)
        rw [hparts]
        rfl

/-- The first part of a text is the whole of it or ends at a separator. -/
theorem splitAt_cases (sep : Char) (cs : List Char) :
  ∃ part, sep ∉ part ∧ (cs = part ∨ ∃ rest, cs = part ++ sep :: rest)
  := by
  by_cases hmem : sep ∈ cs
  · obtain ⟨part, rest, rfl, hpart⟩ := List.eq_append_cons_of_mem hmem
    exact ⟨part, hpart, .inr ⟨rest, rfl⟩⟩
  · exact ⟨cs, hmem, .inl rfl⟩

end AccessControl
