import AccessControl.Effect.Strategy
import AccessControl.Failure.Report
import AccessControl.Proofs.Text.Blank

/-!
# Spacing of the texts of strategies

Which texts name a strategy.  Apart from blanks such a text has the characters of the text of the
strategy, and blanks stand nowhere in it but at its ends and beside signs, `Strategy.ofText_spelled`.
-/

namespace AccessControl

/-- The characters of a text that are no blanks. -/
def solid (cs : List Char) : List Char := cs.filter fun c => !isBlank c

theorem solid_append (xs ys : List Char) :
  solid (xs ++ ys) = solid xs ++ solid ys
  := List.filter_append xs ys

theorem solid_cons {c : Char} (hc : isBlank c = false) (cs : List Char) :
  solid (c :: cs) = c :: solid cs
  := List.filter_cons_of_pos (by rw [hc]; rfl)

theorem solid_blanks {gap : List Char} (h : Blanks gap) :
  solid gap = []
  := by
  rw [solid, List.filter_eq_nil_iff]
  intro c hc
  rw [h c hc]
  simp

theorem solid_eq_self {cs : List Char} (h : ∀ c ∈ cs, isBlank c = false) :
  solid cs = cs
  := by
  rw [solid, List.filter_eq_self]
  intro c hc
  rw [h c hc]
  rfl

theorem isBlank_of_mem_solid {cs : List Char} {c : Char} (h : c ∈ solid cs) :
  isBlank c = false
  := by
  simpa using (List.mem_filter.mp h).2

theorem solid_trim (cs : List Char) :
  solid (trim cs) = solid cs
  := by
  obtain ⟨indent, after, hindent, hafter, hcs⟩ := exists_blanks cs
  nth_rewrite 2 [hcs]
  rw [solid_append, solid_append, solid_blanks hindent, solid_blanks hafter, List.nil_append,
    List.append_nil]

/-! ### Texts with gaps -/

/-- A text that begins with no blank, read from one character that is no blank to the next. -/
inductive Gapped : List Char → Prop
  | last {c : Char} {gap : List Char} (hc : isBlank c = false) (hgap : Blanks gap) :
      Gapped (c :: gap)
  | next {c d : Char} {gap rest : List Char} (hc : isBlank c = false) (hgap : Blanks gap)
      (hd : isBlank d = false) (h : Gapped (d :: rest)) : Gapped (c :: (gap ++ d :: rest))

theorem gapped_cons {c : Char} (hc : isBlank c = false) (rest : List Char) :
  Gapped (c :: rest)
  := by
  induction rest generalizing c with
  | nil => exact .last hc (List.forall_mem_nil _)
  | cons e more ih =>
      cases he : isBlank e with
      | false =>
          have hempty : Blanks [] := List.forall_mem_nil _
          apply Gapped.next hc hempty he (ih he)
      | true =>
          cases ih hc with
          | last _ hgap => exact .last hc (List.forall_mem_cons.mpr ⟨he, hgap⟩)
          | @next _ d gap rest _ hgap hd h =>
              have hgap' : Blanks (e :: gap) := List.forall_mem_cons.mpr ⟨he, hgap⟩
              apply Gapped.next hc hgap' hd h

/-- A trimmed text is empty or begins with no blank. -/
theorem trim_cases (cs : List Char) :
  trim cs = [] ∨ Gapped (trim cs)
  := by
  cases htrim : trim cs with
  | nil => exact .inl rfl
  | cons c rest =>
      right
      apply gapped_cons
      apply isBlank_of_head?_trim cs
      rw [htrim]
      rfl

/-! ### Words -/

theorem wordsFrom_blanks_append {gap : List Char} (h : Blanks gap) (cs : List Char) :
  wordsFrom [] (gap ++ cs) = wordsFrom [] cs
  := by
  induction gap with
  | nil => rfl
  | cons b gap ih =>
      obtain ⟨hb, hgap⟩ := List.forall_mem_cons.mp h
      rw [List.cons_append, wordsFrom, if_pos hb, List.isEmpty_nil, if_pos rfl, ih hgap]

theorem wordsFrom_append_blanks (word cs : List Char) {gap : List Char} (h : Blanks gap) :
  wordsFrom word (cs ++ gap) = wordsFrom word cs
  := by
  induction cs generalizing word with
  | nil =>
      cases gap with
      | nil => rfl
      | cons b gap =>
          obtain ⟨hb, hgap⟩ := List.forall_mem_cons.mp h
          have hrest : wordsFrom [] gap = [] := by
            rw [← List.append_nil gap, wordsFrom_blanks_append hgap]
            rfl
          rw [List.nil_append, wordsFrom.eq_2, if_pos hb, hrest, wordsFrom.eq_1]
  | cons c cs ih => rw [List.cons_append, wordsFrom, wordsFrom, ih, ih]

/-- The word that goes on with a character that is no blank. -/
theorem exists_wordsFrom {d : Char} (hd : isBlank d = false) (rest : List Char) :
  ∃ behind others, ∀ word, wordsFrom word (d :: rest) = (word.reverse ++ d :: behind) :: others
  := by
  induction rest generalizing d with
  | nil =>
      use [], []
      intro word
      simp [wordsFrom, hd]
  | cons e more ih =>
      cases he : isBlank e with
      | true =>
          use [], wordsFrom [] more
          intro word
          simp [wordsFrom, hd, he]
      | false =>
          obtain ⟨behind, others, hwords⟩ := ih he
          use e :: behind, others
          intro word
          rw [wordsFrom, hd, if_neg Bool.false_ne_true, hwords]
          simp

theorem foldBlanks_trim (cs : List Char) :
  foldBlanks (trim cs) = foldBlanks cs
  := by
  obtain ⟨indent, after, hindent, hafter, hcs⟩ := exists_blanks cs
  nth_rewrite 2 [hcs]
  rw [foldBlanks, foldBlanks, words, words, wordsFrom_append_blanks _ _ hafter,
    wordsFrom_blanks_append hindent]

section Folding

variable {c d : Char} {gap : List Char}

theorem foldBlanks_last (hc : isBlank c = false) (hgap : Blanks gap) :
  foldBlanks (c :: gap) = [c]
  := by
  have hword : words (c :: gap) = [[c]] := by
    rw [words, wordsFrom, hc, if_neg Bool.false_ne_true, ← List.nil_append gap,
      wordsFrom_append_blanks _ _ hgap]
    rfl
  rw [foldBlanks, hword]
  rfl

theorem exists_foldBlanks (hd : isBlank d = false) (rest : List Char) :
  ∃ behind, foldBlanks (d :: rest) = d :: behind
  := by
  obtain ⟨behind, others, hwords⟩ := exists_wordsFrom hd rest
  rw [foldBlanks, words, hwords]
  cases others with
  | nil => exact ⟨behind, by simp⟩
  | cons other others => exact ⟨behind ++ ' ' :: [' '].intercalate (other :: others), by simp⟩

/-- Blanks between two characters become one. -/
theorem foldBlanks_next (hc : isBlank c = false) (hgap : Blanks gap) (hd : isBlank d = false)
    (rest : List Char) :
  foldBlanks (c :: (gap ++ d :: rest))
    = if gap = [] then c :: foldBlanks (d :: rest) else c :: ' ' :: foldBlanks (d :: rest)
  := by
  obtain ⟨behind, others, hwords⟩ := exists_wordsFrom hd rest
  rw [foldBlanks, foldBlanks, words, words, wordsFrom, hc, if_neg Bool.false_ne_true, hwords]
  cases gap with
  | nil =>
      rw [if_pos rfl, List.nil_append, hwords]
      cases others <;> simp
  | cons b gap =>
      obtain ⟨hb, hgap⟩ := List.forall_mem_cons.mp hgap
      rw [if_neg (List.cons_ne_nil b gap), List.cons_append, wordsFrom, if_pos hb,
        wordsFrom_blanks_append hgap, hwords]
      simp

end Folding

theorem solid_foldBlanks {cs : List Char} (h : Gapped cs) :
  solid (foldBlanks cs) = solid cs
  := by
  induction h with
  | last hc hgap => rw [foldBlanks_last hc hgap, solid_cons hc, solid_cons hc, solid_blanks hgap]; rfl
  | @next c d gap rest hc hgap hd h ih =>
      have hspace : solid (' ' :: foldBlanks (d :: rest)) = solid (foldBlanks (d :: rest)) :=
        List.filter_cons_of_neg (by decide)
      rw [foldBlanks_next hc hgap hd, solid_cons hc (gap ++ _), solid_append, solid_blanks hgap,
        List.nil_append, ← ih]
      split
      · rw [solid_cons hc]
      · rw [solid_cons hc, hspace]

namespace Strategy

/-! ### Gaps beside signs -/

/-- Every run of blanks between other characters stands beside a sign. -/
def GapsTouch (cs : List Char) : Prop :=
  ∀ before c gap d after, cs = before ++ c :: (gap ++ d :: after) → gap ≠ [] → Blanks gap →
    isBlank c = false → isBlank d = false → isSign c = true ∨ isSign d = true

/-- The text spells a strategy: it has the characters of its text, and blanks stand nowhere in it
but at its ends and beside signs. -/
@[mk_iff]
structure Spells (strategy : Strategy) (cs : List Char) : Prop where
  characters : solid cs = solid strategy.text.toList
  gaps : GapsTouch (trim cs)

section Gaps

variable {c d : Char} {gap rest : List Char}

/-- Blanks before a character that is none are found in one way. -/
theorem eq_of_gaps {gap' rest' : List Char} {d' : Char} (hgap : Blanks gap) (hgap' : Blanks gap')
    (hd : isBlank d = false) (hd' : isBlank d' = false)
    (h : gap ++ d :: rest = gap' ++ d' :: rest') :
  gap = gap' ∧ d = d'
  := by
  induction gap generalizing gap' with
  | nil =>
      cases gap' with
      | nil =>
          obtain ⟨rfl, -⟩ := List.cons_eq_cons.mp h
          use rfl
      | cons b gap' =>
          obtain ⟨rfl, -⟩ := List.cons_eq_cons.mp h
          rw [(List.forall_mem_cons.mp hgap').1] at hd
          cases hd
  | cons b gap ih =>
      obtain ⟨hb, hgap⟩ := List.forall_mem_cons.mp hgap
      cases gap' with
      | nil =>
          obtain ⟨rfl, -⟩ := List.cons_eq_cons.mp h
          rw [hb] at hd'
          cases hd'
      | cons b' gap' =>
          obtain ⟨rfl, hrest⟩ := List.cons_eq_cons.mp h
          obtain ⟨rfl, rfl⟩ := ih hgap (List.forall_mem_cons.mp hgap').2 hrest
          use rfl

theorem gapsTouch_last (hgap : Blanks gap) :
  GapsTouch (c :: gap)
  := by
  intro before c' gap' d after hcs _ _ _ hd
  have hmem : d ∈ gap := by
    cases before with
    | nil =>
        obtain ⟨-, rfl⟩ := List.cons_eq_cons.mp hcs
        simp
    | cons e before =>
        obtain ⟨-, rfl⟩ := List.cons_eq_cons.mp hcs
        simp
  rw [hgap d hmem] at hd
  cases hd

/-- The gaps of a text are the first one and those behind it. -/
theorem gapsTouch_next (hc : isBlank c = false) (hgap : Blanks gap) (hd : isBlank d = false) :
  GapsTouch (c :: (gap ++ d :: rest))
    ↔ (gap = [] ∨ isSign c = true ∨ isSign d = true) ∧ GapsTouch (d :: rest)
  := by
  constructor
  · intro h
    constructor
    · by_cases hne : gap = []
      · exact .inl hne
      · exact .inr (h [] c gap d rest rfl hne hgap hc hd)
    · intro before c' gap' d' after hrest
      apply h (c :: (gap ++ before)) c' gap' d' after
      rw [hrest]
      simp
  · rintro ⟨hfirst, hrest⟩ before c' gap' d' after hcs hne hgap' hc' hd'
    cases before with
    | nil =>
        obtain ⟨rfl, hbehind⟩ := List.cons_eq_cons.mp hcs
        obtain ⟨rfl, rfl⟩ := eq_of_gaps hgap hgap' hd hd' hbehind
        exact hfirst.resolve_left hne
    | cons e before =>
        obtain ⟨rfl, hbehind⟩ := List.cons_eq_cons.mp hcs
        obtain ⟨more, rfl, hmore⟩ | ⟨more, rfl, hmore⟩ := List.append_eq_append_iff.mp hbehind
        · exact hrest more c' gap' d' after hmore hne hgap' hc' hd'
        · cases more with
          | nil => exact hrest [] c' gap' d' after hmore.symm hne hgap' hc' hd'
          | cons b more =>
              -- the character before the gap would be a blank
              obtain ⟨rfl, -⟩ := List.cons_eq_cons.mp hmore
              rw [hgap c' (by simp)] at hc'
              cases hc'

end Gaps

/-! ### Canonical spacing -/

theorem tighten_cons {c : Char} (hc : isBlank c = false) (afterSign : Bool) (cs : List Char) :
  tighten afterSign (c :: cs) = c :: tighten (isSign c) cs
  := by
  have hspace : c ≠ ' ' := by
    rintro rfl
    cases hc
  rw [tighten, if_neg]
  simp [hspace]

theorem tighten_space (afterSign : Bool) (d : Char) (cs : List Char) :
  tighten afterSign (' ' :: d :: cs)
    = if afterSign || isSign d then tighten afterSign (d :: cs)
      else ' ' :: tighten (isSign ' ') (d :: cs)
  := by
  rw [tighten]
  simp

theorem solid_tighten (afterSign : Bool) (cs : List Char) :
  solid (tighten afterSign cs) = solid cs
  := by
  induction cs generalizing afterSign with
  | nil => rfl
  | cons c cs ih =>
      rw [tighten]
      split
      case isTrue hspace =>
        obtain rfl : c = ' ' := by
          rw [Bool.and_eq_true, decide_eq_true_eq] at hspace
          apply hspace.1
        rw [ih]
        rfl
      case isFalse => rw [solid, List.filter_cons, ← solid, ih, solid, solid, List.filter_cons]

/-- No blank is left where all of them stand beside signs. -/
theorem tighten_solid_iff {cs : List Char} (h : Gapped cs) (afterSign : Bool) :
  (∀ c ∈ tighten afterSign (foldBlanks cs), isBlank c = false) ↔ GapsTouch cs
  := by
  induction h generalizing afterSign with
  | last hc hgap =>
      rw [foldBlanks_last hc hgap, tighten_cons hc]
      constructor
      · intro _
        apply gapsTouch_last hgap
      · intro _ c hmem
        rw [List.mem_singleton.mp hmem, hc]
  | @next c d gap rest hc hgap hd h ih =>
      obtain ⟨behind, hbehind⟩ := exists_foldBlanks hd rest
      rw [gapsTouch_next hc hgap hd, foldBlanks_next hc hgap hd]
      by_cases hne : gap = []
      · rw [if_pos hne, tighten_cons hc, List.forall_mem_cons, ih]
        simp [hc, hne]
      · rw [if_neg hne, tighten_cons hc, List.forall_mem_cons, hbehind, tighten_space, ← hbehind]
        cases hsign : isSign c || isSign d with
        | true =>
            rw [if_pos rfl, ih]
            simpa [hc, hne] using fun _ => hsign
        | false =>
            obtain ⟨hc', hd'⟩ := Bool.or_eq_false_iff.mp hsign
            rw [if_neg Bool.false_ne_true]
            constructor
            · rintro ⟨-, hall⟩
              cases hall ' ' List.mem_cons_self
            · rintro ⟨hfirst, -⟩
              simp [hne, hc', hd'] at hfirst

theorem solid_canonical (cs : List Char) :
  solid (canonical cs) = solid cs
  := by
  rw [canonical, solid_tighten, ← foldBlanks_trim, ← solid_trim cs]
  obtain hnil | h := trim_cases cs
  · rw [hnil]
    rfl
  · apply solid_foldBlanks h

theorem canonical_solid_iff (cs : List Char) :
  (∀ c ∈ canonical cs, isBlank c = false) ↔ GapsTouch (trim cs)
  := by
  rw [canonical, ← foldBlanks_trim]
  obtain hnil | h := trim_cases cs
  · rw [hnil]
    simp [GapsTouch, foldBlanks, words, wordsFrom, tighten]
  · apply tighten_solid_iff h

/-- A text without blanks is the canonical form of the texts that have its characters and blanks
nowhere but at their ends and beside signs. -/
theorem canonical_eq_iff {cs t : List Char} (ht : ∀ c ∈ t, isBlank c = false) :
  canonical cs = t ↔ solid cs = t ∧ GapsTouch (trim cs)
  := by
  rw [← canonical_solid_iff, ← solid_canonical cs]
  constructor
  · rintro rfl
    exact ⟨solid_eq_self ht, ht⟩
  · rintro ⟨hsolid, hall⟩
    rw [← hsolid, solid_eq_self hall]

/-! ### Texts of strategies -/

/-- The canonical form of the text of a strategy has no blanks. -/
theorem canonical_text (strategy : Strategy) :
  canonical strategy.text.toList = solid strategy.text.toList
  := by
  cases strategy <;> decide

theorem canonical_eq_text_iff (strategy : Strategy) (cs : List Char) :
  canonical strategy.text.toList = canonical cs ↔ strategy.Spells cs
  := by
  rw [canonical_text, eq_comm, canonical_eq_iff fun c => isBlank_of_mem_solid, spells_iff]

theorem solid_text_injective {strategy other : Strategy}
    (h : solid strategy.text.toList = solid other.text.toList) :
  strategy = other
  := by
  revert h
  cases strategy <;> cases other <;> decide

/-- A text spells one strategy at most. -/
theorem Spells.unique {strategy other : Strategy} {cs : List Char} (h : strategy.Spells cs)
    (hother : other.Spells cs) :
  strategy = other
  := by
  apply solid_text_injective
  rw [← h.characters, hother.characters]

theorem mem_all (strategy : Strategy) :
  strategy ∈ all
  := by
  cases strategy <;> decide

theorem ofText?_eq_some_iff (s : String) (strategy : Strategy) :
  ofText? s = some strategy ↔ strategy.Spells s.toList
  := by
  constructor
  · intro h
    have hfound := List.find?_some h
    rw [beq_iff_eq] at hfound
    apply (canonical_eq_text_iff strategy s.toList).mp hfound
  · intro h
    have hsome : (ofText? s).isSome := by
      rw [ofText?, List.find?_isSome]
      use strategy, mem_all strategy
      rw [beq_iff_eq, canonical_eq_text_iff]
      apply h
    obtain ⟨other, hother⟩ := Option.isSome_iff_exists.mp hsome
    have hspells := List.find?_some hother
    rw [beq_iff_eq, canonical_eq_text_iff] at hspells
    rw [hother, hspells.unique h]

/-- **A text names the strategy that it spells.**  It has the characters of the text of the
strategy, and each run of blanks inside it stands beside a sign.  A text that spells no strategy is
a fault of the model, which names the text and the texts of all strategies. -/
theorem ofText_spelled (s : String) :
  (∀ strategy, ofText s = .ok strategy ↔ strategy.Spells s.toList)
    ∧ (ofText s = .error (.model (.unsupportedEffect s (all.map text)))
      ↔ ∀ strategy : Strategy, ¬ strategy.Spells s.toList)
    ∧ (Failure.model (.unsupportedEffect s (all.map text))).report.kind = "MalformedModelError"
  := by
  have hnames := ofText?_eq_some_iff s
  rw [ofText]
  cases hfound : ofText? s with
  | none =>
      rw [hfound] at hnames
      have hnone : ∀ strategy : Strategy, ¬ strategy.Spells s.toList := by
        intro strategy h
        cases (hnames strategy).mpr h
      refine ⟨?_, ?_, rfl⟩
      · intro strategy
        simp [hnone strategy]
      · simp [hnone]
  | some strategy =>
      rw [hfound] at hnames
      refine ⟨?_, ?_, rfl⟩
      · intro other
        rw [← hnames other]
        simp
      · simp [← hnames]

end Strategy

end AccessControl
