import AccessControl.Proofs.Pattern.Setting
import AccessControl.Proofs.Pattern.Unmarked

/-!
# Escapes, classes and repetitions

The readers of what stands between slashes and placeholders, apart from groups: each reads in a
pattern what it reads alone.
-/

namespace AccessControl

namespace PatternReader

open PatternUnit (Behind first?)

/-! ### Pieces without groups -/

/-- A piece without groups and without faults. -/
structure Harmless (p : Piece) : Prop where
  unmarked : p.regex.Unmarked
  fault : p.fault = none

theorem harmless_sequence {pieces : List Piece} (h : ∀ p ∈ pieces, Harmless p) :
  Harmless (Piece.sequence pieces)
  := by
  refine ⟨?_, sequence_fault fun p hp => (h p hp).fault⟩
  induction pieces with
  | nil => trivial
  | cons p rest ih =>
      obtain ⟨hp, hrest⟩ := List.forall_mem_cons.mp h
      cases rest with
      | nil => exact hp.unmarked
      | cons q rest => exact ⟨hp.unmarked, ih hrest⟩

theorem harmless_literal (flags : PatternFlags) (code : Nat) : Harmless (literalPiece flags code) :=
  ⟨trivial, rfl⟩

/-- Parts of which none has groups or faults. -/
def Quiet (parts : List Part) : Prop := ∀ part ∈ parts, ∀ p ∈ part.pieces, Harmless p

theorem Quiet.pieces {parts : List Part} (h : Quiet parts) :
  ∀ p ∈ parts.reverse.flatMap Part.pieces, Harmless p
  := by
  intro p hp
  obtain ⟨part, hpart, hp⟩ := List.mem_flatMap.mp hp
  exact h part (List.mem_reverse.mp hpart) p hp

namespace Setting

variable {E : Setting} {α β γ : Type} {text : List Char}

/-! ### Escapes -/

theorem copies_nameUntil (mark : Char) (what : String) {fuel fuel' : Nat} (name : List Char)
    (h : PatternUnit.count text < fuel) (h' : PatternUnit.count text < fuel') :
  E.Copies text Eq (nameUntil mark what fuel name) (nameUntil mark what fuel' name)
  := by
  induction fuel generalizing text name fuel' with
  | zero => cases h
  | succ fuel ih =>
      obtain ⟨fuel', rfl⟩ := Nat.exists_eq_add_one_of_ne_zero (Nat.ne_zero_of_lt h')
      rw [nameUntil, nameUntil]
      apply runs_take
      · show Fails (if name.isEmpty then _ else _)
        split <;> exact fails_failBack _ _
      · intro u rest position position' hfirst
        have hcount := PatternUnit.count_of_first? hfirst
        have hrest : Behind text rest := .step .refl hfirst
        apply runs_ite
        · intro _
          apply runs_ite
          · exact fun _ => runs_of_fails (fails_failBack _ _)
          · exact fun _ => (copies_pure rfl).earlier hrest
        · exact fun _ => (ih _ (by omega) (by omega)).earlier hrest

/-- What a reader asks of the number of the units that are left. -/
theorem runs_get {Q : β → PatternState → Except PatternError (γ × PatternState) → Prop}
    {f : PatternState → PatternReader β} {g : PatternState → PatternReader γ}
    (h : ∀ position position', E.Runs text (f (E.alone.facing position text))
      (g (E.whole.facing position' (text ++ E.behind))) Q) :
  E.Runs text (get >>= f) (get >>= g) Q
  := fun hclosed p q b s' hrun => h p q hclosed p q b s' hrun

theorem count_alone (E : Setting) (text : List Char) (position : Nat) :
  PatternUnit.count text = (E.alone.facing position text).units.length
  := (PatternUnit.length_split position text).symm

theorem count_whole (E : Setting) (text : List Char) (position : Nat) :
  PatternUnit.count text ≤ (E.whole.facing position (text ++ E.behind)).units.length
  := by
  apply Nat.le_trans (PatternUnit.count_le_append text E.behind)
  exact Nat.le_of_eq (PatternUnit.length_split position _).symm

/-- The next unit is a character alone if it is one in the pattern, for what follows the text is
none of these characters. -/
theorem any_head?_whole (E : Setting) {text : List Char} (hclosed : text ≠ ['\\'])
    (position position' : Nat) {c : Char} (hc : c ∉ borders) :
  (E.whole.facing position' (text ++ E.behind)).units.head?.any (·.isChar c)
    = (E.alone.facing position text).units.head?.any (·.isChar c)
  := by
  rw [PatternState.facing, PatternState.facing]
  dsimp only
  rw [PatternUnit.head?_split, PatternUnit.head?_split]
  cases hfirst : first? text with
  | none =>
      obtain rfl := PatternUnit.eq_nil_of_first? hfirst
      rw [List.nil_append, E.first?_behind]
      simpa [PatternUnit.isChar] using E.border_ne hc
  | some r =>
      rw [PatternUnit.first?_append hfirst hclosed]
      rfl

theorem copies_hexEscape (c : Char) (n : Nat) :
  E.Copies text Eq (hexEscape c n) (hexEscape c n)
  := by
  rw [hexEscape]
  apply (copies_takeWhile (by decide) (.inl rfl)).bind
  rintro digits _ text' - rfl
  apply runs_ite
  · exact fun _ => runs_of_fails (fails_failBack _ _)
  · intro _
    apply runs_ite
    · exact fun _ => copies_pure rfl
    · exact fun _ => runs_of_fails (fails_failBack _ _)

theorem copies_octalEscape (first : List Char) (more : Nat) :
  E.Copies text Eq (octalEscape first more) (octalEscape first more)
  := by
  rw [octalEscape]
  apply (copies_takeWhile (by decide) (.inl rfl)).bind
  rintro digits _ text' - rfl
  apply runs_ite
  · exact fun _ => copies_pure rfl
  · exact fun _ => runs_of_fails (fails_failBack _ _)

theorem copies_namedEscape : E.Copies text Eq namedEscape namedEscape := by
  refine runs_accept (by decide) ?_ fun _ => runs_of_fails (fails_failBack _ _)
  intro rest hfirst
  refine Copies.earlier ?_ (.step .refl hfirst)
  refine runs_get ?_
  intro position position'
  have halone := Nat.lt_succ_of_le (Nat.le_of_eq (E.count_alone rest position))
  have hwhole := Nat.lt_succ_of_le (E.count_whole rest position')
  refine (copies_nameUntil _ _ [] halone hwhole).bind ?_
  rintro name _ text' - rfl
  cases CharacterName.find? (String.ofList name) with
  | none => exact runs_of_fails (fails_failBack _ _)
  | some code => exact copies_pure rfl

theorem copies_literalEscape (c : Char) :
  E.Copies text Eq (literalEscape c) (literalEscape c)
  := by
  rw [literalEscape]
  apply runs_ite
  · exact fun _ => runs_of_fails (fails_failBack _ _)
  · exact fun _ => copies_pure rfl

theorem Copies.map {x y : PatternReader α} (h : E.Copies text Eq x y) (f : α → γ) :
  E.Copies text Eq (x >>= fun a => pure (f a)) (y >>= fun a => pure (f a))
  := by
  refine h.bind ?_
  rintro a _ text' - rfl
  exact copies_pure rfl

theorem copies_classEscape (c : Char) : E.Copies text Eq (classEscape c) (classEscape c) := by
  rw [classEscape]
  split
  · exact copies_pure rfl
  · exact copies_pure rfl
  · refine runs_ite (fun _ => (copies_hexEscape c 2).map _) fun _ => ?_
    refine runs_ite (fun _ => (copies_hexEscape c 4).map _) fun _ => ?_
    refine runs_ite (fun _ => (copies_hexEscape c 8).map _) fun _ => ?_
    refine runs_ite (fun _ => copies_namedEscape.map _) fun _ => ?_
    refine runs_ite (fun _ => (copies_octalEscape [c] 2).map _) fun _ => ?_
    refine runs_ite (fun _ => runs_of_fails (fails_failBack _ _)) fun _ => ?_
    exact (copies_literalEscape c).map _

/-- Alone there is no group to refer to. -/
theorem runs_groupReference
    {Q : Piece → PatternState → Except PatternError (β × PatternState) → Prop}
    {digits : List Char} (h : 1 ≤ numberIn 10 digits) (flags : PatternFlags)
    (y : PatternReader β) :
  E.Runs text (groupReference flags digits) y Q
  := by
  intro hclosed p q a s' hrun
  have hgroups : ¬ numberIn 10 digits < (E.alone.facing p text).widths.length :=
    Nat.not_lt.mpr (Nat.le_trans E.groups h)
  rw [groupReference] at hrun
  obtain ⟨_, _, ⟨⟩, hrun⟩ := bind_eq_ok.mp hrun
  rw [if_neg hgroups] at hrun
  cases hrun

/-- Digits of which the first is not zero write a positive number. -/
theorem one_le_numberIn {c : Char} (hc : c.isDigit = true) (hzero : c ≠ '0') (digits : List Char) :
  1 ≤ numberIn 10 (c :: digits)
  := by
  have hmono : ∀ n, n ≤ digits.foldl (fun n c => 10 * n + hexDigitValue c) n := by
    induction digits with
    | nil => exact Nat.le_refl
    | cons d digits ih =>
        intro n
        exact Nat.le_trans (show n ≤ 10 * n + hexDigitValue d by omega) (ih _)
  have hfirst : '0'.toNat < c.toNat := by
    have hne : '0'.toNat ≠ c.toNat := fun h => hzero (Char.toNat_inj.mp h).symm
    have hle : '0' ≤ c := by
      rw [Char.isDigit, Bool.and_eq_true] at hc
      exact of_decide_eq_true hc.1
    exact Nat.lt_of_le_of_ne hle hne
  have hvalue : 1 ≤ 10 * 0 + hexDigitValue c := by
    rw [hexDigitValue, if_pos hc]
    omega
  exact Nat.le_trans hvalue (hmono _)

theorem copies_numberEscape {c : Char} (hc : c.isDigit = true) (hzero : c ≠ '0')
    (flags : PatternFlags) :
  E.Copies text (fun p p' => p = p' ∧ Harmless p) (numberEscape flags c) (numberEscape flags c)
  := by
  have hvalue : 1 ≤ numberIn 10 [c] := one_le_numberIn hc hzero []
  have hmore : ∀ d, 1 ≤ numberIn 10 [c, d] := fun d => one_le_numberIn hc hzero [d]
  refine runs_peek ?_ ?_
  · rintro rfl position
    exact runs_groupReference hvalue flags _
  · intro u rest position position' hfirst
    rw [Option.bind_some, Option.bind_some, PatternUnit.char?_eq u position' position]
    cases (PatternUnit.mk u position).char? with
    | none => exact runs_groupReference hvalue flags _
    | some d =>
        dsimp only
        refine runs_ite (fun _ => ?_) fun _ => runs_groupReference hvalue flags _
        refine runs_advance hfirst ?_
        refine runs_peek ?_ ?_
        · rintro rfl position
          exact runs_groupReference (hmore d) flags _
        · intro v rest' position position' hsecond
          rw [Option.bind_some, Option.bind_some, PatternUnit.char?_eq v position' position]
          cases (PatternUnit.mk v position).char? with
          | none => exact runs_groupReference (hmore d) flags _
          | some e =>
              dsimp only
              refine runs_ite (fun _ => ?_) fun _ => runs_groupReference (hmore d) flags _
              refine runs_advance hsecond ?_
              refine Copies.earlier ?_ ((Behind.refl.step hfirst).step hsecond)
              refine (copies_octalEscape _ 0).bind ?_
              rintro code _ text' - rfl
              exact copies_pure ⟨rfl, harmless_literal flags code⟩

theorem Copies.piece {x y : PatternReader Nat} (h : E.Copies text Eq x y) (flags : PatternFlags) :
  E.Copies text (fun p p' => p = p' ∧ Harmless p) (x >>= fun n => pure (literalPiece flags n))
    (y >>= fun n => pure (literalPiece flags n))
  := by
  refine h.bind ?_
  rintro code _ text' - rfl
  exact copies_pure ⟨rfl, harmless_literal flags code⟩

theorem copies_escape (flags : PatternFlags) (c : Char) :
  E.Copies text (fun p p' => p = p' ∧ Harmless p) (escape flags c) (escape flags c)
  := by
  have hplace : ∀ a, E.Copies text (fun p p' => p = p' ∧ Harmless p)
      (pure (.place (.anchor a) .anchor)) (pure (.place (.anchor a) .anchor)) :=
    fun a => copies_pure ⟨rfl, trivial, rfl⟩
  rw [escape]
  split
  · exact copies_pure ⟨rfl, trivial, rfl⟩
  · refine runs_ite (fun _ => hplace _) fun _ => ?_
    refine runs_ite (fun _ => hplace _) fun _ => ?_
    refine runs_ite (fun _ => hplace _) fun _ => ?_
    refine runs_ite (fun _ => hplace _) fun _ => ?_
    split
    · exact copies_pure ⟨rfl, harmless_literal flags _⟩
    · refine runs_ite (fun _ => (copies_hexEscape c 2).piece flags) fun _ => ?_
      refine runs_ite (fun _ => (copies_hexEscape c 4).piece flags) fun _ => ?_
      refine runs_ite (fun _ => (copies_hexEscape c 8).piece flags) fun _ => ?_
      refine runs_ite (fun _ => copies_namedEscape.piece flags) fun _ => ?_
      refine runs_ite (fun _ => (copies_octalEscape [c] 2).piece flags) fun hzero => ?_
      refine runs_ite (fun hc => copies_numberEscape hc (by simpa using hzero) flags) fun _ => ?_
      exact (copies_literalEscape c).piece flags

/-! ### Classes -/

theorem copies_classItem (u : List Char) (position position' : Nat) :
  E.Copies text Eq (classItem ⟨u, position⟩) (classItem ⟨u, position'⟩)
  := by
  rw [classItem, classItem]
  dsimp only
  split
  · exact copies_classEscape _
  · exact copies_pure rfl
  · exact copies_pure rfl

theorem copies_classItems (start start' : Nat) {fuel fuel' : Nat} (items : List ClassItem)
    (h : PatternUnit.count text < fuel) (h' : PatternUnit.count text < fuel') :
  E.Copies text Eq (classItems start fuel items) (classItems start' fuel' items)
  := by
  induction fuel generalizing text items fuel' with
  | zero => cases h
  | succ fuel ih =>
      obtain ⟨fuel', rfl⟩ := Nat.exists_eq_add_one_of_ne_zero (Nat.ne_zero_of_lt h')
      rw [classItems, classItems]
      refine runs_take (fails_failAt _ _) ?_
      intro u rest position position' hfirst
      have hcount := PatternUnit.count_of_first? hfirst
      have hrest : Behind text rest := .step .refl hfirst
      refine runs_ite (fun _ => (copies_pure rfl).earlier hrest) fun _ => ?_
      refine Copies.earlier ?_ hrest
      refine (copies_classItem u position position').bind ?_
      rintro first _ text' hbehind rfl
      have hless := hbehind.count_le
      refine runs_accept (by decide) ?_ ?_
      · intro rest' hfirst'
        have hcount' := PatternUnit.count_of_first? hfirst'
        refine runs_take (fails_failAt _ _) ?_
        intro v rest'' position position' hfirst''
        have hcount'' := PatternUnit.count_of_first? hfirst''
        have hrest' : Behind text' rest'' := (Behind.refl.step hfirst').step hfirst''
        refine runs_ite (fun _ => (copies_pure rfl).earlier hrest') fun _ => ?_
        refine Copies.earlier ?_ hrest'
        refine (copies_classItem v position position').bind ?_
        rintro last _ text'' hbehind' rfl
        have hless' := hbehind'.count_le
        cases first <;> cases last
        case code.code lo hi =>
          refine runs_ite (fun _ => runs_of_fails (fails_failBack _ _)) fun _ => ?_
          exact ih _ (by omega) (by omega)
        all_goals exact runs_of_fails (fails_failBack _ _)
      · exact fun _ => ih _ (by omega) (by omega)

theorem runs_position {Q : β → PatternState → Except PatternError (γ × PatternState) → Prop}
    {f : Nat → PatternReader β} {g : Nat → PatternReader γ}
    (h : ∀ position position', E.Runs text (f position) (g position') Q) :
  E.Runs text (PatternReader.position >>= f) (PatternReader.position >>= g) Q
  := fun hclosed p q b s' hrun => h _ _ hclosed p q b s' hrun

theorem copies_charClass (flags : PatternFlags) :
  E.Copies text (fun p p' => p = p' ∧ Harmless p) (charClass flags) (charClass flags)
  := by
  have hitems : ∀ {text : List Char} (start start' : Nat) (negated : Bool),
      E.Copies text (fun p p' => p = p' ∧ Harmless p)
        (get >>= fun s => classItems start (s.units.length + 1) [] >>= fun items =>
          pure (.single (.one ⟨items.eraseDups, negated, flags.caseRule, flags.ascii⟩)))
        (get >>= fun s => classItems start' (s.units.length + 1) [] >>= fun items =>
          pure (.single (.one ⟨items.eraseDups, negated, flags.caseRule, flags.ascii⟩))) := by
    intro text start start' negated
    refine runs_get ?_
    intro position position'
    have halone := Nat.lt_succ_of_le (Nat.le_of_eq (E.count_alone text position))
    have hwhole := Nat.lt_succ_of_le (E.count_whole text position')
    refine (copies_classItems start start' [] halone hwhole).bind ?_
    rintro items _ text' - rfl
    exact copies_pure ⟨rfl, trivial, rfl⟩
  refine runs_position ?_
  intro position position'
  refine runs_accept (by decide) ?_ fun _ => hitems _ _ false
  exact fun rest hfirst => (hitems _ _ true).earlier (.step .refl hfirst)

/-! ### Repetitions -/

theorem copies_countOf (digits : List Char) :
  E.Copies text Eq (countOf digits) (countOf digits)
  := by
  have hfails : ∀ e, Fails (throw e : PatternReader Nat) := fun e _ => ⟨e, rfl⟩
  refine runs_ite (fun _ => runs_of_fails (hfails _)) fun _ => ?_
  exact runs_ite (fun _ => copies_pure rfl) fun _ => runs_of_fails (hfails _)

/-- What stands in braces, after its least and its greatest count; where no brace closes, reading
goes back to where it started. -/
def closeBraces (start : PatternState) (low high : List Char) :
    PatternReader (Option (Nat × Option Nat)) := do
  if ← accept '\x7d' then
    let least ← countOf low
    if high.isEmpty then return some (least, none)
    else
      let most ← countOf high
      if most < least then
        failAt .crossedRepeat ((start.units.head?).elim start.total (·.position))
      else return some (least, some most)
  else
    set start
    return none

theorem runs_closeBraces {rest : List Char} (hrest : Behind text rest) (hclosed : text ≠ ['\\'])
    (position position' : Nat) (low high : List Char) :
  E.Runs rest (closeBraces (E.alone.facing position text) low high)
    (closeBraces (E.whole.facing position' (text ++ E.behind)) low high) (E.Copied text Eq)
  := by
  refine runs_accept (by decide) ?_ ?_
  · intro rest' hfirst
    refine Copies.earlier ?_ (hrest.step hfirst)
    refine (copies_countOf low).bind ?_
    rintro least _ _ - rfl
    refine runs_ite (fun _ => copies_pure rfl) fun _ => ?_
    refine (copies_countOf high).bind ?_
    rintro most _ _ - rfl
    refine runs_ite (fun _ => runs_of_fails (fails_failAt _ _)) fun _ => ?_
    exact copies_pure rfl
  · rintro - - _ _ _ _ ⟨⟩
    exact ⟨none, text, position, position', rfl, rfl, hclosed, .refl, rfl⟩

theorem copies_braces : E.Copies text Eq braces braces := by
  refine runs_of_closed fun hclosed => ?_
  refine runs_get ?_
  intro position position'
  rw [E.any_head?_whole hclosed position position' (by decide)]
  refine runs_ite (fun _ => copies_pure rfl) fun _ => ?_
  have hdigits : borders.any Char.isDigit = false := by decide
  have halone := Nat.le_of_eq (E.count_alone text position)
  have hwhole := E.count_whole text position'
  refine Runs.bind (copies_takeWhile hdigits (.inr ⟨halone, hwhole⟩)) ?_
  rintro low _ rest hrest rfl
  refine runs_accept (by decide) ?_ ?_
  · intro rest' hfirst
    have hrest' := hrest.step hfirst
    have hless := hrest'.count_le
    refine Runs.bind (copies_takeWhile hdigits
      (.inr ⟨Nat.le_trans hless halone, Nat.le_trans hless hwhole⟩)) ?_
    rintro high _ rest'' hrest'' rfl
    exact runs_closeBraces (hrest'.trans hrest'') hclosed position position' low high
  · exact fun _ => runs_closeBraces hrest hclosed position position' low low

theorem copies_counts (sign : Char) : E.Copies text Eq (counts sign) (counts sign) := by
  refine runs_ite (fun _ => copies_pure rfl) fun _ => ?_
  refine runs_ite (fun _ => copies_pure rfl) fun _ => ?_
  exact runs_ite (fun _ => copies_pure rfl) fun _ => copies_braces

theorem copies_repeatMode : E.Copies text Eq repeatMode repeatMode := by
  refine runs_accept (by decide) ?_ ?_
  · exact fun rest hfirst => (copies_pure rfl).earlier (.step .refl hfirst)
  · intro _
    refine runs_accept (by decide) ?_ fun _ => copies_pure rfl
    exact fun rest hfirst => (copies_pure rfl).earlier (.step .refl hfirst)

/-- The repetition of a part that may be repeated, before some earlier parts. -/
def repeatPart (least : Nat) (most : Option Nat) (part : Part) (earlier : List Part) :
    PatternReader (List Part) := do
  let mode ← repeatMode
  let p := Piece.sequence part.pieces
  let fault := if (← get).flags.template then some (.unsupportedOperator (repeatName mode))
    else p.fault
  let width := p.width.times least most
  return .piece ⟨.repeated mode least most p.regex, width, .repetition, fault⟩ :: earlier

theorem copies_repeatPart (least : Nat) (most : Option Nat) {part : Part} {earlier : List Part}
    (before : List Part) (h : Quiet (part :: earlier)) :
  E.Copies text (fun parts parts' => parts' = parts ++ before ∧ Quiet parts)
    (repeatPart least most part earlier) (repeatPart least most part (earlier ++ before))
  := by
  obtain ⟨hpart, hearlier⟩ := List.forall_mem_cons.mp h
  have hsequence := harmless_sequence hpart
  refine copies_repeatMode.bind ?_
  rintro mode _ rest - rfl
  refine runs_get ?_
  intro position position'
  have halone : (E.alone.facing position rest).flags = {} := E.aloneFlags
  have hwhole : (E.whole.facing position' (rest ++ E.behind)).flags = {} := E.wholeFlags
  rw [halone, hwhole]
  refine copies_pure ⟨rfl, List.forall_mem_cons.mpr ⟨?_, hearlier⟩⟩
  rintro p hp
  obtain rfl := List.mem_singleton.mp hp
  exact ⟨hsequence.unmarked, hsequence.fault⟩

theorem copies_repeatLast (place place' least : Nat) (most : Option Nat) {found : List Part}
    (before : List Part) (h : Quiet found) :
  E.Copies text (fun parts parts' => parts' = parts ++ before ∧ Quiet parts)
    (repeatLast place least most found) (repeatLast place' least most (found ++ before))
  := by
  cases found with
  | nil => exact runs_of_fails (fails_failAt _ _)
  | cons part earlier =>
      obtain ⟨regex, width, kind, fault⟩ | pieces := part
      · cases kind with
        | anchor => exact runs_of_fails (fails_failAt _ _)
        | repetition => exact runs_of_fails (fails_failAt _ _)
        | group => exact copies_repeatPart least most before h
        | other => exact copies_repeatPart least most before h
      · exact copies_repeatPart least most before h

end Setting

end PatternReader

end AccessControl
