import AccessControl.Proofs.Pattern.Copies

/-!
# Texts that stand alone

A part of a pattern that is a sequence of a regular expression by itself and has no groups but those
that only hold their parts together is read before a slash, a placeholder or the end of the pattern
as it is read alone.
-/

namespace AccessControl

/-- The state before a text is read alone. -/
def PatternState.ofText (text : List Char) : PatternState :=
  { units := PatternUnit.split 0 text, total := text.length }

namespace PatternReader

open PatternUnit (Behind first?)

/-! ### Choices -/

/-- What is said of each piece of some sequences. -/
theorem harmless_commonLead {first : List Piece} {others : List (List Piece)}
    (h : ∀ p ∈ first, Harmless p) (hothers : ∀ pieces ∈ others, ∀ p ∈ pieces, Harmless p) :
  (∀ p ∈ (Piece.commonLead first others).1, Harmless p)
    ∧ ∀ pieces ∈ (Piece.commonLead first others).2, ∀ p ∈ pieces, Harmless p
  := by
  induction first generalizing others with
  | nil => exact ⟨by simp [Piece.commonLead], List.forall_mem_cons.mpr ⟨h, hothers⟩⟩
  | cons p first ih =>
      obtain ⟨hp, hfirst⟩ := List.forall_mem_cons.mp h
      rw [Piece.commonLead]
      split
      · have htails : ∀ pieces ∈ others.map List.tail, ∀ p ∈ pieces, Harmless p := by
          intro pieces hpieces q hq
          obtain ⟨whole, hwhole, rfl⟩ := List.mem_map.mp hpieces
          exact hothers whole hwhole q (List.mem_of_mem_tail hq)
        obtain ⟨hlead, hrests⟩ := ih hfirst htails
        exact ⟨List.forall_mem_cons.mpr ⟨hp, hlead⟩, hrests⟩
      · exact ⟨by simp, List.forall_mem_cons.mpr ⟨h, hothers⟩⟩

theorem harmless_merged {sequences : List (List Piece)} {p : Piece}
    (h : Piece.merged? sequences = some p) :
  Harmless p
  := by
  rw [Piece.merged?] at h
  split at h
  · cases h
    exact ⟨trivial, rfl⟩
  · cases h

theorem harmless_branch {sequences : List (List Piece)}
    (h : ∀ pieces ∈ sequences, ∀ p ∈ pieces, Harmless p) :
  Harmless (Piece.branch sequences)
  := by
  induction sequences with
  | nil => exact ⟨trivial, rfl⟩
  | cons pieces rest ih =>
      obtain ⟨hpieces, hrest⟩ := List.forall_mem_cons.mp h
      have hfirst := harmless_sequence hpieces
      cases rest with
      | nil => exact hfirst
      | cons next more =>
          have hmore := ih hrest
          refine ⟨⟨hfirst.unmarked, hmore.unmarked⟩, ?_⟩
          change ((Piece.sequence pieces).fault <|> (Piece.branch (next :: more)).fault) = none
          rw [hfirst.fault, hmore.fault]
          rfl

theorem harmless_choice {sequences : List (List Piece)}
    (h : ∀ pieces ∈ sequences, ∀ p ∈ pieces, Harmless p) :
  ∀ p ∈ Piece.choice sequences, Harmless p
  := by
  obtain _ | ⟨first, _ | ⟨next, more⟩⟩ := sequences
  · simp [Piece.choice]
  · exact h first (List.mem_singleton_self first)
  · obtain ⟨hfirst, hothers⟩ := List.forall_mem_cons.mp h
    obtain ⟨hlead, hrests⟩ := harmless_commonLead hfirst hothers
    rw [Piece.choice, List.forall_mem_append, List.forall_mem_singleton]
    refine ⟨hlead, ?_⟩
    cases hmerged : Piece.merged? (Piece.commonLead first (next :: more)).2 with
    | none => exact harmless_branch hrests
    | some p => exact harmless_merged hmerged
    rintro ⟨⟩

/-! ### Groups that hold parts together -/

/-- Where a parenthesis opens a group, the group only holds its parts together. -/
def opensPlainly : List Char → Bool
  | [] => true
  | '\\' :: _ :: rest => opensPlainly rest
  | '(' :: rest => ['?', ':'].isPrefixOf rest && opensPlainly rest
  | _ :: rest => opensPlainly rest

theorem opensPlainly_of_first? {text u rest : List Char} (h : opensPlainly text = true)
    (hfirst : first? text = some (u, rest)) :
  opensPlainly rest = true ∧ (u = ['('] → ∃ inner, rest = '?' :: ':' :: inner)
  := by
  cases text with
  | nil => cases hfirst
  | cons c text =>
      by_cases hc : c = '\\'
      · subst hc
        cases text with
        | nil =>
            cases hfirst
            exact ⟨rfl, by rintro ⟨⟩⟩
        | cons d text =>
            cases hfirst
            exact ⟨h, by rintro ⟨⟩⟩
      · rw [PatternUnit.first?_cons hc] at hfirst
        cases hfirst
        by_cases hopen : c = '('
        · subst hopen
          rw [opensPlainly, Bool.and_eq_true, List.isPrefixOf_iff_prefix] at h
          obtain ⟨⟨inner, hinner⟩, hrest⟩ := h
          exact ⟨hrest, fun _ => ⟨inner, hinner.symm⟩⟩
        · rw [opensPlainly] at h
          · exact ⟨h, fun hu => absurd (List.singleton_inj.mp hu) hopen⟩
          · rintro _ _ rfl
            exact absurd rfl hc
          · exact hopen

theorem opensPlainly_of_behind {text rest : List Char} (h : opensPlainly text = true)
    (hbehind : Behind text rest) :
  opensPlainly rest = true
  := by
  induction hbehind with
  | refl => exact h
  | step _ hfirst ih => exact (opensPlainly_of_first? ih hfirst).1

namespace Setting

variable {E : Setting} {α β γ δ : Type} {text : List Char}

/-- What is read in parentheses is copied, or the text has ended, so that no parenthesis closes. -/
def Enclosed (E : Setting) (text : List Char) (ρ : α → β → Prop) (a : α) (s' : PatternState)
    (outcome : Except PatternError (β × PatternState)) : Prop :=
  (∃ position, s' = E.alone.facing position []) ∨ E.Copied text ρ a s' outcome

theorem Runs.enclosed_bind {ρ : α → β → Prop} {x : PatternReader α} {y : PatternReader β}
    {f : α → PatternReader γ} {g : β → PatternReader δ}
    {Q : γ → PatternState → Except PatternError (δ × PatternState) → Prop}
    (h : E.Runs text x y (E.Enclosed text ρ))
    (hend : ∀ a position c s' outcome, f a (E.alone.facing position []) = .ok (c, s') →
      Q c s' outcome)
    (hnext : ∀ a b rest, Behind text rest → ρ a b → E.Runs rest (f a) (g b) Q) :
  E.Runs text (x >>= f) (y >>= g) Q
  := by
  intro hclosed p q c s' hrun
  obtain ⟨a, m, hx, hf⟩ := bind_eq_ok.mp hrun
  obtain ⟨position, rfl⟩ | ⟨b, rest, p', q', rfl, hy, hclosed', hbehind, hρ⟩ :=
    h hclosed p q a m hx
  · exact hend a position c s' _ hf
  · rw [bind_of_ok hy]
    exact hnext a b rest hbehind hρ hclosed' p' q' c s' hf

theorem copies_closeParenthesis (start start' : Nat) :
  E.Copies text Eq (closeParenthesis start) (closeParenthesis start')
  := by
  refine runs_accept (by decide) ?_ fun _ => runs_of_fails (fails_failAt _ _)
  exact fun rest hfirst => (copies_pure rfl).earlier (.step .refl hfirst)

/-- Pieces that have been read twice, without groups and faults. -/
def SamePieces (pieces pieces' : List Piece) : Prop :=
  pieces = pieces' ∧ ∀ p ∈ pieces, Harmless p

/-- A part that has been read twice, without groups and faults. -/
def SamePart (found found' : Construct) : Prop :=
  ∃ part : Part, found = .part part ∧ found' = .part part ∧ ∀ p ∈ part.pieces, Harmless p

theorem copies_construct {fuel fuel' : Nat} {inner : List Char}
    (h : E.Runs inner (alternatives false {} fuel []) (alternatives false {} fuel' [])
      (E.Enclosed inner SamePieces)) :
  E.Copies ('?' :: ':' :: inner) SamePart (construct {} (fuel + 1)) (construct {} (fuel' + 1))
  := by
  have hquestion : first? ('?' :: ':' :: inner) = some (['?'], ':' :: inner) := rfl
  have hcolon : first? (':' :: inner) = some ([':'], inner) := rfl
  have hinner : Behind ('?' :: ':' :: inner) inner := (Behind.refl.step hquestion).step hcolon
  rw [construct, construct]
  refine runs_position ?_
  intro position position'
  refine runs_accept (by decide) ?_ fun hnone => absurd hquestion (hnone _)
  rintro _ ⟨⟩
  refine runs_take (fails_failBack _ _) ?_
  rintro _ _ position position' ⟨⟩
  refine Runs.enclosed_bind h ?_ ?_
  · rintro pieces position c s' outcome ⟨⟩
  · rintro pieces _ rest hrest ⟨rfl, hpieces⟩
    refine Copies.earlier ?_ (hinner.trans hrest)
    refine (copies_closeParenthesis _ _).bind ?_
    rintro _ _ _ - -
    exact copies_pure ⟨.plain pieces, rfl, rfl, hpieces⟩

/-! ### Sequences -/

variable {first : Bool} {fuel fuel' : Nat} {found : List Part} {u rest : List Char}
  {Q : List Piece → PatternState → Except PatternError (List Piece × PatternState) → Prop}

/-- A sequence goes on behind its next unit, unless it ends there. -/
theorem runs_sequence (before : List Part) (hunit : first? text = some (u, rest))
    (hstop : u ≠ ['|'] ∧ u ≠ [')']) (hfound : Quiet found)
    (hgroup : u = ['('] → E.Copies rest SamePart (construct {} fuel) (construct {} fuel'))
    (hnext : ∀ parts rest', Behind rest rest' → Quiet parts →
      E.Runs rest' (sequence false {} fuel parts) (sequence first {} fuel' (parts ++ before)) Q) :
  E.Runs text (sequence false {} (fuel + 1) found) (sequence first {} (fuel' + 1) (found ++ before))
    Q
  := by
  have hpiece : ∀ {p rest'}, Behind rest rest' → Harmless p →
      E.Runs rest' (sequence false {} fuel (.piece p :: found))
        (sequence first {} fuel' (.piece p :: (found ++ before))) Q := by
    intro p rest' hrest' hp
    refine hnext (.piece p :: found) rest' hrest' (List.forall_mem_cons.mpr ⟨?_, hfound⟩)
    exact List.forall_mem_singleton.mpr hp
  rw [sequence, sequence]
  refine runs_peek (fun hnil => ?_) ?_
  · rw [hnil] at hunit
    cases hunit
  intro v rest' position position' hfirst
  rw [hunit] at hfirst
  cases hfirst
  obtain ⟨c, rfl⟩ | ⟨c, rfl⟩ := PatternUnit.of_first? hunit
  · refine runs_advance hunit ?_
    refine Runs.bind (copies_escape {} c) ?_
    rintro p _ rest' hrest' ⟨rfl, hp⟩
    exact hpiece hrest' hp
  · have hgoesOn : ¬ (c == '|' || c == ')') = true := by
      intro hc
      obtain hc | hc := Bool.or_eq_true_iff.mp hc
      · exact hstop.1 (congrArg (fun c => [c]) (beq_iff_eq.mp hc))
      · exact hstop.2 (congrArg (fun c => [c]) (beq_iff_eq.mp hc))
    refine runs_ite (fun hend => absurd hend hgoesOn) fun _ => ?_
    refine runs_advance hunit ?_
    -- the pattern is not verbose, so neither blanks nor comments are skipped
    refine runs_ite (fun hblank => absurd hblank Bool.false_ne_true) fun _ => ?_
    refine runs_ite (fun hcomment => absurd hcomment Bool.false_ne_true) fun _ => ?_
    refine runs_ite (fun _ => hpiece .refl (harmless_literal {} _)) fun _ => ?_
    refine runs_ite (fun _ => hpiece .refl ⟨trivial, rfl⟩) fun _ => ?_
    refine runs_ite (fun _ => hpiece .refl ⟨trivial, rfl⟩) fun _ => ?_
    refine runs_ite (fun _ => ?_) fun _ => runs_ite (fun hopen => ?_) fun _ => ?_
    · refine Runs.bind (copies_charClass {}) ?_
      rintro p _ rest' hrest' ⟨rfl, hp⟩
      exact hpiece hrest' hp
    · refine Runs.bind (hgroup (congrArg (fun c => [c]) (beq_iff_eq.mp hopen))) ?_
      rintro _ _ rest' hrest' ⟨part, rfl, rfl, hpart⟩
      exact hnext (part :: found) rest' hrest' (List.forall_mem_cons.mpr ⟨hpart, hfound⟩)
    · refine Runs.bind (copies_counts c) ?_
      rintro counts _ rest' hrest' rfl
      cases counts with
      | none => exact hpiece hrest' (harmless_literal {} _)
      | some bounds =>
          obtain ⟨least, most⟩ := bounds
          refine Runs.bind (copies_repeatLast _ _ least most before hfound) ?_
          rintro parts _ rest'' hrest'' ⟨rfl, hparts⟩
          exact hnext parts rest'' (hrest'.trans hrest'') hparts

/-- A sequence ends before a bar and before a closing parenthesis. -/
theorem copies_sequence_stop (hunit : first? text = some (u, rest)) (hstop : u = ['|'] ∨ u = [')'])
    (hfound : Quiet found) :
  E.Copies text SamePieces (sequence false {} (fuel + 1) found)
    (sequence false {} (fuel' + 1) found)
  := by
  rw [sequence, sequence]
  refine runs_peek (fun hnil => ?_) ?_
  · rw [hnil] at hunit
    cases hunit
  intro v rest' position position' hfirst
  rw [hunit] at hfirst
  cases hfirst
  obtain rfl | rfl := hstop
  · exact copies_pure ⟨rfl, hfound.pieces⟩
  · exact copies_pure ⟨rfl, hfound.pieces⟩

theorem Copies.enclosed {ρ : α → β → Prop} {x : PatternReader α} {y : PatternReader β}
    (h : E.Copies text ρ x y) :
  E.Runs text x y (E.Enclosed text ρ)
  := fun hclosed p q a s' hrun => .inr (h hclosed p q a s' hrun)

theorem enclosed_earlier {ρ : α → β → Prop} {x : PatternReader α} {y : PatternReader β}
    (h : E.Runs rest x y (E.Enclosed rest ρ)) (hrest : Behind text rest) :
  E.Runs rest x y (E.Enclosed text ρ)
  := by
  intro hclosed p q a s' hrun
  obtain hend | ⟨b, text', p', q', hs', hy, hclosed', hbehind, hρ⟩ := h hclosed p q a s' hrun
  · exact .inl hend
  · exact .inr ⟨b, text', p', q', hs', hy, hclosed', hrest.trans hbehind, hρ⟩

/-- What stands in a group is read alike, with any fuel that is enough. -/
def ReadsGroup (E : Setting) (text : List Char) : Prop :=
  ∀ fuel fuel' found, 4 * text.length + 2 ≤ fuel → 4 * text.length + 2 ≤ fuel' →
    (∀ pieces ∈ found, ∀ p ∈ pieces, Harmless p) →
    E.Runs text (alternatives false {} fuel found) (alternatives false {} fuel' found)
      (E.Enclosed text SamePieces)

/-- A group that only holds its parts together is read alike if what stands in it is. -/
theorem copies_group (hopen : opensPlainly text = true) (hunit : first? text = some (['('], rest))
    (hgroups : ∀ inner, inner.length < text.length → opensPlainly inner = true →
      E.ReadsGroup inner)
    (hfuel : 4 * text.length ≤ fuel + 1) (hfuel' : 4 * text.length ≤ fuel' + 1) :
  E.Copies rest SamePart (construct {} fuel) (construct {} fuel')
  := by
  obtain ⟨hrest, hparts⟩ := opensPlainly_of_first? hopen hunit
  obtain ⟨inner, rfl⟩ := hparts rfl
  have hlength := PatternUnit.length_of_first? hunit
  rw [List.length_cons, List.length_cons] at hlength
  have hinner : opensPlainly inner = true :=
    opensPlainly_of_behind hrest ((Behind.refl.step rfl).step rfl)
  obtain ⟨fuel, rfl⟩ : ∃ more, fuel = more + 1 := Nat.exists_eq_add_one_of_ne_zero (by omega)
  obtain ⟨fuel', rfl⟩ : ∃ more, fuel' = more + 1 := Nat.exists_eq_add_one_of_ne_zero (by omega)
  exact copies_construct (hgroups inner (by omega) hinner fuel fuel' [] (by omega) (by omega)
    (by simp))

theorem runs_sequence_enclosed (hopen : opensPlainly text = true)
    (hgroups : ∀ inner, inner.length < text.length → opensPlainly inner = true →
      E.ReadsGroup inner)
    (hfuel : 4 * text.length + 1 ≤ fuel) (hfuel' : 4 * text.length + 1 ≤ fuel')
    (hfound : Quiet found) :
  E.Runs text (sequence false {} fuel found) (sequence false {} fuel' found)
    (E.Enclosed text SamePieces)
  := by
  induction hlength : text.length using Nat.strongRecOn
    generalizing text fuel fuel' found with
  | ind n ih =>
      subst hlength
      obtain ⟨fuel, rfl⟩ := Nat.exists_eq_add_one_of_ne_zero (Nat.ne_zero_of_lt hfuel)
      obtain ⟨fuel', rfl⟩ := Nat.exists_eq_add_one_of_ne_zero (Nat.ne_zero_of_lt hfuel')
      cases hunit : first? text with
      | none =>
          obtain rfl := PatternUnit.eq_nil_of_first? hunit
          rintro - p q a s' ⟨⟩
          exact .inl ⟨p, rfl⟩
      | some r =>
          obtain ⟨u, rest⟩ := r
          by_cases hstop : u = ['|'] ∨ u = [')']
          · exact (copies_sequence_stop hunit hstop hfound).enclosed
          · suffices hstep : E.Runs text (sequence false {} (fuel + 1) found)
                (sequence false {} (fuel' + 1) (found ++ [])) (E.Enclosed text SamePieces) by
              rwa [List.append_nil] at hstep
            refine runs_sequence [] hunit (not_or.mp hstop) hfound ?_ ?_
            · rintro rfl
              exact copies_group hopen hunit hgroups (by omega) (by omega)
            · intro parts rest' hrest' hparts
              have hbehind : Behind text rest' := (Behind.refl.step hunit).trans hrest'
              have hless := Nat.lt_of_le_of_lt hrest'.length_le (PatternUnit.length_of_first? hunit)
              rw [List.append_nil]
              refine enclosed_earlier (ih _ hless (opensPlainly_of_behind hopen hbehind) ?_
                (by omega) (by omega) hparts rfl) hbehind
              exact fun inner hinner => hgroups inner (Nat.lt_trans hinner hless)

theorem readsGroup (hopen : opensPlainly text = true) : E.ReadsGroup text := by
  induction hlength : text.length using Nat.strongRecOn generalizing text with
  | ind n ih =>
      subst hlength
      intro fuel fuel' found hfuel hfuel' hfound
      obtain ⟨fuel, rfl⟩ := Nat.exists_eq_add_one_of_ne_zero (Nat.ne_zero_of_lt hfuel)
      obtain ⟨fuel', rfl⟩ := Nat.exists_eq_add_one_of_ne_zero (Nat.ne_zero_of_lt hfuel')
      have hsequence : E.Runs text (sequence false {} fuel []) (sequence false {} fuel' [])
          (E.Enclosed text SamePieces) :=
        runs_sequence_enclosed hopen (fun inner hinner hplain => ih _ hinner hplain rfl) (by omega)
          (by omega) (by simp [Quiet])
      rw [alternatives, alternatives]
      refine Runs.enclosed_bind hsequence ?_ ?_
      · rintro pieces position c s' outcome ⟨⟩
        exact .inl ⟨position, rfl⟩
      · rintro pieces _ rest hrest ⟨rfl, hpieces⟩
        have hall := List.forall_mem_cons.mpr ⟨hpieces, hfound⟩
        refine enclosed_earlier ?_ hrest
        refine runs_accept (by decide) ?_ fun _ => (copies_pure ⟨rfl, ?_⟩).enclosed
        · intro rest' hbar
          have hless := Nat.lt_of_lt_of_le (PatternUnit.length_of_first? hbar) hrest.length_le
          have hbehind := hrest.step hbar
          refine runs_get ?_
          intro position position'
          exact enclosed_earlier (ih _ hless (opensPlainly_of_behind hopen hbehind) rfl fuel fuel'
            (pieces :: found) (by omega) (by omega) hall) (.step .refl hbar)
        · apply harmless_choice
          intro sequence hsequence
          exact hall sequence (List.mem_reverse.mp hsequence)

/-! ### Whole texts -/

/-- A sequence that is read alone to its end is read in the pattern up to what follows it. -/
theorem runs_sequence_whole (before : List Part) (hopen : opensPlainly text = true)
    (hfuel : 4 * text.length + 1 ≤ fuel) (hfuel' : 4 * text.length ≤ fuel')
    (hfound : Quiet found) :
  E.Runs text (sequence false {} fuel found) (sequence first {} fuel' (found ++ before))
    fun pieces s' outcome => s'.units = [] → ∃ (fuel'' position : Nat) (parts : List Part),
      fuel' ≤ fuel'' + text.length ∧ Quiet parts ∧ parts.reverse.flatMap Part.pieces = pieces
        ∧ outcome = sequence first {} fuel'' (parts ++ before) (E.whole.facing position E.behind)
  := by
  induction hlength : text.length using Nat.strongRecOn generalizing text fuel fuel' found with
  | ind n ih =>
      subst hlength
      obtain ⟨fuel, rfl⟩ := Nat.exists_eq_add_one_of_ne_zero (Nat.ne_zero_of_lt hfuel)
      cases hunit : first? text with
      | none =>
          obtain rfl := PatternUnit.eq_nil_of_first? hunit
          rintro - p q a s' ⟨⟩ -
          exact ⟨fuel', q, found, Nat.le_refl _, hfound, rfl, rfl⟩
      | some r =>
          obtain ⟨u, rest⟩ := r
          have hless := PatternUnit.length_of_first? hunit
          obtain ⟨fuel', rfl⟩ : ∃ more, fuel' = more + 1 :=
            Nat.exists_eq_add_one_of_ne_zero (by omega)
          by_cases hstop : u = ['|'] ∨ u = [')']
          · -- the sequence ends before the text does
            intro hclosed p q a s' hrun hunits
            rw [sequence, bind_of_ok (peek?_first? p text E.alone), hunit] at hrun
            have hs' : s' = E.alone.facing p text := by
              obtain rfl | rfl := hstop <;> cases hrun <;> rfl
            rw [hs', PatternState.facing, PatternUnit.split_of_first? hunit] at hunits
            cases hunits
          · refine runs_sequence before hunit (not_or.mp hstop) hfound ?_ ?_
            · rintro rfl
              exact copies_group hopen hunit (fun inner _ => readsGroup) (by omega) (by omega)
            · intro parts rest' hrest' hparts
              have hbehind : Behind text rest' := (Behind.refl.step hunit).trans hrest'
              have hshort := Nat.lt_of_le_of_lt hrest'.length_le hless
              have hmore : 4 * rest'.length + 1 ≤ fuel := by omega
              have hmore' : 4 * rest'.length ≤ fuel' := by omega
              intro hclosed p q a s' hrun hunits
              obtain ⟨fuel'', position, parts', hfuel'', hquiet, hpieces, houtcome⟩ :=
                ih _ hshort (opensPlainly_of_behind hopen hbehind) hmore hmore' hparts rfl hclosed
                  p q a s' hrun hunits
              exact ⟨fuel'', position, parts', by omega, hquiet, hpieces, houtcome⟩

end Setting

/-- Reads a text to its end as a sequence. -/
def wholeSequence : PatternReader (List Piece) := do
  let s ← get
  checkDangling s.units s.total
  let pieces ← sequence false {} (4 * s.total + 4) []
  if (← get).units.isEmpty then return pieces else failBack .unbalanced 0

/-- A text stands alone: it is by itself a sequence of a regular expression, and its groups only
hold their parts together. -/
def standsAlone (text : List Char) : Bool :=
  opensPlainly text && (wholeSequence (.ofText text)).toBool

/-- A sequence does not begin with the sign of a repetition. -/
theorem sequence_sign_ne_ok {c : Char} (hc : c = '?' ∨ c = '+') (first : Bool) (fuel : Nat)
    (s : PatternState) (position : Nat) (rest : List Char) (r : List Piece × PatternState) :
  sequence first {} (fuel + 1) [] (s.facing position (c :: rest)) ≠ .ok r
  := by
  have hfails : ∀ (next : List Part → PatternReader (List Piece)) least most,
      Fails (advance >>= fun _ => repeatLast position least most [] >>= next) :=
    fun next least most => Fails.after (fun _ _ => ⟨_, rfl⟩) advance
  obtain rfl | rfl := hc
  all_goals
    rw [sequence, bind_of_ok (peek?_facing s position (by decide))]
    intro hrun
  · obtain ⟨e, herror⟩ := hfails (sequence first {} fuel) 0 (some 1) (s.facing position _)
    exact absurd (herror.symm.trans hrun) (by simp)
  · obtain ⟨e, herror⟩ := hfails (sequence first {} fuel) 1 none (s.facing position _)
    exact absurd (herror.symm.trans hrun) (by simp)

theorem wholeSequence_eq_ok {text : List Char} {pieces : List Piece} {s' : PatternState}
    (h : wholeSequence (.ofText text) = .ok (pieces, s')) :
  text ≠ ['\\'] ∧ s'.units = []
    ∧ sequence false {} (4 * text.length + 4) [] (.ofText text) = .ok (pieces, s')
  := by
  rw [wholeSequence] at h
  obtain ⟨_, _, ⟨⟩, hchecked⟩ := bind_eq_ok.mp h
  obtain ⟨_, m, hdangling, hread⟩ := bind_eq_ok.mp hchecked
  have hcheck : checkDangling (PatternUnit.split 0 text) text.length = .ok ()
      ∧ m = .ofText text := by
    change (checkDangling (PatternUnit.split 0 text) text.length).bind _ = _ at hdangling
    cases hcheck : checkDangling (PatternUnit.split 0 text) text.length with
    | error e =>
        rw [hcheck] at hdangling
        cases hdangling
    | ok _ =>
        rw [hcheck] at hdangling
        cases hdangling
        exact ⟨rfl, rfl⟩
  rw [hcheck.2] at hread
  obtain ⟨found, m', hsequence, hlast⟩ := bind_eq_ok.mp hread
  obtain ⟨_, _, ⟨⟩, hend⟩ := bind_eq_ok.mp hlast
  split at hend
  · next hunits =>
      cases hend
      exact ⟨checkDangling_eq_ok.mp hcheck.1, List.isEmpty_iff.mp hunits, hsequence⟩
  · cases hend

/-- What a text that stands alone is read as. -/
structure Stands (text : List Char) (pieces : List Piece) : Prop where
  goesOn : GoesOn text
  harmless : ∀ p ∈ pieces, Harmless p
  reads {border : Char} (hborder : border ∈ borders) (more : List Char) :
    ReadsBefore (border :: more) text (fun _ => pieces) []
  nothing : text = [] → pieces = []

/-- **A text that stands alone is read in a pattern as it is read alone.** -/
theorem exists_stands {text : List Char} (h : standsAlone text = true) :
  ∃ pieces, Stands text pieces
  := by
  obtain ⟨hopen, hread⟩ := Bool.and_eq_true_iff.mp h
  obtain ⟨pieces, s', hwhole⟩ : ∃ pieces s', wholeSequence (.ofText text) = .ok (pieces, s') := by
    cases hresult : wholeSequence (.ofText text) with
    | error e =>
        rw [hresult] at hread
        cases hread
    | ok r => exact ⟨r.1, r.2, rfl⟩
  obtain ⟨hclosed, hunits, hsequence⟩ := wholeSequence_eq_ok hwhole
  have hread : ∀ (E : Setting), E.alone = .ofText text → ∀ (first : Bool) (fuel position : Nat)
      (found : List Part), 4 * text.length ≤ fuel →
      ∃ (fuel' position' : Nat) (parts : List Part), fuel ≤ fuel' + text.length ∧ Quiet parts
        ∧ parts.reverse.flatMap Part.pieces = pieces
        ∧ sequence first {} fuel found (E.whole.facing position (text ++ E.behind))
          = sequence first {} fuel' (parts ++ found) (E.whole.facing position' E.behind) := by
    intro E halone first fuel position found hfuel
    have hrun : sequence false {} (4 * text.length + 4) [] (E.alone.facing 0 text)
        = .ok (pieces, s') := by
      rw [halone]
      exact hsequence
    exact E.runs_sequence_whole found hopen (Nat.le_add_right _ 3) hfuel (by simp [Quiet]) hclosed 0
      position pieces s' hrun hunits
  have hsign : ∀ c, c = '?' ∨ c = '+' → text.head? ≠ some c := by
    intro c hc hhead
    obtain ⟨rest, rfl⟩ := List.head?_eq_some_iff.mp hhead
    exact sequence_sign_ne_ok hc false _ (.ofText (c :: rest)) 0 rest _ hsequence
  refine ⟨pieces, ⟨hclosed, hsign '?' (.inl rfl), hsign '+' (.inr rfl)⟩, ?_, ?_, ?_⟩
  · obtain ⟨_, _, parts, -, hquiet, rfl, -⟩ := hread
      ⟨.ofText text, .ofText text, '/', [], by decide, rfl, rfl, Nat.le_refl 1⟩ rfl false _ 0 []
      (Nat.le_refl _)
    exact hquiet.pieces
  · intro border hborder more
    constructor
    intro s fuel hflags hfuel first position found
    obtain ⟨fuel', position', parts, hfuel', -, hpieces, hrun⟩ := hread
      ⟨.ofText text, s, border, more, hborder, rfl, hflags, Nat.le_refl 1⟩ rfl first fuel position
      found hfuel
    refine ⟨fuel', position', parts.reverse, hfuel', hpieces, ?_⟩
    rw [List.reverse_reverse, PatternState.withGroups, List.append_nil]
    exact hrun
  · rintro rfl
    cases hsequence
    rfl

end PatternReader

end AccessControl
