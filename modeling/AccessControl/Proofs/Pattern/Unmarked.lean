import AccessControl.Proofs.Pattern.Ways

/-!
# Expressions without groups

An expression that has no groups and looks at nothing but what it takes leaves the marks as they
are, `Regex.Unmarked.keeps_ways`, and what it matches does not depend on them,
`Regex.Unmarked.accord_ways`.  So a group around a part of an expression changes what is marked, and
not what is matched.
-/

namespace AccessControl

/-- The expression has no groups, and looks at nothing but what it takes. -/
def Regex.Unmarked : Regex → Prop
  | .empty | .any _ | .one _ | .anchor _ => True
  | .seq q r | .alt q r => q.Unmarked ∧ r.Unmarked
  | .repeated _ _ _ r => r.Unmarked
  | _ => False

/-! ### Marks are kept -/

/-- The rest of a match leaves marks as they are where it refuses a place. -/
def Continuation.Steady (marks : Marks) (k : Continuation) : Prop :=
  ∀ m lost, m.marks = marks → k m = .refused lost → lost = marks

theorem Continuation.steady_reached (marks : Marks) : Steady marks .reached := by
  rintro m lost - ⟨⟩

theorem Surroundings.retry_marks (around : Surroundings) (s : Cursor) :
  around.retry s s.marks = s
  := by
  cases around <;> rfl

/-- A second attempt begins where the first one did. -/
theorem Surroundings.either_of_refused {around : Surroundings} {s : Cursor} {lost : Marks}
    (h : around = .possessive → lost = s.marks) (second : Cursor → Outcome) :
  around.either s (.refused lost) second = second s
  := by
  cases around with
  | whole => rfl
  | repetition => rfl
  | possessive =>
      obtain rfl := h rfl
      exact congrArg second (retry_marks _ s)

namespace MatchWays

open Continuation (Steady)

/-- Ways from a place lead behind some characters and set no marks on the way.  Within a possessive
repetition this presupposes that the rest of the match leaves the marks as they are. -/
structure KeepsFrom (around : Surroundings) (s : Cursor) (run : Continuation → Outcome) :
    Prop where
  reached {t : Cursor} {k : Continuation} (hk : around = .possessive → Steady s.marks k)
    (h : run k = .reached t) : ∃ taken m, s.Moves taken m ∧ k m = .reached t
  refused {lost : Marks} {k : Continuation} (hk : Steady s.marks k) (h : run k = .refused lost) :
    lost = s.marks

/-- Ways that set no marks. -/
abbrev Keeps (around : Surroundings) (ways : MatchWays) : Prop :=
  ∀ s, KeepsFrom around s (ways s)

variable {around : Surroundings} {s : Cursor} {run : Continuation → Outcome}

namespace KeepsFrom

theorem here (around : Surroundings) (s : Cursor) : KeepsFrom around s fun k => k s :=
  ⟨fun _ h => ⟨[], s, .nil s, h⟩, fun hk h => hk s _ rfl h⟩

theorem nowhere (around : Surroundings) (s : Cursor) :
  KeepsFrom around s fun _ => .refused s.marks
  := by
  constructor
  · rintro t k - ⟨⟩
  · rintro lost k - ⟨⟩
    rfl

/-- Ways within a repetition presuppose nothing. -/
theorem of_repetition (h : KeepsFrom .repetition s run) (around : Surroundings) :
  KeepsFrom around s run
  := ⟨fun _ => h.reached (by rintro ⟨⟩), h.refused⟩

theorem steady {more : MatchWays} {k : Continuation} (hmore : Keeps around more)
    (hk : Steady s.marks k) :
  Steady s.marks fun m => more m k
  := by
  intro m lost hm hlost
  rw [← hm] at hk ⊢
  exact (hmore m).refused hk hlost

theorem andThen {more : MatchWays} (h : KeepsFrom around s run) (hmore : Keeps around more) :
  KeepsFrom around s fun k => run fun m => more m k
  := by
  constructor
  · intro t k hk hreached
    obtain ⟨taken, m, htaken, hm⟩ := h.reached (fun hp => steady hmore (hk hp)) hreached
    rw [← htaken.marks] at hk
    obtain ⟨others, u, hothers, hu⟩ := (hmore m).reached hk hm
    exact ⟨taken ++ others, u, htaken.append hothers, hu⟩
  · intro lost k hk hrefused
    exact h.refused (steady hmore hk) hrefused

theorem orElse (h : KeepsFrom around s run) (second : Cursor → Continuation → Outcome)
    (hsecond : KeepsFrom around s (second s)) :
  KeepsFrom around s fun k => around.either s (run k) fun s => second s k
  := by
  constructor
  · intro t k hk hreached
    cases hfirst : run k with
    | reached u =>
        rw [hfirst] at hreached
        cases hreached
        exact h.reached hk hfirst
    | refused lost =>
        rw [hfirst, Surroundings.either_of_refused fun hp => h.refused (hk hp) hfirst] at hreached
        exact hsecond.reached hk hreached
  · intro lost k hk hrefused
    cases hfirst : run k with
    | reached u =>
        rw [hfirst] at hrefused
        cases hrefused
    | refused lost' =>
        rw [hfirst, Surroundings.either_of_refused fun _ => h.refused hk hfirst] at hrefused
        exact hsecond.refused hk hrefused

end KeepsFrom

variable {ways : MatchWays}

/-- The first way leads behind some characters and sets no marks. -/
theorem Keeps.of_first {t : Cursor} (h : Keeps around ways) (ht : ways.first s = .reached t) :
  ∃ taken, s.Moves taken t
  := by
  obtain ⟨taken, m, htaken, ⟨⟩⟩ :=
    (h s).reached (fun _ => Continuation.steady_reached s.marks) ht
  exact ⟨taken, htaken⟩

theorem keeps_single (around : Surroundings) (p : Char → Bool) :
  Keeps around (single p)
  := by
  intro s
  constructor
  · intro t k _ h
    obtain ⟨c, m, -, hmoves, hm⟩ := single_sound h
    exact ⟨[c], m, hmoves, hm⟩
  · intro lost k hk h
    rw [single] at h
    cases hm : s.step? p with
    | none =>
        rw [hm] at h
        cases h
        rfl
    | some m =>
        rw [hm] at h
        obtain ⟨c, -, hmoves⟩ := Cursor.step?_eq_some.mp hm
        exact hk m lost hmoves.marks h

theorem keeps_greedy (h : Keeps around ways) (fuel : Nat) (left last : Option Nat) :
  Keeps around (greedy around ways fuel left last)
  := by
  induction fuel generalizing left last with
  | zero => exact KeepsFrom.here around
  | succ fuel ih =>
      intro s
      by_cases hend : left = some 0 ∨ last = some s.position
      · simp only [greedy, if_pos hend]
        exact .here around s
      · simp only [greedy, if_neg hend]
        exact ((h s).andThen (ih _ _)).orElse (fun s k => k s) (.here around s)

theorem keeps_lazy (h : Keeps around ways) (fuel : Nat) (left last : Option Nat) :
  Keeps around (lazy around ways fuel left last)
  := by
  induction fuel generalizing left last with
  | zero => exact KeepsFrom.here around
  | succ fuel ih =>
      intro s
      apply (KeepsFrom.here around s).orElse (fun s k =>
        if left = some 0 ∨ last = some s.position then .refused s.marks
        else ways s fun t => lazy around ways fuel (left.map (· - 1)) (some s.position) t k)
      by_cases hend : left = some 0 ∨ last = some s.position
      · simp only [if_pos hend]
        exact .nowhere around s
      · simp only [if_neg hend]
        exact (h s).andThen (ih _ _)

theorem keeps_rounds {more : MatchWays} (h : Keeps around ways) (hmore : Keeps around more)
    (n : Nat) :
  Keeps around (rounds ways more n)
  := by
  induction n with
  | zero => exact hmore
  | succ n ih => exact fun s => (h s).andThen ih

/-- Whatever the surroundings of a repetition, only the first way of a round is tried. -/
theorem keeps_once (h : Keeps around ways) (around' : Surroundings) :
  Keeps around' (once ways)
  := by
  intro s
  constructor
  · intro t k _ hreached
    rw [once] at hreached
    split at hreached
    · next m hm =>
        obtain ⟨taken, htaken⟩ := h.of_first hm
        exact ⟨taken, m, htaken, hreached⟩
    · cases hreached
  · intro lost k hk hrefused
    rw [once] at hrefused
    split at hrefused
    · next m hm =>
        obtain ⟨taken, htaken⟩ := h.of_first hm
        exact hk m lost htaken.marks hrefused
    · next marks hm =>
        cases hrefused
        exact (h s).refused (Continuation.steady_reached s.marks) hm

theorem moves_possessive (h : Keeps around ways) (fuel : Nat) (left : Option Nat) (s : Cursor) :
  ∃ taken, s.Moves taken (possessive ways fuel left s)
  := by
  induction fuel generalizing left s with
  | zero => exact ⟨[], .nil s⟩
  | succ fuel ih =>
      rw [possessive]
      split
      · exact ⟨[], .nil s⟩
      · split
        · exact ⟨[], .nil s⟩
        · next t ht =>
            obtain ⟨taken, htaken⟩ := h.of_first ht
            split
            · exact ⟨taken, htaken⟩
            · obtain ⟨more, hmore⟩ := ih (left.map (· - 1)) t
              exact ⟨taken ++ more, htaken.append hmore⟩

theorem keeps_possessive (h : Keeps around ways) (left : Option Nat) (fuel : Nat)
    (around' : Surroundings) :
  Keeps around' fun s k => k (possessive ways fuel left s)
  := by
  intro s
  obtain ⟨taken, htaken⟩ := moves_possessive h fuel left s
  exact ⟨fun _ hreached => ⟨taken, _, htaken, hreached⟩, fun hk => hk _ _ htaken.marks⟩

end MatchWays

namespace Regex

open MatchWays

/-- **Without groups nothing is marked.** -/
theorem Unmarked.keeps_ways {r : Regex} (h : r.Unmarked) (around : Surroundings) :
  Keeps around (ways around r)
  := by
  induction r generalizing around with
  | empty => exact KeepsFrom.here around
  | any newline => exact keeps_single around _
  | one cls => exact keeps_single around _
  | anchor a =>
      intro s
      simp only [ways]
      by_cases hat : s.isAt a = true
      · simp only [if_pos hat]
        exact .here around s
      · simp only [if_neg hat]
        exact .nowhere around s
  | seq q r ihq ihr => exact fun s => (ihq h.1 around s).andThen (ihr h.2 around)
  | alt q r ihq ihr =>
      intro s
      apply (ihq h.1 around s).orElse (fun s k =>
        around.either s (ways around r s k) fun s => .refused s.marks)
      exact (ihr h.2 around s).orElse (fun s _ => .refused s.marks) (.nowhere around s)
  | repeated mode least most r ih =>
      let inner := if r.isSingle then around else .repetition
      have hone : Keeps inner (ways inner r) := ih h inner
      -- what is repeated presupposes no more than the repetition
      have hweaken : ∀ {s run}, KeepsFrom inner s run → KeepsFrom around s run := by
        intro s run hrun
        by_cases hsingle : r.isSingle = true
        · rwa [show inner = around from if_pos hsingle] at hrun
        · rw [show inner = .repetition from if_neg hsingle] at hrun
          exact hrun.of_repetition around
      intro s
      cases mode with
      | greedy => exact hweaken (keeps_rounds hone (keeps_greedy hone _ _ _) least s)
      | lazy =>
          have hround : Keeps around (ways inner r) := fun s => hweaken (hone s)
          exact keeps_rounds hround (keeps_lazy hround _ _ _) least s
      | possessive =>
          have hround := ih h around.inPossessive
          exact keeps_rounds (keeps_once hround around) (keeps_possessive hround _ _ around) least s
  | group => cases h
  | atomic => cases h
  | backref => cases h
  | conditional => cases h
  | lookahead => cases h
  | lookbehind => cases h

end Regex

/-! ### Marks do not decide -/

/-- Two cursors are at the same place of a text, whatever their marks. -/
structure Cursor.Meets (s s' : Cursor) : Prop where
  before : s.before = s'.before
  rest : s.rest = s'.rest
  position : s.position = s'.position

namespace Cursor.Meets

variable {s s' : Cursor}

theorem refl (s : Cursor) : s.Meets s := ⟨rfl, rfl, rfl⟩

theorem mark (h : s.Meets s') (mark : Nat) : s.Meets (s'.mark mark) :=
  ⟨h.before, h.rest, h.position⟩

theorem isAt_eq (h : s.Meets s') (a : Anchor) :
  s.isAt a = s'.isAt a
  := by
  cases a <;> simp only [isAt, wordsBeside, h.before, h.rest]

theorem retry (h : s.Meets s') (around around' : Surroundings) (lost lost' : Marks) :
  (around.retry s lost).Meets (around'.retry s' lost')
  := by
  cases around <;> cases around' <;> exact ⟨h.before, h.rest, h.position⟩

/-- Both go past the next character, or neither does. -/
theorem step? (h : s.Meets s') (p : Char → Bool) :
  (s.step? p = none ∧ s'.step? p = none)
    ∨ ∃ t t', s.step? p = some t ∧ s'.step? p = some t' ∧ t.Meets t'
  := by
  obtain ⟨before, rest, position, marks⟩ := s
  obtain ⟨before', rest', position', marks'⟩ := s'
  obtain ⟨hbefore, hrest, hposition⟩ := h
  dsimp only at hbefore hrest hposition
  subst hbefore hrest hposition
  cases rest with
  | nil => exact .inl ⟨rfl, rfl⟩
  | cons c rest =>
      cases hc : p c with
      | false => exact .inl (by simp [Cursor.step?, hc])
      | true => exact .inr ⟨_, _, if_pos hc, if_pos hc, rfl, rfl, rfl⟩

end Cursor.Meets

/-- Two matches end at the same place, or both are refused. -/
inductive Outcome.Meets : Outcome → Outcome → Prop
  | reached {s s' : Cursor} (h : s.Meets s') : Meets (.reached s) (.reached s')
  | refused (lost lost' : Marks) : Meets (.refused lost) (.refused lost')

theorem Surroundings.meets_either {s s' : Cursor} {first first' : Outcome}
    {second second' : Cursor → Outcome} (around around' : Surroundings) (hs : s.Meets s')
    (hfirst : first.Meets first')
    (hsecond : ∀ {m m'}, m.Meets m' → (second m).Meets (second' m')) :
  (around.either s first second).Meets (around'.either s' first' second')
  := by
  cases hfirst with
  | reached h => exact .reached h
  | refused lost lost' => exact hsecond (hs.retry around around' lost lost')

namespace MatchWays

/-- Two expressions lead from the same place to the same places in the same order. -/
structure Accord (ways ways' : MatchWays) : Prop where
  meets {s s' : Cursor} {k k' : Continuation} (hs : s.Meets s')
    (hk : ∀ {m m'}, m.Meets m' → (k m).Meets (k' m')) : (ways s k).Meets (ways' s' k')

variable {ways ways' more more' : MatchWays}

theorem Accord.first (h : Accord ways ways') {s s' : Cursor} (hs : s.Meets s') :
  (ways.first s).Meets (ways'.first s')
  := h.meets hs .reached

theorem Accord.exists_reached (h : Accord ways ways') {s t : Cursor}
    (ht : ways.first s = .reached t) :
  ∃ t', ways'.first s = .reached t'
  := by
  have hmeets := h.first (.refl s)
  rw [ht] at hmeets
  generalize ways'.first s = outcome at hmeets
  cases hmeets with
  | reached => exact ⟨_, rfl⟩

theorem Accord.andThen (h : Accord ways ways') (hmore : Accord more more') :
  Accord (fun s k => ways s fun m => more m k) (fun s k => ways' s fun m => more' m k)
  := ⟨fun hs hk => h.meets hs fun hm => hmore.meets hm hk⟩

theorem accord_single (p : Char → Bool) : Accord (single p) (single p) := by
  constructor
  intro s s' k k' hs hk
  rw [single, single]
  obtain ⟨hs, hs'⟩ | ⟨t, t', hs, hs', ht⟩ := hs.step? p
  · rw [hs, hs']
    exact .refused _ _
  · rw [hs, hs']
    exact hk ht

theorem accord_greedy (around around' : Surroundings) (h : Accord ways ways') (fuel : Nat)
    (left last : Option Nat) :
  Accord (greedy around ways fuel left last) (greedy around' ways' fuel left last)
  := by
  induction fuel generalizing left last with
  | zero => exact ⟨fun hs hk => hk hs⟩
  | succ fuel ih =>
      constructor
      intro s s' k k' hs hk
      rw [greedy, greedy, hs.position]
      split
      · exact hk hs
      · exact Surroundings.meets_either _ _ hs (h.meets hs fun hm => (ih _ _).meets hm hk) hk

theorem accord_lazy (around around' : Surroundings) (h : Accord ways ways') (fuel : Nat)
    (left last : Option Nat) :
  Accord (lazy around ways fuel left last) (lazy around' ways' fuel left last)
  := by
  induction fuel generalizing left last with
  | zero => exact ⟨fun hs hk => hk hs⟩
  | succ fuel ih =>
      constructor
      intro s s' k k' hs hk
      rw [lazy, lazy]
      apply Surroundings.meets_either _ _ hs (hk hs)
      intro m m' hm
      rw [hm.position]
      split
      · exact .refused _ _
      · exact h.meets hm fun hu => (ih _ _).meets hu hk

theorem accord_rounds (h : Accord ways ways') (hmore : Accord more more') (n : Nat) :
  Accord (rounds ways more n) (rounds ways' more' n)
  := by
  induction n with
  | zero => exact hmore
  | succ n ih => exact h.andThen ih

theorem accord_once (h : Accord ways ways') : Accord (once ways) (once ways') := by
  constructor
  intro s s' k k' hs hk
  rw [once, once]
  cases hfirst : ways.first s <;> cases hfirst' : ways'.first s'
  all_goals
    have hmeets := h.first hs
    rw [hfirst, hfirst'] at hmeets
    cases hmeets
  case reached.reached.reached ht => exact hk ht
  case refused.refused.refused => exact .refused _ _

theorem meets_possessive (h : Accord ways ways') (fuel : Nat) (left : Option Nat) {s s' : Cursor}
    (hs : s.Meets s') :
  (possessive ways fuel left s).Meets (possessive ways' fuel left s')
  := by
  induction fuel generalizing left s s' with
  | zero => exact hs
  | succ fuel ih =>
      rw [possessive, possessive]
      split
      · exact hs
      · cases hfirst : ways.first s <;> cases hfirst' : ways'.first s'
        all_goals
          have hmeets := h.first hs
          rw [hfirst, hfirst'] at hmeets
          cases hmeets
        case reached.reached.reached ht =>
            dsimp only
            rw [hs.position, ht.position]
            split
            · exact ht
            · exact ih _ ht
        case refused.refused.refused => exact hs

end MatchWays

namespace Regex

open MatchWays (Accord)

theorem accord_anchor (a : Anchor) (around around' : Surroundings) :
  Accord (ways around (.anchor a)) (ways around' (.anchor a))
  := by
  constructor
  intro s s' k k' hs hk
  rw [ways, ways, hs.isAt_eq a]
  split
  · exact hk hs
  · exact .refused _ _

/-- A group marks where it begins and where it ends, and matches what is in it. -/
theorem accord_group {q r : Regex} {around around' : Surroundings}
    (h : Accord (ways around q) (ways around' r)) (index : Nat) :
  Accord (ways around q) (ways around' (.group index r))
  := by
  constructor
  intro s s' k k' hs hk
  rw [ways.eq_def around' (.group index r)]
  exact h.meets (hs.mark _) fun hm => hk (hm.mark _)

/-- **Marks do not decide what is matched.** -/
theorem Unmarked.accord_ways {r : Regex} (h : r.Unmarked) (around around' : Surroundings) :
  Accord (ways around r) (ways around' r)
  := by
  induction r generalizing around around' with
  | empty => exact ⟨fun hs hk => hk hs⟩
  | any newline => exact MatchWays.accord_single _
  | one cls => exact MatchWays.accord_single _
  | anchor a => exact accord_anchor a around around'
  | seq q r ihq ihr => exact (ihq h.1 around around').andThen (ihr h.2 around around')
  | alt q r ihq ihr =>
      constructor
      intro s s' k k' hs hk
      rw [ways, ways]
      apply Surroundings.meets_either _ _ hs ((ihq h.1 around around').meets hs hk)
      intro m m' hm
      exact Surroundings.meets_either _ _ hm ((ihr h.2 around around').meets hm hk)
        fun _ => .refused _ _
  | repeated mode least most r ih =>
      constructor
      intro s s' k k' hs hk
      have hone := ih h (if r.isSingle then around else .repetition)
        (if r.isSingle then around' else .repetition)
      cases mode <;> rw [ways, ways, hs.rest]
      case greedy =>
        exact (MatchWays.accord_rounds hone
          (MatchWays.accord_greedy _ _ hone _ _ _) least).meets hs hk
      case lazy =>
        exact (MatchWays.accord_rounds hone
          (MatchWays.accord_lazy _ _ hone _ _ _) least).meets hs hk
      case possessive =>
        have hround := ih h around.inPossessive around'.inPossessive
        refine (MatchWays.accord_rounds (MatchWays.accord_once hround) ⟨?_⟩ least).meets hs hk
        exact fun hs hk => hk (MatchWays.meets_possessive hround _ _ hs)
  | group => cases h
  | atomic => cases h
  | backref => cases h
  | conditional => cases h
  | lookahead => cases h
  | lookbehind => cases h

end Regex

end AccessControl
