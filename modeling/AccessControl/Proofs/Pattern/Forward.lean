import AccessControl.Pattern.Regex.Replace
import AccessControl.Proofs.Pattern.Ways

/-!
# Matches go forward

Whatever an expression looks at and whatever marks it sets, a match of it ends at a place further on
in the same text, `Regex.forward_ways`.  For expressions that do not look about, the texts they take
are known, `Regex.Takes`: a match takes one of them, and where one of them stands there is a match.
-/

namespace AccessControl

open MatchWays (Explores)

/-! ### Going on in a text -/

namespace Cursor

/-- From one place in a text to another behind some characters, whatever marks are set on the
way. -/
structure Passes (s : Cursor) (taken : List Char) (t : Cursor) : Prop where
  rest : s.rest = taken ++ t.rest
  before : t.before = taken.reverse ++ s.before
  position : t.position = s.position + taken.length

theorem Moves.passes {s t : Cursor} {taken : List Char} (h : s.Moves taken t) :
  s.Passes taken t
  := ⟨h.rest, h.before, h.position⟩

namespace Passes

variable {s t u : Cursor} {taken more : List Char}

theorem append (h : s.Passes taken t) (h' : t.Passes more u) :
  s.Passes (taken ++ more) u
  := by
  constructor
  · rw [h.rest, h'.rest, List.append_assoc]
  · rw [h'.before, h.before, List.reverse_append, List.append_assoc]
  · rw [h'.position, h.position, List.length_append, Nat.add_assoc]

/-- Marks are set without leaving the place. -/
theorem of_marks (s : Cursor) (marks : Marks) :
  s.Passes [] { s with marks }
  := ⟨rfl, rfl, rfl⟩

/-- A group goes past what it takes. -/
theorem marked {m : Cursor} (s : Cursor) (i j : Nat) (h : (s.mark i).Passes taken m) :
  s.Passes taken (m.mark j)
  := ⟨h.rest, h.before, h.position⟩

/-- A place is found again from where it was passed. -/
theorem take_rest (h : s.Passes taken t) :
  s.rest.take (t.position - s.position) = taken
  := by
  rw [h.rest, h.position, Nat.add_sub_cancel_left, List.take_left]

end Passes

end Cursor

theorem Surroundings.passes_retry (around : Surroundings) (s : Cursor) (marks : Marks) :
  s.Passes [] (around.retry s marks)
  := by
  cases around <;> exact .of_marks s _

/-- The outcome of two attempts is reached by the first, or by the second from the same place. -/
theorem Surroundings.of_either {around : Surroundings} {s t : Cursor} {first : Outcome}
    {second : Cursor → Outcome} (h : around.either s first second = .reached t) :
  first = .reached t ∨ ∃ s', s.Passes [] s' ∧ second s' = .reached t
  := by
  cases first with
  | reached u => exact .inl h
  | refused marks => exact .inr ⟨around.retry s marks, around.passes_retry s marks, h⟩

namespace MatchWays

/-- The rest of a match ends at a place from a place further on in the same text. -/
def Advances (s : Cursor) (k : Continuation) (t : Cursor) : Prop :=
  ∃ taken m, s.Passes taken m ∧ k m = .reached t

theorem Advances.here {s t : Cursor} {k : Continuation} (h : k s = .reached t) :
  Advances s k t
  := ⟨[], s, (Cursor.Moves.nil s).passes, h⟩

theorem Advances.after {s m t : Cursor} {k : Continuation} {taken : List Char}
    (hpasses : s.Passes taken m) (h : Advances m k t) :
  Advances s k t
  := by
  obtain ⟨more, u, hmore, hu⟩ := h
  exact ⟨taken ++ more, u, hpasses.append hmore, hu⟩

/-- Every place that is handed on is further on in the same text. -/
def Forward (ways : MatchWays) : Prop :=
  ∀ s t k, ways s k = .reached t → Advances s k t

variable {ways : MatchWays}

theorem Forward.of_first {s t : Cursor} (h : Forward ways) (ht : ways.first s = .reached t) :
  ∃ taken, s.Passes taken t
  := by
  obtain ⟨taken, m, hpasses, hm⟩ := h s t .reached ht
  cases hm
  exact ⟨taken, hpasses⟩

theorem forward_greedy (around : Surroundings) (h : Forward ways) (fuel : Nat)
    (left last : Option Nat) :
  Forward (greedy around ways fuel left last)
  := by
  induction fuel generalizing left last with
  | zero => exact fun _ _ _ => .here
  | succ fuel ih =>
      intro s t k hreached
      rw [greedy] at hreached
      split at hreached
      · exact .here hreached
      · obtain hmore | ⟨s', hpasses, hstop⟩ := Surroundings.of_either hreached
        · obtain ⟨taken, m, htaken, hm⟩ := h _ _ _ hmore
          exact .after htaken (ih _ _ _ _ _ hm)
        · exact ⟨[], s', hpasses, hstop⟩

theorem forward_lazy (around : Surroundings) (h : Forward ways) (fuel : Nat)
    (left last : Option Nat) :
  Forward (lazy around ways fuel left last)
  := by
  induction fuel generalizing left last with
  | zero => exact fun _ _ _ => .here
  | succ fuel ih =>
      intro s t k hreached
      rw [lazy] at hreached
      obtain hstop | ⟨s', hpasses, hmore⟩ := Surroundings.of_either hreached
      · exact .here hstop
      · split at hmore
        · cases hmore
        · obtain ⟨taken, m, htaken, hm⟩ := (h _ _ _ hmore).after hpasses
          exact .after htaken (ih _ _ _ _ _ hm)

theorem passes_possessive (h : Forward ways) (fuel : Nat) (left : Option Nat) (s : Cursor) :
  ∃ taken, s.Passes taken (possessive ways fuel left s)
  := by
  induction fuel generalizing left s with
  | zero => exact ⟨[], (Cursor.Moves.nil s).passes⟩
  | succ fuel ih =>
      rw [possessive]
      split
      · exact ⟨[], (Cursor.Moves.nil s).passes⟩
      · split
        · exact ⟨[], (Cursor.Moves.nil s).passes⟩
        · next t ht =>
            obtain ⟨taken, htaken⟩ := h.of_first ht
            split
            · exact ⟨taken, htaken⟩
            · obtain ⟨more, hmore⟩ := ih (left.map (· - 1)) t
              exact ⟨taken ++ more, htaken.append hmore⟩

theorem forward_possessive (h : Forward ways) (fuel : Nat) (left : Option Nat) :
  Forward (fun s k => k (possessive ways fuel left s))
  := by
  intro s t k hreached
  obtain ⟨taken, htaken⟩ := passes_possessive h fuel left s
  exact ⟨taken, _, htaken, hreached⟩

theorem forward_rounds {more : MatchWays} (h : Forward ways) (hmore : Forward more) (n : Nat) :
  Forward (rounds ways more n)
  := by
  induction n with
  | zero => exact hmore
  | succ n ih =>
      intro s t k hreached
      obtain ⟨taken, m, htaken, hm⟩ := h _ _ _ hreached
      exact .after htaken (ih _ _ _ hm)

theorem forward_once (h : Forward ways) :
  Forward (once ways)
  := by
  intro s t k hreached
  rw [once] at hreached
  split at hreached
  · next m hm =>
      obtain ⟨taken, htaken⟩ := h.of_first hm
      exact ⟨taken, m, htaken, hreached⟩
  · cases hreached

theorem advances_goOn {s t : Cursor} {next : Option Cursor} {k : Continuation}
    (h : ∀ m ∈ next, ∃ taken, s.Passes taken m) (hreached : goOn s next k = .reached t) :
  Advances s k t
  := by
  cases next with
  | none => cases hreached
  | some m =>
      obtain ⟨taken, htaken⟩ := h m rfl
      exact ⟨taken, m, htaken, hreached⟩

theorem passes_sameText (rule : CaseRule) (text : List Char) (s : Cursor) :
  ∀ m ∈ sameText rule text s, ∃ taken, s.Passes taken m
  := by
  induction text generalizing s with
  | nil =>
      rintro _ ⟨⟩
      exact ⟨[], (Cursor.Moves.nil s).passes⟩
  | cons c text ih =>
      intro m hm
      rw [sameText] at hm
      split at hm
      · cases hm
      · next t ht =>
          obtain ⟨d, -, hstep⟩ := Cursor.step?_eq_some.mp ht
          obtain ⟨more, hmore⟩ := ih t m hm
          exact ⟨[d] ++ more, hstep.passes.append hmore⟩

/-- A look at the text goes on from the same place. -/
theorem advances_look {around : Surroundings} {negated : Bool} {s t : Cursor}
    {seen : Option Outcome} {k : Continuation} (h : look around negated s seen k = .reached t) :
  Advances s k t
  := by
  cases seen with
  | none =>
      cases negated with
      | false => cases h
      | true => exact .here h
  | some outcome =>
      cases outcome <;> cases negated
      case reached.false u => exact ⟨[], _, .of_marks s u.marks, h⟩
      case refused.true marks => exact ⟨[], _, around.passes_retry s marks, h⟩
      all_goals cases h

end MatchWays

namespace Regex

open MatchWays

/-- **A match goes forward.**  Whatever the expression, its ways lead further on in the same
text. -/
theorem forward_ways (r : Regex) (around : Surroundings) :
  Forward (ways around r)
  := by
  have hstep : ∀ (p : Char → Bool) (s : Cursor), ∀ m ∈ s.step? p, ∃ taken, s.Passes taken m := by
    intro p s m hm
    obtain ⟨c, -, hmoves⟩ := Cursor.step?_eq_some.mp hm
    exact ⟨[c], hmoves.passes⟩
  induction r generalizing around with
  | empty =>
      intro s t k h
      rw [ways] at h
      exact .here h
  | any newline =>
      intro s t k h
      rw [ways] at h
      exact advances_goOn (hstep _ s) h
  | one cls =>
      intro s t k h
      rw [ways] at h
      exact advances_goOn (hstep _ s) h
  | anchor a =>
      intro s t k h
      rw [ways] at h
      split at h
      · exact .here h
      · cases h
  | seq q r ihq ihr =>
      intro s t k h
      rw [ways] at h
      obtain ⟨taken, m, htaken, hm⟩ := ihq around _ _ _ h
      exact .after htaken (ihr around _ _ _ hm)
  | alt q r ihq ihr =>
      intro s t k h
      rw [ways] at h
      obtain hq | ⟨s', hpasses, hr⟩ := Surroundings.of_either h
      · exact ihq around _ _ _ hq
      · obtain hr | ⟨_, _, hnone⟩ := Surroundings.of_either hr
        · exact .after hpasses (ihr around _ _ _ hr)
        · cases hnone
  | group index r ih =>
      intro s t k h
      rw [ways] at h
      obtain ⟨taken, m, htaken, hm⟩ := (ih around _ _ _ h).after (.of_marks s _)
      exact .after htaken ⟨[], _, .of_marks m _, hm⟩
  | atomic r ih =>
      intro s t k h
      rw [ways] at h
      exact forward_once (ih around) _ _ _ h
  | repeated mode least most r ih =>
      intro s t k h
      cases mode <;> rw [ways] at h
      case greedy =>
        exact forward_rounds (ih _) (forward_greedy _ (ih _) _ _ _) least _ _ _ h
      case lazy =>
        exact forward_rounds (ih _) (forward_lazy _ (ih _) _ _ _) least _ _ _ h
      case possessive =>
        exact forward_rounds (forward_once (ih _)) (forward_possessive (ih _) _ _) least _ _ _ h
  | backref index rule =>
      intro s t k h
      rw [ways] at h
      refine advances_goOn ?_ h
      intro m hm
      obtain ⟨text, -, htext⟩ := Option.bind_eq_some_iff.mp hm
      exact passes_sameText rule text s m htext
  | conditional index q r ihq ihr =>
      intro s t k h
      rw [ways] at h
      split at h
      · exact ihq around _ _ _ h
      · exact ihr around _ _ _ h
  | lookahead negated r _ =>
      intro s t k h
      rw [ways] at h
      exact advances_look h
  | lookbehind negated width r _ =>
      intro s t k h
      rw [ways] at h
      exact advances_look h

/-! ### Texts that are taken -/

/-- A choice leads where one of its sides leads. -/
theorem explores_alt {q r : Regex} {Q R : Cursor → Cursor → Prop}
    (hq : Explores (ways .whole q) Q) (hr : Explores (ways .whole r) R) :
  Explores (ways .whole (.alt q r)) fun s t => Q s t ∨ R s t
  := by
  constructor
  · intro s t k h
    rw [ways] at h
    obtain hfirst | hsecond := of_either h
    · obtain ⟨m, hm, hrest⟩ := hq.sound hfirst
      exact ⟨m, .inl hm, hrest⟩
    · obtain hsecond | hnone := of_either hsecond
      · obtain ⟨m, hm, hrest⟩ := hr.sound hsecond
        exact ⟨m, .inr hm, hrest⟩
      · cases hnone
  · rintro s m t k (hm | hm) h
    all_goals rw [ways]
    · obtain ⟨u, hu⟩ := hq.complete hm h
      exact exists_either (.inl hu)
    · obtain ⟨u, hu⟩ := hr.complete hm h
      obtain ⟨v, hv⟩ : ∃ v, Surroundings.whole.either s (ways .whole r s k)
          (fun s => .refused s.marks) = .reached v := exists_either (.inl hu)
      exact exists_either (.inr hv)

/-- An expression takes the texts that satisfy a condition: a match goes past one of them, and where
one of them stands some way goes past it. -/
inductive Takes (r : Regex) (L : List Char → Prop) : Prop
  | intro (R : Cursor → Cursor → Prop) (explores : Explores (ways .whole r) R)
      (sound : ∀ s t, R s t → ∃ taken, L taken ∧ s.Passes taken t)
      (complete : ∀ s taken rest, L taken → s.rest = taken ++ rest →
        ∃ t, R s t ∧ s.Passes taken t) : Takes r L

variable {q r : Regex} {K L : List Char → Prop}

theorem takes_of_reads (h : r.Reads L) :
  r.Takes L
  := by
  refine ⟨_, h, ?_, ?_⟩
  · rintro s t ⟨taken, htaken, hmoves⟩
    exact ⟨taken, htaken, hmoves.passes⟩
  · intro s taken rest htaken hrest
    obtain ⟨t, hmoves, -⟩ := Cursor.Moves.exists_of_rest hrest
    exact ⟨t, ⟨taken, htaken, hmoves⟩, hmoves.passes⟩

/-- A sequence takes a text of its first part and behind it one of its second. -/
theorem Takes.seq (hq : q.Takes K) (hr : r.Takes L) :
  (Regex.seq q r).Takes fun text => ∃ front behind, text = front ++ behind ∧ K front ∧ L behind
  := by
  obtain ⟨Q, hexplores, hsound, hcomplete⟩ := hq
  obtain ⟨R, hexplores', hsound', hcomplete'⟩ := hr
  refine ⟨_, explores_seq hexplores hexplores', ?_, ?_⟩
  · rintro s t ⟨m, hm, ht⟩
    obtain ⟨front, hfront, hpasses⟩ := hsound s m hm
    obtain ⟨behind, hbehind, hpasses'⟩ := hsound' m t ht
    exact ⟨front ++ behind, ⟨front, behind, rfl, hfront, hbehind⟩, hpasses.append hpasses'⟩
  · rintro s _ rest ⟨front, behind, rfl, hfront, hbehind⟩ hrest
    obtain ⟨m, hm, hpasses⟩ := hcomplete s front (behind ++ rest) hfront
      (by rw [hrest, List.append_assoc])
    have hmore : m.rest = behind ++ rest := by
      rw [hpasses.rest, List.append_assoc] at hrest
      exact List.append_cancel_left hrest
    obtain ⟨t, ht, hpasses'⟩ := hcomplete' m behind rest hbehind hmore
    exact ⟨t, ⟨m, hm, ht⟩, hpasses.append hpasses'⟩

/-- A choice takes the texts of either side. -/
theorem Takes.alt (hq : q.Takes K) (hr : r.Takes L) :
  (Regex.alt q r).Takes fun text => K text ∨ L text
  := by
  obtain ⟨Q, hexplores, hsound, hcomplete⟩ := hq
  obtain ⟨R, hexplores', hsound', hcomplete'⟩ := hr
  refine ⟨fun s t => Q s t ∨ R s t, explores_alt hexplores hexplores', ?_, ?_⟩
  · rintro s t (ht | ht)
    · obtain ⟨taken, htaken, hpasses⟩ := hsound s t ht
      exact ⟨taken, .inl htaken, hpasses⟩
    · obtain ⟨taken, htaken, hpasses⟩ := hsound' s t ht
      exact ⟨taken, .inr htaken, hpasses⟩
  · rintro s taken rest (htaken | htaken) hrest
    · obtain ⟨t, ht, hpasses⟩ := hcomplete s taken rest htaken hrest
      exact ⟨t, .inl ht, hpasses⟩
    · obtain ⟨t, ht, hpasses⟩ := hcomplete' s taken rest htaken hrest
      exact ⟨t, .inr ht, hpasses⟩

/-- A group takes what stands in it. -/
theorem Takes.group (h : r.Takes L) (index : Nat) :
  (Regex.group index r).Takes L
  := by
  obtain ⟨R, hexplores, hsound, hcomplete⟩ := h
  refine ⟨_, explores_group hexplores index, ?_, ?_⟩
  · rintro s _ ⟨m, hm, rfl⟩
    obtain ⟨taken, htaken, hpasses⟩ := hsound _ m hm
    exact ⟨taken, htaken, hpasses.marked s (2 * index) (2 * index + 1)⟩
  · intro s taken rest htaken hrest
    obtain ⟨m, hm, hpasses⟩ := hcomplete (s.mark (2 * index)) taken rest htaken hrest
    exact ⟨_, ⟨m, hm, rfl⟩, hpasses.marked s (2 * index) (2 * index + 1)⟩

/-- An optional character is taken or left out. -/
theorem TakesOne.takes_optional {p : Char → Bool} (h : r.TakesOne p) :
  (repeated .greedy 0 (some 1) r).Takes fun text => text.length ≤ 1 ∧ ∀ c ∈ text, p c = true
  := by
  have hways : ∀ s k, ways .whole (repeated .greedy 0 (some 1) r) s k
      = Surroundings.whole.either s (MatchWays.single p s k) k := by
    intro s k
    rw [ways]
    simp only [h.isSingle, if_true, h.ways_eq, Option.map_some, Nat.sub_zero]
    rw [MatchWays.rounds, MatchWays.greedy, if_neg (by simp)]
    congr 1
  apply takes_of_reads
  constructor
  · intro s t k hreached
    rw [hways] at hreached
    obtain hone | hnone := MatchWays.of_either hreached
    · obtain ⟨c, m, hc, hmoves, hm⟩ := MatchWays.single_sound hone
      exact ⟨m, ⟨[c], ⟨Nat.le_refl 1, by simpa using hc⟩, hmoves⟩, hm⟩
    · exact ⟨s, ⟨[], ⟨Nat.zero_le 1, by simp⟩, .nil s⟩, hnone⟩
  · rintro s m t k ⟨taken, ⟨hlength, htaken⟩, hmoves⟩ hm
    rw [hways]
    apply MatchWays.exists_either
    cases taken with
    | nil =>
        right
        rw [← hmoves.eq_of_nil]
        exact hm
    | cons c more =>
        left
        obtain rfl := List.eq_nil_of_length_eq_zero
          (Nat.le_zero.mp (Nat.le_of_succ_le_succ hlength))
        rw [MatchWays.single_eq (htaken c (List.mem_singleton_self c)) hmoves]
        exact hm

/-- A match goes past a text that the expression takes. -/
theorem Takes.of_matchAt {s t : Cursor} (h : r.Takes L) (ht : r.matchAt s = some t) :
  ∃ taken, L taken ∧ s.Passes taken t
  := by
  obtain ⟨R, hexplores, hsound, -⟩ := h
  exact hsound s t (hexplores.of_first ht)

/-- Where there is no match, no text stands that the expression takes. -/
theorem Takes.not_prefix {s : Cursor} {taken : List Char} (h : r.Takes L)
    (hnone : r.matchAt s = none) (htaken : L taken) :
  ¬ taken <+: s.rest
  := by
  rintro ⟨rest, hrest⟩
  obtain ⟨R, hexplores, -, hcomplete⟩ := h
  obtain ⟨t, ht, -⟩ := hcomplete s taken rest htaken hrest.symm
  have hsome := hexplores.isSome_first.mpr ⟨t, ht⟩
  rw [matchAt] at hnone
  rw [hnone] at hsome
  cases hsome

end Regex

end AccessControl
