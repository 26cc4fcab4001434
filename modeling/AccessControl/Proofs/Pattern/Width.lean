import AccessControl.Proofs.Pattern.Replacement

/-!
# The least width of a match

How many characters every match of an expression takes at least, `Regex.leastWidth_le`, whatever
else the expression looks at, and hence how long the parts are that a replacement hides,
`Regex.replaced_leastWidth`.
-/

namespace AccessControl

namespace MatchWays

/-- The rest of a match ends at a place from a place behind some number of characters or more. -/
def Covers (n : Nat) (s : Cursor) (k : Continuation) (t : Cursor) : Prop :=
  ∃ taken m, s.Passes taken m ∧ n ≤ taken.length ∧ k m = .reached t

/-- Every place that is handed on is behind some number of characters or more. -/
def Covering (n : Nat) (ways : MatchWays) : Prop :=
  ∀ s t k, ways s k = .reached t → Covers n s k t

section Widths

variable {n m : Nat} {s t u : Cursor} {k : Continuation} {ways more : MatchWays}

theorem Covers.mono (hn : m ≤ n) (h : Covers n s k t) :
  Covers m s k t
  := by
  obtain ⟨taken, u, hpasses, hlength, hu⟩ := h
  exact ⟨taken, u, hpasses, Nat.le_trans hn hlength, hu⟩

theorem Covers.after {taken : List Char} (hpasses : s.Passes taken u) (h : Covers n u k t) :
  Covers (taken.length + n) s k t
  := by
  obtain ⟨behind, v, hbehind, hlength, hv⟩ := h
  use taken ++ behind, v, hpasses.append hbehind
  constructor
  · rw [List.length_append]
    apply Nat.add_le_add_left hlength
  · apply hv

theorem Forward.covering (h : Forward ways) :
  Covering 0 ways
  := by
  intro s t k hreached
  obtain ⟨taken, u, hpasses, hu⟩ := h s t k hreached
  exact ⟨taken, u, hpasses, Nat.zero_le _, hu⟩

/-- What is matched in turn has the characters of both parts. -/
theorem Covering.seq (h : Covering n ways) (hmore : Covering m more) :
  Covering (n + m) (fun s k => ways s fun t => more t k)
  := by
  intro s t k hreached
  obtain ⟨taken, u, hpasses, hlength, hu⟩ := h _ _ _ hreached
  apply Covers.mono (Nat.add_le_add_right hlength m)
  apply Covers.after hpasses (hmore _ _ _ hu)

theorem Covering.rounds (h : Covering n ways) (hmore : Forward more) (count : Nat) :
  Covering (count * n) (rounds ways more count)
  := by
  induction count with
  | zero =>
      rw [Nat.zero_mul]
      apply hmore.covering
  | succ count ih =>
      rw [Nat.succ_mul, Nat.add_comm]
      apply h.seq ih

theorem Covering.once (h : Covering n ways) :
  Covering n (once ways)
  := by
  intro s t k hreached
  rw [MatchWays.once] at hreached
  split at hreached
  · next u hu =>
      obtain ⟨taken, v, hpasses, hlength, hv⟩ := h s u .reached hu
      cases hv
      exact ⟨taken, u, hpasses, hlength, hreached⟩
  · cases hreached

theorem covers_step {p : Char → Bool} (h : goOn s (s.step? p) k = .reached t) :
  Covers 1 s k t
  := by
  cases hstep : s.step? p with
  | none =>
      rw [hstep] at h
      cases h
  | some u =>
      rw [hstep] at h
      obtain ⟨c, -, hmoves⟩ := Cursor.step?_eq_some.mp hstep
      exact ⟨[c], u, hmoves.passes, Nat.le_refl 1, h⟩

end Widths

end MatchWays

namespace Regex

open MatchWays

/-- The least number of characters that a match takes.  What only looks at the text takes none, and
neither may a group that is found again. -/
def leastWidth : Regex → Nat
  | .any _ | .one _ => 1
  | .seq q r => q.leastWidth + r.leastWidth
  | .alt q r | .conditional _ q r => min q.leastWidth r.leastWidth
  | .group _ r | .atomic r => r.leastWidth
  | .repeated _ least _ r => least * r.leastWidth
  | .empty | .anchor _ | .backref _ _ | .lookahead _ _ | .lookbehind _ _ _ => 0

/-- **A match takes its least width.**  Whatever the expression, its ways lead behind that many
characters or more. -/
theorem covering_ways (r : Regex) (around : Surroundings) :
  Covering r.leastWidth (ways around r)
  := by
  induction r generalizing around with
  | empty | anchor | backref | lookahead | lookbehind => exact (forward_ways _ around).covering
  | any newline =>
      intro s t k h
      rw [ways] at h
      apply covers_step h
  | one cls =>
      intro s t k h
      rw [ways] at h
      apply covers_step h
  | seq q r ihq ihr =>
      intro s t k h
      rw [ways] at h
      apply (ihq around).seq (ihr around) _ _ _ h
  | alt q r ihq ihr =>
      intro s t k h
      rw [ways] at h
      obtain hq | ⟨s', hpasses, hr⟩ := Surroundings.of_either h
      · apply Covers.mono (Nat.min_le_left _ _) (ihq around _ _ _ hq)
      · obtain hr | ⟨_, _, hnone⟩ := Surroundings.of_either hr
        · have hcovers := (ihr around _ _ _ hr).after hpasses
          rw [List.length_nil, Nat.zero_add] at hcovers
          apply hcovers.mono (Nat.min_le_right _ _)
        · cases hnone
  | group index r ih =>
      intro s t k h
      rw [ways] at h
      obtain ⟨taken, m, hpasses, hlength, hm⟩ := ih around _ _ _ h
      exact ⟨taken, _, .marked s _ _ hpasses, hlength, hm⟩
  | atomic r ih =>
      intro s t k h
      rw [ways] at h
      apply (ih around).once _ _ _ h
  | repeated mode least most r ih =>
      intro s t k h
      cases mode <;> rw [ways] at h
      case greedy =>
        exact (ih _).rounds (forward_greedy _ (forward_ways r _) _ _ _) least _ _ _ h
      case lazy =>
        exact (ih _).rounds (forward_lazy _ (forward_ways r _) _ _ _) least _ _ _ h
      case possessive =>
        exact (ih _).once.rounds (forward_possessive (forward_ways r _) _ _) least _ _ _ h
  | conditional index q r ihq ihr =>
      intro s t k h
      rw [ways] at h
      split at h
      · apply Covers.mono (Nat.min_le_left _ _) (ihq around _ _ _ h)
      · apply Covers.mono (Nat.min_le_right _ _) (ihr around _ _ _ h)

theorem leastWidth_le {r : Regex} {s t : Cursor} (h : r.matchAt s = some t) :
  ∃ taken, r.leastWidth ≤ taken.length ∧ s.Passes taken t
  := by
  rw [matchAt] at h
  cases hway : MatchWays.first (ways .whole r) s with
  | refused marks =>
      rw [hway] at h
      cases h
  | reached u =>
      rw [hway] at h
      cases h
      obtain ⟨taken, m, hpasses, hlength, hm⟩ := r.covering_ways .whole _ _ _ hway
      cases hm
      exact ⟨taken, hlength, hpasses⟩

/-- A replacement hides parts of the text of the least width of the expression or more. -/
theorem replaced_leastWidth (r : Regex) (mark text : List Char) :
  Replaced (fun taken => r.leastWidth ≤ taken.length) (fun _ => True) mark text
    (r.replaceAll [.chars mark] text)
  :=
  replaced_replaceFrom (s := .start text) (fun _ _ => trivial) (fun _ _ => leastWidth_le)
    (Nat.lt_succ_self _)

end Regex

end AccessControl
