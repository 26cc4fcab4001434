import AccessControl.Pattern.Regex.Matcher
import Mathlib.Data.List.Basic

/-!
# What a search finds

The ways of an expression lead from a place in a text to other places.  A search through them
ends at one of these places only, and wherever one of them is accepted it ends somewhere,
`MatchWays.Explores`.  Each form of expression has its own places, and a sequence leads to those of
its parts one after the other.
-/

namespace AccessControl

/-! ### Single characters -/

theorem CharClass.contains_code (c d : Char) :
  contains ⟨[.code c.toNat], false, .exact, false⟩ d = true ↔ d = c
  := by
  simp [contains, itemContains, isSingle, CaseRule.equal, CaseRule.variants, CaseRule.lower,
    Char.toNat_inj]

theorem CharClass.contains_not_code (c d : Char) :
  contains ⟨[.code c.toNat], true, .exact, false⟩ d = true ↔ d ≠ c
  := by
  rw [ne_eq, ← contains_code c d]
  simp [contains, itemContains, isSingle]

/-! ### Going through a text -/

namespace Cursor

/-- From one place to another behind some characters; no mark is set on the way. -/
structure Moves (s : Cursor) (taken : List Char) (t : Cursor) : Prop where
  rest : s.rest = taken ++ t.rest
  before : t.before = taken.reverse ++ s.before
  position : t.position = s.position + taken.length
  marks : t.marks = s.marks

namespace Moves

variable {s t u : Cursor} {taken more : List Char}

theorem nil (s : Cursor) : s.Moves [] s := ⟨rfl, rfl, rfl, rfl⟩

theorem append (h : s.Moves taken t) (h' : t.Moves more u) :
  s.Moves (taken ++ more) u
  := by
  constructor
  · rw [h.rest, h'.rest, List.append_assoc]
  · rw [h'.before, h.before, List.reverse_append, List.append_assoc]
  · rw [h'.position, h.position, List.length_append, Nat.add_assoc]
  · rw [h'.marks, h.marks]

/-- There is one place behind the first characters of what follows. -/
theorem exists_of_rest {rest : List Char} (h : s.rest = taken ++ rest) :
  ∃ t, s.Moves taken t ∧ t.rest = rest
  := by
  use ⟨taken.reverse ++ s.before, rest, s.position + taken.length, s.marks⟩
  exact ⟨⟨h, rfl, rfl, rfl⟩, rfl⟩

theorem eq_of_nil (h : s.Moves [] t) :
  t = s
  := by
  obtain ⟨before, rest, position, marks⟩ := t
  obtain ⟨hrest, hbefore, hposition, hmarks⟩ := h
  cases s
  simp_all

/-- There is a place between the first characters and the others. -/
theorem of_append (h : s.Moves (taken ++ more) u) :
  ∃ t, s.Moves taken t ∧ t.Moves more u
  := by
  obtain ⟨t, ht, hrest⟩ := exists_of_rest (h.rest.trans (List.append_assoc taken more u.rest))
  use t, ht
  constructor
  · exact hrest
  · rw [h.before, ht.before, List.reverse_append, List.append_assoc]
  · rw [h.position, ht.position, List.length_append, Nat.add_assoc]
  · rw [h.marks, ht.marks]

/-- There is a place behind the first character. -/
theorem of_cons {c : Char} (h : s.Moves (c :: taken) u) :
  ∃ t, s.Moves [c] t ∧ t.Moves taken u
  := of_append (show s.Moves ([c] ++ taken) u from h)

end Moves

theorem step?_eq_some {p : Char → Bool} {s t : Cursor} :
  s.step? p = some t ↔ ∃ c, p c = true ∧ s.Moves [c] t
  := by
  constructor
  · intro h
    rw [step?] at h
    split at h
    · cases h
    case h_2 c rest hrest =>
      split at h
      · next hc =>
          cases h
          exact ⟨c, hc, hrest, rfl, rfl, rfl⟩
      · cases h
  · rintro ⟨c, hc, hrest, hbefore, hposition, hmarks⟩
    obtain ⟨before, rest, position, marks⟩ := t
    dsimp only at hbefore hposition hmarks hrest
    rw [step?, hrest]
    simp [hc, hbefore, hposition, hmarks]

/-- A place where a line ends is the end of a text of one line. -/
theorem isAt_finish {s : Cursor} (h : '\n' ∉ s.rest) :
  s.isAt .finish = true ↔ s.rest = []
  := by
  rw [isAt, Bool.or_eq_true, List.isEmpty_iff, beq_iff_eq]
  constructor
  · rintro (hempty | hbreak)
    · exact hempty
    · rw [hbreak] at h
      exact absurd (List.mem_singleton_self _) h
  · exact .inl

end Cursor

namespace MatchWays

/-! ### Searches -/

/-- A search through the ways ends where `R` leads, and it ends somewhere if one of the places where
`R` leads is accepted. -/
structure Explores (ways : MatchWays) (R : Cursor → Cursor → Prop) : Prop where
  sound {s t : Cursor} {k : Continuation} (h : ways s k = .reached t) :
    ∃ m, R s m ∧ k m = .reached t
  complete {s m t : Cursor} {k : Continuation} (hm : R s m) (h : k m = .reached t) :
    ∃ u, ways s k = .reached u

variable {ways : MatchWays} {R : Cursor → Cursor → Prop}

namespace Explores

/-- The first place that is reached is one of those where the expression leads. -/
theorem of_first {s t : Cursor} (h : Explores ways R) (ht : (ways.first s).place? = some t) :
  R s t
  := by
  cases hfirst : ways.first s with
  | refused marks =>
      rw [hfirst] at ht
      cases ht
  | reached u =>
      rw [hfirst] at ht
      cases ht
      obtain ⟨m, hm, hreached⟩ := h.sound hfirst
      cases hreached
      exact hm

/-- Some place is reached if the expression leads anywhere. -/
theorem isSome_first (h : Explores ways R) {s : Cursor} :
  (ways.first s).place?.isSome = true ↔ ∃ t, R s t
  := by
  constructor
  · intro hsome
    obtain ⟨t, ht⟩ := Option.isSome_iff_exists.mp hsome
    exact ⟨t, h.of_first ht⟩
  · rintro ⟨t, ht⟩
    obtain ⟨u, hu⟩ := h.complete ht (k := .reached) rfl
    rw [first, hu]
    rfl

theorem congr {R' : Cursor → Cursor → Prop} (h : Explores ways R) (hR : ∀ s t, R s t ↔ R' s t) :
  Explores ways R'
  := by
  have heq : R = R' := by
    funext s t
    rw [hR]
  rw [← heq]
  exact h

end Explores

/-! ### Alternatives -/

/-- The outcome of two attempts is reached by one of them. -/
theorem of_either {s t : Cursor} {first : Outcome} {second : Cursor → Outcome}
    (h : Surroundings.whole.either s first second = .reached t) :
  first = .reached t ∨ second s = .reached t
  := by
  cases first with
  | reached u => exact .inl h
  | refused marks => exact .inr h

/-- Two attempts reach some place if one of them does. -/
theorem exists_either {s t : Cursor} {first : Outcome} {second : Cursor → Outcome}
    (h : first = .reached t ∨ second s = .reached t) :
  ∃ u, Surroundings.whole.either s first second = .reached u
  := by
  cases first with
  | reached u => exact ⟨u, rfl⟩
  | refused marks =>
      obtain hfirst | hsecond := h
      · cases hfirst
      · exact ⟨t, hsecond⟩

/-! ### Repetitions -/

section Repetitions

variable {p : Char → Bool}

/-- Past one character of a kind. -/
def single (p : Char → Bool) : MatchWays := fun s k => goOn s (s.step? p) k

theorem single_sound {s t : Cursor} {k : Continuation} (h : single p s k = .reached t) :
  ∃ c m, p c = true ∧ s.Moves [c] m ∧ k m = .reached t
  := by
  rw [single] at h
  cases hm : s.step? p with
  | none =>
      rw [hm] at h
      cases h
  | some m =>
      rw [hm] at h
      obtain ⟨c, hc, hmoves⟩ := Cursor.step?_eq_some.mp hm
      exact ⟨c, m, hc, hmoves, h⟩

theorem single_eq {s m : Cursor} {c : Char} (hc : p c = true) (h : s.Moves [c] m)
    (k : Continuation) :
  single p s k = k m
  := by
  rw [single, Cursor.step?_eq_some.mpr ⟨c, hc, h⟩]
  rfl

/-- A repetition ends where it starts, or goes on behind one more character. -/
theorem of_greedy {fuel : Nat} {last : Option Nat} {s t : Cursor} {k : Continuation}
    (h : greedy .whole (single p) (fuel + 1) none last s k = .reached t) :
  k s = .reached t ∨ single p s
    (fun m => greedy .whole (single p) fuel none (some s.position) m k) = .reached t
  := by
  rw [greedy] at h
  split at h
  · exact .inl h
  · exact (of_either h).symm

/-- A repetition may end where it starts. -/
theorem greedy_stop {fuel : Nat} {last : Option Nat} {s t : Cursor} {k : Continuation}
    (h : k s = .reached t) :
  ∃ u, greedy .whole (single p) fuel none last s k = .reached u
  := by
  cases fuel with
  | zero => exact ⟨t, h⟩
  | succ fuel =>
      rw [greedy]
      split
      · exact ⟨t, h⟩
      · exact exists_either (.inr h)

/-- A search through the lengths of a run ends behind some run. -/
theorem greedy_sound {fuel : Nat} {last : Option Nat} {s t : Cursor} {k : Continuation}
    (h : greedy .whole (single p) fuel none last s k = .reached t) :
  ∃ taken m, (∀ c ∈ taken, p c = true) ∧ s.Moves taken m ∧ k m = .reached t
  := by
  induction fuel generalizing last s with
  | zero => exact ⟨[], s, by simp, .nil s, h⟩
  | succ fuel ih =>
      obtain hstop | hmore := of_greedy h
      · exact ⟨[], s, by simp, .nil s, hstop⟩
      · obtain ⟨c, next, hc, hmoves, hrest⟩ := single_sound hmore
        obtain ⟨taken, m, htaken, hrun, hm⟩ := ih hrest
        exact ⟨c :: taken, m, List.forall_mem_cons.mpr ⟨hc, htaken⟩, hmoves.append hrun, hm⟩

/-- A search through the lengths of a run ends somewhere if the place behind some run is
accepted. -/
theorem greedy_complete {fuel : Nat} {last : Option Nat} {s m t : Cursor} {k : Continuation}
    {taken : List Char} (hfuel : taken.length ≤ fuel) (hlast : last ≠ some s.position)
    (htaken : ∀ c ∈ taken, p c = true) (hrun : s.Moves taken m) (h : k m = .reached t) :
  ∃ u, greedy .whole (single p) fuel none last s k = .reached u
  := by
  induction taken generalizing fuel last s with
  | nil =>
      rw [hrun.eq_of_nil] at h
      exact greedy_stop h
  | cons c taken ih =>
      obtain ⟨fuel, rfl⟩ : ∃ more, fuel = more + 1 :=
        Nat.exists_eq_add_one_of_ne_zero (Nat.ne_zero_of_lt hfuel)
      obtain ⟨hc, hrest⟩ := List.forall_mem_cons.mp htaken
      obtain ⟨next, hmoves, hmore⟩ := hrun.of_cons
      -- A character has been taken since the latest round began, so this is not the last one.
      have hnext : some s.position ≠ some next.position := by
        rw [hmoves.position]
        simp
      obtain ⟨u, hu⟩ := ih (Nat.le_of_succ_le_succ hfuel) hnext hrest hmore
      rw [greedy, if_neg (by simp [hlast]), single_eq hc hmoves]
      exact exists_either (.inl hu)

/-- A search through the lengths of a run ends behind the longest one that is accepted. -/
theorem greedy_longest {fuel : Nat} {last : Option Nat} {s t : Cursor} {k : Continuation}
    (hfuel : s.rest.length ≤ fuel) (hlast : last ≠ some s.position)
    (h : greedy .whole (single p) fuel none last s k = .reached t) :
  ∃ taken m, (∀ c ∈ taken, p c = true) ∧ s.Moves taken m ∧ k m = .reached t
    ∧ ∀ more u v, more ≠ [] → (∀ c ∈ more, p c = true) → m.Moves more u → k u ≠ .reached v
  := by
  induction fuel generalizing last s with
  | zero =>
      refine ⟨[], s, by simp, .nil s, h, ?_⟩
      intro more u v hne _ hmore
      have hrest := hmore.rest
      rw [List.length_eq_zero_iff.mp (Nat.le_zero.mp hfuel)] at hrest
      exact absurd (List.append_eq_nil_iff.mp hrest.symm).1 hne
  | succ fuel ih =>
      rw [greedy, if_neg (by simp [hlast])] at h
      cases hfirst : single p s fun m =>
          greedy .whole (single p) fuel none (some s.position) m k with
      | reached t' =>
          rw [Option.map_none, hfirst] at h
          cases h
          obtain ⟨c, next, hc, hmoves, hrest⟩ := single_sound hfirst
          have hshort : next.rest.length ≤ fuel := by
            rw [hmoves.rest] at hfuel
            exact Nat.le_of_succ_le_succ hfuel
          have hnext : some s.position ≠ some next.position := by
            rw [hmoves.position]
            simp
          obtain ⟨taken, m, htaken, hrun, hm, hlongest⟩ := ih hshort hnext hrest
          exact ⟨c :: taken, m, List.forall_mem_cons.mpr ⟨hc, htaken⟩, hmoves.append hrun, hm,
            hlongest⟩
      | refused lost =>
          rw [Option.map_none, hfirst] at h
          refine ⟨[], s, by simp, .nil s, h, ?_⟩
          intro more u v hne hall hmore hu
          obtain ⟨c, more, rfl⟩ := List.exists_cons_of_ne_nil hne
          obtain ⟨hc, hall⟩ := List.forall_mem_cons.mp hall
          obtain ⟨next, hmoves, hbehind⟩ := hmore.of_cons
          have hshort : more.length ≤ fuel := by
            rw [hmore.rest, List.length_append, List.length_cons] at hfuel
            omega
          have hnext : some s.position ≠ some next.position := by
            rw [hmoves.position]
            simp
          -- a longer run would have been found where one more character was tried
          obtain ⟨w, hw⟩ := greedy_complete hshort hnext hall hbehind hu
          rw [single_eq hc hmoves, hw] at hfirst
          cases hfirst

/-- Rounds that must be made take one character each. -/
theorem rounds_sound {more : MatchWays} {n : Nat} {s t : Cursor} {k : Continuation}
    (h : rounds (single p) more n s k = .reached t) :
  ∃ taken m, taken.length = n ∧ (∀ c ∈ taken, p c = true) ∧ s.Moves taken m
    ∧ more m k = .reached t
  := by
  induction n generalizing s with
  | zero => exact ⟨[], s, rfl, by simp, .nil s, h⟩
  | succ n ih =>
      rw [rounds] at h
      obtain ⟨c, next, hc, hmoves, hrest⟩ := single_sound h
      obtain ⟨taken, m, hlength, htaken, hrun, hm⟩ := ih hrest
      exact ⟨c :: taken, m, by rw [List.length_cons, hlength],
        List.forall_mem_cons.mpr ⟨hc, htaken⟩, hmoves.append hrun, hm⟩

theorem rounds_complete (more : MatchWays) {s m : Cursor} {taken : List Char}
    (htaken : ∀ c ∈ taken, p c = true) (hrun : s.Moves taken m) (k : Continuation) :
  rounds (single p) more taken.length s k = more m k
  := by
  induction taken generalizing s with
  | nil => rw [hrun.eq_of_nil, List.length_nil, rounds]
  | cons c taken ih =>
      obtain ⟨hc, hrest⟩ := List.forall_mem_cons.mp htaken
      obtain ⟨next, hmoves, hmore⟩ := hrun.of_cons
      rw [List.length_cons, rounds, single_eq hc hmoves, ih hrest hmore]

end Repetitions

end MatchWays

namespace Regex

open MatchWays (Explores)

/-! ### Forms of expression -/

/-- An expression leads behind the texts that satisfy a condition. -/
abbrev Reads (r : Regex) (L : List Char → Prop) : Prop :=
  Explores (ways .whole r) fun s t => ∃ taken, L taken ∧ s.Moves taken t

/-- An expression takes one character of a kind by itself. -/
structure TakesOne (r : Regex) (p : Char → Bool) : Prop where
  isSingle : r.isSingle = true
  ways_eq : ways .whole r = MatchWays.single p

theorem takesOne_any (newline : Bool) :
  (any newline).TakesOne fun c => newline || c != '\n'
  := ⟨rfl, rfl⟩

theorem takesOne_one (cls : CharClass) :
  (one cls).TakesOne cls.contains
  := ⟨rfl, rfl⟩

theorem TakesOne.reads {r : Regex} {p : Char → Bool} (h : r.TakesOne p) :
  r.Reads fun taken => ∃ c, taken = [c] ∧ p c = true
  := by
  constructor
  · intro s t k hreached
    rw [h.ways_eq] at hreached
    obtain ⟨c, m, hc, hmoves, hm⟩ := MatchWays.single_sound hreached
    exact ⟨m, ⟨[c], ⟨c, rfl, hc⟩, hmoves⟩, hm⟩
  · rintro s m t k ⟨_, ⟨c, rfl, hc⟩, hmoves⟩ hm
    use t
    rw [h.ways_eq, MatchWays.single_eq hc hmoves, hm]

/-- A repetition takes any run of at least some length. -/
theorem TakesOne.reads_repeated {r : Regex} {p : Char → Bool} (h : r.TakesOne p) (least : Nat) :
  (repeated .greedy least none r).Reads
    fun taken => least ≤ taken.length ∧ ∀ c ∈ taken, p c = true
  := by
  constructor
  · intro s t k hreached
    rw [ways] at hreached
    simp only [h.isSingle, if_true, h.ways_eq, Option.map_none] at hreached
    obtain ⟨front, m, hlength, hfront, hrun, hrest⟩ := MatchWays.rounds_sound hreached
    obtain ⟨behind, u, hbehind, hmore, hu⟩ := MatchWays.greedy_sound hrest
    refine ⟨u, ⟨front ++ behind, ⟨?_, List.forall_mem_append.mpr ⟨hfront, hbehind⟩⟩,
      hrun.append hmore⟩, hu⟩
    rw [List.length_append, hlength]
    apply Nat.le_add_right
  · rintro s m t k ⟨taken, ⟨hleast, htaken⟩, hrun⟩ hm
    rw [ways]
    simp only [h.isSingle, if_true, h.ways_eq, Option.map_none]
    rw [← List.take_append_drop least taken] at hrun
    obtain ⟨next, hfront, hbehind⟩ := hrun.of_append
    have hlength : (taken.take least).length = least := by
      rw [List.length_take, Nat.min_eq_left hleast]
    have hfuel : (taken.drop least).length ≤ s.rest.length + 2 := by
      rw [hfront.rest, hbehind.rest]
      simp only [List.length_append]
      omega
    let more := MatchWays.greedy .whole (.single p) (s.rest.length + 2) none none
    obtain ⟨u, hu⟩ : ∃ u, more next k = .reached u :=
      MatchWays.greedy_complete hfuel (by simp)
        (fun c hc => htaken c (List.mem_of_mem_drop hc)) hbehind hm
    have hrounds := MatchWays.rounds_complete more
      (fun c hc => htaken c (List.mem_of_mem_take hc)) hfront k
    rw [hlength] at hrounds
    use u
    rw [hrounds, hu]

/-- A repetition takes the longest run that is accepted. -/
theorem TakesOne.longest_repeated {r : Regex} {p : Char → Bool} (h : r.TakesOne p) {least : Nat}
    {s t : Cursor} {k : Continuation}
    (hreached : ways .whole (repeated .greedy least none r) s k = .reached t) :
  ∃ taken m, (∀ c ∈ taken, p c = true) ∧ s.Moves taken m ∧ k m = .reached t
    ∧ ∀ more u v, more ≠ [] → (∀ c ∈ more, p c = true) → m.Moves more u → k u ≠ .reached v
  := by
  rw [ways] at hreached
  simp only [h.isSingle, if_true, h.ways_eq, Option.map_none] at hreached
  obtain ⟨front, m, -, hfront, hrun, hrest⟩ := MatchWays.rounds_sound hreached
  have hfuel : m.rest.length ≤ s.rest.length + 2 := by
    rw [hrun.rest, List.length_append]
    omega
  obtain ⟨behind, u, hbehind, hmore, hu, hlongest⟩ :=
    MatchWays.greedy_longest hfuel (by simp) hrest
  exact ⟨front ++ behind, u, List.forall_mem_append.mpr ⟨hfront, hbehind⟩, hrun.append hmore, hu,
    hlongest⟩

/-- A sequence leads on from where its first part leads. -/
theorem explores_seq {q r : Regex} {Q R : Cursor → Cursor → Prop}
    (hq : Explores (ways .whole q) Q) (hr : Explores (ways .whole r) R) :
  Explores (ways .whole (.seq q r)) fun s t => ∃ m, Q s m ∧ R m t
  := by
  constructor
  · intro s t k h
    rw [ways] at h
    obtain ⟨m, hm, hrest⟩ := hq.sound h
    obtain ⟨u, hu, hlast⟩ := hr.sound hrest
    exact ⟨u, ⟨m, hm, hu⟩, hlast⟩
  · rintro s u t k ⟨m, hm, hu⟩ h
    obtain ⟨v, hv⟩ := hr.complete hu h
    rw [ways]
    exact hq.complete hm hv

/-- An anchor leads nowhere else. -/
theorem explores_anchor (a : Anchor) :
  Explores (ways .whole (.anchor a)) fun s t => s.isAt a = true ∧ t = s
  := by
  constructor
  · intro s t k h
    rw [ways] at h
    split at h
    · next hat => exact ⟨s, ⟨hat, rfl⟩, h⟩
    · cases h
  · rintro s _ t k ⟨hat, rfl⟩ h
    use t
    rw [ways, if_pos hat, h]

/-- A group marks where it begins and where it ends. -/
theorem explores_group {r : Regex} {R : Cursor → Cursor → Prop} (h : Explores (ways .whole r) R)
    (index : Nat) :
  Explores (ways .whole (.group index r))
    fun s t => ∃ m, R (s.mark (2 * index)) m ∧ t = m.mark (2 * index + 1)
  := by
  constructor
  · intro s t k hreached
    rw [ways] at hreached
    obtain ⟨m, hm, hrest⟩ := h.sound hreached
    exact ⟨m.mark (2 * index + 1), ⟨m, hm, rfl⟩, hrest⟩
  · rintro s _ t k ⟨m, hm, rfl⟩ hrest
    rw [ways]
    exact h.complete hm hrest

end Regex

end AccessControl
