import AccessControl.Proofs.Effect.Reduction

/-!
# Scans

What a strategy makes of rows on each of which a matcher gives a truth value or a failure, said
without an order of evaluation: the first failing row decides if no row before it stops the
scan, and else the first row of some kind does.  The main statement is `Scan.reduce_spec`: the
reduction of rows, which asks the matcher about one row after the other and only as far as
needed, comes to just that.
-/

namespace AccessControl

/-! ### First positions -/

/-- The first element of a list with some property is the only one. -/
theorem IsFirst.unique
    {α : Type} {P : α → Prop} {xs : List α} {x y : α} (hx : IsFirst P xs x)
    (hy : IsFirst P xs y) :
  x = y
  := by
  obtain ⟨hx, before, after, rfl, hbefore⟩ := hx
  obtain ⟨hy, before', after', hsplit, hbefore'⟩ := hy
  induction before generalizing before' with
  | nil =>
      cases before' with
      | nil => exact (List.cons.inj hsplit).1
      | cons b rest =>
          obtain ⟨rfl, -⟩ := List.cons.inj hsplit
          exact absurd hx (hbefore' x List.mem_cons_self)
  | cons b rest ih =>
      cases before' with
      | nil =>
          obtain ⟨rfl, -⟩ := List.cons.inj hsplit
          exact absurd hy (hbefore b List.mem_cons_self)
      | cons b' rest' =>
          apply ih (List.forall_mem_of_forall_mem_cons hbefore) rest' (List.cons.inj hsplit).2
            (List.forall_mem_of_forall_mem_cons hbefore')

/-- The position of the first element of a list with some property, if there is one. -/
inductive FirstAt {α : Type} (P : α → Prop) : List α → Option Nat → Prop
  | none {xs : List α} (h : ∀ x ∈ xs, ¬ P x) : FirstAt P xs none
  | some {before after : List α} {x : α} (hx : P x) (hbefore : ∀ y ∈ before, ¬ P y) :
      FirstAt P (before ++ x :: after) (some before.length)

namespace FirstAt

variable {α : Type} {P : α → Prop} {xs : List α}

/-- An element at the end of a list is the first if there was none. -/
theorem concat {i : Option Nat} (h : FirstAt P xs i) {y : α} {holds : Bool}
    (hy : holds = true ↔ P y) :
  FirstAt P (xs ++ [y]) (i.or (if holds then Option.some xs.length else Option.none))
  := by
  cases h with
  | @some before after x hx hbefore =>
      rw [Option.some_or, List.append_assoc, List.cons_append]
      apply FirstAt.some hx hbefore
  | none hnone =>
      rw [Option.none_or]
      cases holds with
      | true => apply FirstAt.some (hy.mp rfl) hnone
      | false =>
          apply FirstAt.none
          intro x hx
          obtain hx | hx := List.mem_append.mp hx
          · apply hnone x hx
          · rw [List.mem_singleton.mp hx, ← hy]
            apply Bool.false_ne_true

/-- Without a first position no element has the property. -/
theorem absent (h : FirstAt P xs Option.none) :
  ∀ x ∈ xs, ¬ P x
  := by
  generalize hi : Option.none = i at h
  cases h with
  | none hnone => apply hnone
  | some => cases hi

/-- The element at the first position is the first element. -/
theorem isFirst {i : Nat} (h : FirstAt P xs (Option.some i)) :
  ∃ x, xs[i]? = Option.some x ∧ IsFirst P xs x
  := by
  cases h with
  | @some before after x hx hbefore =>
      refine ⟨x, ?_, hx, before, after, rfl, hbefore⟩
      rw [List.getElem?_append_right le_rfl, Nat.sub_self]
      rfl

end FirstAt

/-! ### Scans -/

/-- Rows in order, what a matcher gives on each of them, and the effect that each carries. -/
structure Scan (α : Type) where
  rows : List α
  out : α → Except Failure Bool
  label : α → Effect

namespace Scan

variable {α : Type} (s : Scan α)

/-- The matcher holds of a row. -/
def Matches (a : α) : Prop := s.out a = .ok true

/-- A row matches and allows. -/
def Allows (a : α) : Prop := s.Matches a ∧ s.label a = .allow

/-- A row matches and denies. -/
def Denies (a : α) : Prop := s.Matches a ∧ s.label a = .deny

/-- A row stops the scan: no row after it matters to the strategy. -/
def Stops : Strategy → α → Prop
  | .someAllow, a | .priority, a => s.Matches a
  | .notSomeDeny, a | .someAllowNotDeny, a => s.Denies a

/-- The scan passes over a row: the matcher gives a truth value, and the row does not stop the
scan. -/
def Passes (strategy : Strategy) (a : α) : Prop :=
  (∃ matched, s.out a = .ok matched) ∧ ¬ s.Stops strategy a

/-- The first row on which the matcher fails comes before every row that stops the scan. -/
def FailsWith (strategy : Strategy) (failure : Failure) : Prop :=
  ∃ before a after, s.rows = before ++ a :: after ∧ s.out a = .error failure ∧
    ∀ b ∈ before, s.Passes strategy b

/-- The decision of a strategy about a scan, and the row that decides it if there is one. -/
inductive Decides : Strategy → Bool → Option α → Prop
  | someAllow_first {a : α} (h : IsFirst s.Matches s.rows a) : Decides .someAllow true (some a)
  | someAllow_none (h : ∀ a ∈ s.rows, ¬ s.Matches a) : Decides .someAllow false none
  | notSomeDeny_first {a : α} (h : IsFirst s.Denies s.rows a) :
      Decides .notSomeDeny false (some a)
  | notSomeDeny_none (h : ∀ a ∈ s.rows, ¬ s.Denies a) : Decides .notSomeDeny true none
  | someAllowNotDeny_deny {a : α} (h : IsFirst s.Denies s.rows a) :
      Decides .someAllowNotDeny false (some a)
  | someAllowNotDeny_allow {a : α} (hdeny : ∀ a ∈ s.rows, ¬ s.Denies a)
      (h : IsFirst s.Allows s.rows a) : Decides .someAllowNotDeny true (some a)
  | someAllowNotDeny_none (hdeny : ∀ a ∈ s.rows, ¬ s.Denies a)
      (h : ∀ a ∈ s.rows, ¬ s.Allows a) : Decides .someAllowNotDeny false none
  | priority_allow {a : α} (h : IsFirst s.Matches s.rows a) (ha : s.label a = .allow) :
      Decides .priority true (some a)
  | priority_other {a : α} (h : IsFirst s.Matches s.rows a) (ha : s.label a ≠ .allow) :
      Decides .priority false (some a)
  | priority_none (h : ∀ a ∈ s.rows, ¬ s.Matches a) : Decides .priority false none

/-- What is known about a row once the matcher was asked about it. -/
def judge (a : α) : Except Failure RowResult := do
  let matched ← s.out a
  return ⟨matched, s.label a⟩

variable {s}

/-! ### Rows -/

theorem judge_ok {a : α} {matched : Bool} (h : s.out a = .ok matched) :
  s.judge a = .ok ⟨matched, s.label a⟩
  := by
  rw [judge, h]
  rfl

theorem matches_iff {a : α} {matched : Bool} (h : s.out a = .ok matched) :
  s.Matches a ↔ matched = true
  := by
  rw [Matches, h, Except.ok.injEq]

theorem allows_iff {a : α} {matched : Bool} (h : s.out a = .ok matched) :
  (matched && s.label a == .allow) = true ↔ s.Allows a
  := by
  rw [Allows, matches_iff h, Bool.and_eq_true, beq_iff_eq]

theorem stops_iff {strategy : Strategy} {a : α} {matched : Bool} (h : s.out a = .ok matched) :
  strategy.stops ⟨matched, s.label a⟩ = true ↔ s.Stops strategy a
  := by
  cases strategy <;> simp [Strategy.stops, Stops, Denies, matches_iff h]

/-! ### Failures -/

/-- A scan that passes over all rows does not fail. -/
theorem not_failsWith_of_passes {strategy : Strategy} (h : ∀ a ∈ s.rows, s.Passes strategy a)
    (failure : Failure) :
  ¬ s.FailsWith strategy failure
  := by
  rintro ⟨before, a, after, hrows, ha, -⟩
  obtain ⟨⟨matched, hmatched⟩, -⟩ := h a (by simp [hrows])
  rw [hmatched] at ha
  cases ha

/-- A scan that fails does so on the first row that it does not pass over. -/
theorem FailsWith.isFirst {strategy : Strategy} {failure : Failure}
    (h : s.FailsWith strategy failure) :
  ∃ a, IsFirst (fun a => ¬ s.Passes strategy a) s.rows a ∧ s.out a = .error failure
  := by
  obtain ⟨before, a, after, hrows, ha, hbefore⟩ := h
  refine ⟨a, ⟨?_, before, after, hrows, fun b hb => not_not.mpr (hbefore b hb)⟩, ha⟩
  rintro ⟨⟨matched, hmatched⟩, -⟩
  rw [ha] at hmatched
  cases hmatched

/-- A scan fails in at most one way. -/
theorem FailsWith.unique {strategy : Strategy} {failure failure' : Failure}
    (h : s.FailsWith strategy failure) (h' : s.FailsWith strategy failure') :
  failure = failure'
  := by
  obtain ⟨a, hfirst, ha⟩ := h.isFirst
  obtain ⟨a', hfirst', ha'⟩ := h'.isFirst
  rw [hfirst.unique hfirst', ha'] at ha
  exact (Except.error.inj ha).symm

/-- A scan that reaches a row that stops it does not fail. -/
theorem not_failsWith_of_stops
    {strategy : Strategy} {before after : List α} {a : α} (hrows : s.rows = before ++ a :: after)
    (hbefore : ∀ b ∈ before, s.Passes strategy b) {matched : Bool} (ha : s.out a = .ok matched)
    (hstops : s.Stops strategy a) (failure : Failure) :
  ¬ s.FailsWith strategy failure
  := by
  intro hfails
  obtain ⟨c, hfirst, hc⟩ := hfails.isFirst
  have hfirst' : IsFirst (fun a => ¬ s.Passes strategy a) s.rows a :=
    ⟨fun hpasses => hpasses.2 hstops, before, after, hrows,
      fun b hb => not_not.mpr (hbefore b hb)⟩
  rw [hfirst.unique hfirst', ha] at hc
  cases hc

/-! ### Decisions -/

/-- A decision is one that the strategy makes about a scan. -/
structure Settles (s : Scan α) (strategy : Strategy) (d : Decision) : Prop where
  holds : ∀ failure, ¬ s.FailsWith strategy failure
  decides : s.Decides strategy d.allowed (d.index.bind (s.rows[·]?))

/-- The first row that stops a scan decides it. -/
theorem settles_of_stops
    {strategy : Strategy} {before after : List α} {a : α} (hrows : s.rows = before ++ a :: after)
    (hbefore : ∀ b ∈ before, s.Passes strategy b) {matched : Bool} (ha : s.out a = .ok matched)
    (hstops : s.Stops strategy a) :
  s.Settles strategy ⟨strategy.decides ⟨matched, s.label a⟩, some before.length⟩
  := by
  have hfirst : IsFirst (s.Stops strategy) s.rows a :=
    ⟨hstops, before, after, hrows, fun b hb => (hbefore b hb).2⟩
  have hindex : (some before.length).bind (s.rows[·]?) = some a := by
    rw [Option.bind_some, hrows, List.getElem?_append_right le_rfl, Nat.sub_self]
    rfl
  refine ⟨not_failsWith_of_stops hrows hbefore ha hstops, ?_⟩
  dsimp only
  rw [hindex]
  cases strategy with
  | someAllow => exact .someAllow_first hfirst
  | notSomeDeny => exact .notSomeDeny_first hfirst
  | someAllowNotDeny => exact .someAllowNotDeny_deny hfirst
  | priority =>
      rw [Strategy.decides]
      by_cases hlabel : s.label a = .allow
      · rw [hlabel, beq_self_eq_true]
        exact .priority_allow hfirst hlabel
      · rw [beq_false_of_ne hlabel]
        exact .priority_other hfirst hlabel

/-- If no row stops a scan, the strategy decides by what it has passed over. -/
theorem settles_of_passes
    {strategy : Strategy} (h : ∀ a ∈ s.rows, s.Passes strategy a) {allowed : Option Nat}
    (hallowed : FirstAt s.Allows s.rows allowed) :
  s.Settles strategy (strategy.default allowed)
  := by
  refine ⟨not_failsWith_of_passes h, ?_⟩
  have hnone := fun a ha => (h a ha).2
  cases strategy with
  | someAllow => exact .someAllow_none hnone
  | notSomeDeny => exact .notSomeDeny_none hnone
  | priority => exact .priority_none hnone
  | someAllowNotDeny =>
      cases allowed with
      | none =>
          exact .someAllowNotDeny_none hnone hallowed.absent
      | some i =>
          obtain ⟨a, ha, hfirst⟩ := hallowed.isFirst
          rw [Strategy.default, Option.bind_some, ha]
          exact .someAllowNotDeny_allow hnone hfirst

/-- The reduction of the rows that follow those the scan has passed over. -/
theorem reduceFrom_spec
    {strategy : Strategy} {before after : List α} (hrows : s.rows = before ++ after)
    (hbefore : ∀ b ∈ before, s.Passes strategy b) {allowed : Option Nat}
    (hallowed : FirstAt s.Allows before allowed) :
  (∃ failure, s.FailsWith strategy failure ∧
    strategy.reduceFrom s.judge before.length allowed after = .error failure) ∨
  ∃ d judged, s.Settles strategy d ∧
    strategy.reduceFrom s.judge before.length allowed after = .ok (d, judged)
  := by
  induction after generalizing before allowed with
  | nil =>
      rw [List.append_nil] at hrows
      rw [← hrows] at hbefore hallowed
      right
      exact ⟨_, _, settles_of_passes hbefore hallowed, rfl⟩
  | cons a rest ih =>
      rw [Strategy.reduceFrom]
      cases ha : s.out a with
      | error failure =>
          left
          use failure, ⟨before, a, rest, hrows, ha, hbefore⟩
          rw [judge, ha]
          rfl
      | ok matched =>
          rw [judge_ok ha]
          simp only [bind, Except.bind]
          cases hstops : strategy.stops ⟨matched, s.label a⟩ with
          | true =>
              right
              exact ⟨_, _, settles_of_stops hrows hbefore ha ((stops_iff ha).mp hstops), rfl⟩
          | false =>
              have hpasses : ∀ b ∈ before ++ [a], s.Passes strategy b := by
                intro b hb
                obtain hb | hb := List.mem_append.mp hb
                · apply hbefore b hb
                · rw [List.mem_singleton.mp hb]
                  use ⟨matched, ha⟩
                  rw [← stops_iff ha, hstops]
                  apply Bool.false_ne_true
              have hrest := ih (by rw [hrows, List.append_assoc]; rfl) hpasses
                (hallowed.concat (allows_iff ha))
              rw [List.length_append] at hrest
              apply hrest

/-- The reduction of the rows of a scan fails as the scan does, and else comes to the decision
of the strategy. -/
theorem reduce_spec (s : Scan α) (strategy : Strategy) :
  (∃ failure, s.FailsWith strategy failure ∧ strategy.reduce s.judge s.rows = .error failure) ∨
  ∃ d judged, s.Settles strategy d ∧ strategy.reduce s.judge s.rows = .ok (d, judged)
  := reduceFrom_spec rfl (List.forall_mem_nil _) (.none (List.forall_mem_nil _))

/-! ### Sets of rows -/

/-- What a strategy asks of the rows of a scan to allow.  Only the strategy by priority asks for
their order. -/
def Favours (s : Scan α) : Strategy → Prop
  | .someAllow => ∃ a ∈ s.rows, s.Matches a
  | .notSomeDeny => ∀ a ∈ s.rows, ¬ s.Denies a
  | .someAllowNotDeny => (∀ a ∈ s.rows, ¬ s.Denies a) ∧ ∃ a ∈ s.rows, s.Allows a
  | .priority => ∃ a, IsFirst s.Matches s.rows a ∧ s.label a = .allow

theorem mem_of_isFirst {P : α → Prop} {xs : List α} {a : α} (h : IsFirst P xs a) :
  a ∈ xs
  := by
  obtain ⟨-, before, after, rfl, -⟩ := h
  simp

/-- A decision allows if the rows are as the strategy asks. -/
theorem Decides.allowed_iff
    {strategy : Strategy} {allowed : Bool} {decider : Option α}
    (h : s.Decides strategy allowed decider) :
  allowed = true ↔ s.Favours strategy
  := by
  cases h with
  | someAllow_first h =>
      have hfavours : s.Favours .someAllow := ⟨_, mem_of_isFirst h, h.1⟩
      simp [hfavours]
  | someAllow_none h =>
      have hnot : ¬ s.Favours .someAllow := fun ⟨a, ha, hmatches⟩ => h a ha hmatches
      simp [hnot]
  | notSomeDeny_first h =>
      have hnot : ¬ s.Favours .notSomeDeny := fun hnone => hnone _ (mem_of_isFirst h) h.1
      simp [hnot]
  | notSomeDeny_none h =>
      have hfavours : s.Favours .notSomeDeny := h
      simp [hfavours]
  | someAllowNotDeny_deny h =>
      have hnot : ¬ s.Favours .someAllowNotDeny := fun hfavours =>
        hfavours.1 _ (mem_of_isFirst h) h.1
      simp [hnot]
  | someAllowNotDeny_allow hdeny h =>
      have hfavours : s.Favours .someAllowNotDeny := ⟨hdeny, _, mem_of_isFirst h, h.1⟩
      simp [hfavours]
  | someAllowNotDeny_none hdeny h =>
      have hnot : ¬ s.Favours .someAllowNotDeny := fun ⟨_, a, ha, hallows⟩ => h a ha hallows
      simp [hnot]
  | priority_allow h ha =>
      have hfavours : s.Favours .priority := ⟨_, h, ha⟩
      simp [hfavours]
  | priority_other h ha =>
      have hnot : ¬ s.Favours .priority := by
        rintro ⟨b, hb, hlabel⟩
        rw [h.unique hb] at ha
        apply ha hlabel
      simp [hnot]
  | priority_none h =>
      have hnot : ¬ s.Favours .priority := fun ⟨a, ha, _⟩ => h a (mem_of_isFirst ha) ha.1
      simp [hnot]

/-- But for the strategy by priority, scans of the same rows in any order ask for the same. -/
theorem favours_congr
    {s' : Scan α} {strategy : Strategy} (hstrategy : strategy ≠ .priority)
    (hrows : ∀ a, a ∈ s.rows ↔ a ∈ s'.rows) (hmatches : ∀ a ∈ s.rows, s.Matches a ↔ s'.Matches a)
    (hlabel : ∀ a ∈ s.rows, s.label a = s'.label a) :
  s.Favours strategy ↔ s'.Favours strategy
  := by
  have hsome : (∃ a ∈ s.rows, s.Matches a) ↔ ∃ a ∈ s'.rows, s'.Matches a := by
    apply exists_congr
    intro a
    rw [← hrows a]
    apply and_congr_right
    apply hmatches a
  have hdenies : (∀ a ∈ s.rows, ¬ s.Denies a) ↔ ∀ a ∈ s'.rows, ¬ s'.Denies a := by
    apply forall_congr'
    intro a
    rw [← hrows a]
    apply imp_congr_right
    intro ha
    rw [Denies, Denies, hmatches a ha, hlabel a ha]
  have hallows : (∃ a ∈ s.rows, s.Allows a) ↔ ∃ a ∈ s'.rows, s'.Allows a := by
    apply exists_congr
    intro a
    rw [← hrows a]
    apply and_congr_right
    intro ha
    rw [Allows, Allows, hmatches a ha, hlabel a ha]
  cases strategy with
  | someAllow => apply hsome
  | notSomeDeny => apply hdenies
  | someAllowNotDeny => apply and_congr hdenies hallows
  | priority => exact absurd rfl hstrategy

end Scan

end AccessControl
