import AccessControl.Effect.Reduction
import Mathlib.Tactic

/-!
# Laziness

How many rows a strategy looks at.  Some rows in front fix a decision if it is the same however
the rows go on after them; a strategy judges rows up to the first that stops it, and this is
where the decision is fixed.  The main result is `Strategy.reduce_lazy`.
-/

namespace AccessControl

namespace Strategy

/-! ### Rows that pass and rows that stop -/

/-- A strategy passes over a row: the row can be judged and does not stop the strategy. -/
def PassesOver {α : Type} (strategy : Strategy) (judge : α → Except Failure RowResult) (a : α) :
    Prop :=
  ∃ r, judge a = .ok r ∧ strategy.stops r = false

section Judged

variable {α : Type} {strategy : Strategy} {judge : α → Except Failure RowResult}

/-- A strategy passes over rows that are judged to be what it passes over. -/
theorem passesOver_of_map
    {rows : List α} {results : List RowResult} (h : rows.map judge = results.map .ok)
    (hresults : ∀ r ∈ results, strategy.stops r = false) :
  ∀ a ∈ rows, strategy.PassesOver judge a
  := by
  intro a ha
  have hmem : judge a ∈ results.map .ok := by
    rw [← h]
    apply List.mem_map_of_mem ha
  obtain ⟨r, hr, hjudge⟩ := List.mem_map.mp hmem
  exact ⟨r, hjudge.symm, hresults r hr⟩

/-- After the rows that a strategy passes over it goes on with the next; a row that has allowed
so far is one of them. -/
theorem reduceFrom_append
    {before : List α} (hbefore : ∀ b ∈ before, strategy.PassesOver judge b) (i : Nat)
    (allowed : Option Nat) :
  ∃ allowed', (∀ j ∈ allowed', j ∈ allowed ∨ j < i + before.length) ∧
    ∀ after, strategy.reduceFrom judge i allowed (before ++ after)
      = strategy.reduceFrom judge (i + before.length) allowed' after
  := by
  induction before generalizing i allowed with
  | nil => exact ⟨allowed, fun j hj => .inl hj, fun after => rfl⟩
  | cons b rest ih =>
      obtain ⟨⟨r, hr, hstops⟩, hrest⟩ := List.forall_mem_cons.mp hbefore
      obtain ⟨allowed', hallowed, hreduce⟩ := ih hrest (i + 1)
        (allowed.or (if r.matched && r.effect == .allow then some i else none))
      have hlength : i + (b :: rest).length = i + 1 + rest.length := by
        rw [List.length_cons]
        omega
      refine ⟨allowed', ?_, ?_⟩
      · intro j hj
        rw [hlength]
        obtain hj | hj := hallowed j hj
        · rw [Option.mem_def, Option.or_eq_some_iff] at hj
          obtain hj | ⟨-, hj⟩ := hj
          · exact .inl hj
          · obtain ⟨-, hij⟩ := Option.ite_none_right_eq_some.mp hj
            obtain rfl := Option.some.inj hij
            right
            omega
        · exact .inr hj
      · intro after
        rw [List.cons_append, reduceFrom, hr, hlength, ← hreduce]
        simp only [bind, Except.bind, hstops, Bool.false_eq_true, if_false]

/-- The first row that stops a strategy decides, and no row after it is judged. -/
theorem reduce_stopped
    {before : List α} (hbefore : ∀ b ∈ before, strategy.PassesOver judge b) {a : α}
    {r : RowResult} (ha : judge a = .ok r) (hstops : strategy.stops r = true) (after : List α) :
  strategy.reduce judge (before ++ a :: after)
    = .ok (⟨strategy.decides r, some before.length⟩, before.length + 1)
  := by
  obtain ⟨allowed, -, hreduce⟩ := reduceFrom_append hbefore 0 none
  rw [reduce, hreduce, Nat.zero_add, reduceFrom, ha]
  simp only [bind, Except.bind, hstops, if_true]
  rfl

/-- A row that cannot be judged makes a strategy fail that gets there. -/
theorem reduce_failed
    {before : List α} (hbefore : ∀ b ∈ before, strategy.PassesOver judge b) {a : α}
    {failure : Failure} (ha : judge a = .error failure) (after : List α) :
  strategy.reduce judge (before ++ a :: after) = .error failure
  := by
  obtain ⟨allowed, -, hreduce⟩ := reduceFrom_append hbefore 0 none
  rw [reduce, hreduce, reduceFrom, ha]
  rfl

/-- A strategy that no row stops judges all rows, and decides by one of them or by none. -/
theorem reduce_passed {rows : List α} (hrows : ∀ a ∈ rows, strategy.PassesOver judge a) :
  ∃ d : Decision, strategy.reduce judge rows = .ok (d, rows.length) ∧
    ∀ i ∈ d.index, i < rows.length
  := by
  obtain ⟨allowed, hallowed, hreduce⟩ := reduceFrom_append hrows 0 none
  refine ⟨strategy.default allowed, ?_, ?_⟩
  · have hnil := hreduce []
    rw [List.append_nil, Nat.zero_add] at hnil
    apply hnil
  · intro i hi
    have hi' : i ∈ allowed := by
      cases strategy <;> cases allowed <;> first | exact hi | cases hi
    obtain hnone | hlt := hallowed i hi'
    · cases hnone
    · rwa [Nat.zero_add] at hlt

end Judged

/-! ### Fixed decisions -/

/-- The decision about some rows is fixed by the first `n` of them: all rows that begin with the
same `n` rows get it. -/
def FixedBy (strategy : Strategy) (results : List RowResult) (n : Nat) : Prop :=
  ∀ results' : List RowResult, results'.take n = results.take n →
    (strategy.reduce .ok results').map Prod.fst = (strategy.reduce .ok results).map Prod.fst

variable {strategy : Strategy}

/-- Rows that a strategy passes over fix no decision: a row that matches and denies may follow
them, and then it decides. -/
theorem not_fixedBy_of_passes
    {results : List RowResult} {n : Nat} (hn : n ≤ results.length)
    (hpasses : ∀ r ∈ results.take n, strategy.stops r = false) :
  ¬ strategy.FixedBy results n
  := by
  intro hfixed
  have hjudged : ∀ r ∈ results.take n, strategy.PassesOver .ok r :=
    fun r hr => ⟨r, rfl, hpasses r hr⟩
  have hdeny : strategy.stops ⟨true, .deny⟩ = true := by cases strategy <;> rfl
  obtain ⟨d, hd, hindex⟩ := reduce_passed hjudged
  have hstopped := reduce_stopped hjudged rfl hdeny []
  have hshort := hfixed (results.take n) (by rw [List.take_take, min_self])
  have hlong := hfixed (results.take n ++ [⟨true, .deny⟩]) (by
    rw [List.take_append_of_le_length (List.length_take_of_le hn).ge, List.take_take, min_self])
  -- the two ways to go on are decided by different rows
  rw [← hshort, hd, hstopped] at hlong
  obtain rfl := Except.ok.inj hlong
  exact lt_irrefl _ (hindex _ rfl)

/-- Rows up to one that stops a strategy fix its decision. -/
theorem fixedBy_of_stops
    {before after : List RowResult} {r : RowResult}
    (hbefore : ∀ b ∈ before, strategy.stops b = false) (hstops : strategy.stops r = true) :
  strategy.FixedBy (before ++ r :: after) (before.length + 1)
  := by
  intro results' htake
  have hjudged : ∀ b ∈ before, strategy.PassesOver .ok b := fun b hb => ⟨b, rfl, hbefore b hb⟩
  have hbegin : results'.take (before.length + 1) = before ++ [r] := by
    rw [htake, List.take_length_add_append]
    rfl
  obtain ⟨after', hresults⟩ : ∃ after', results' = before ++ r :: after' := by
    use results'.drop (before.length + 1)
    calc results' = results'.take (before.length + 1) ++ results'.drop (before.length + 1) :=
        (List.take_append_drop _ _).symm
      _ = before ++ r :: results'.drop (before.length + 1) := by
        rw [hbegin, List.append_assoc, List.singleton_append]
  rw [hresults, reduce_stopped hjudged rfl hstops, reduce_stopped hjudged rfl hstops]

/-! ### Laziness -/

/-- A strategy looks at the fewest rows that fix its decision about some rows, and at all rows if
none of their beginnings fixes it.  It judges exactly these: where a judgement fails, the
strategy fails if the row is one of them, and does not notice if it comes after them. -/
theorem reduce_lazy (strategy : Strategy) (results : List RowResult) :
  ∃ d n, strategy.reduce .ok results = .ok (d, n) ∧
    (IsLeast {k | k ≤ results.length ∧ strategy.FixedBy results k} n ∨
      (∀ k ≤ results.length, ¬ strategy.FixedBy results k) ∧ n = results.length) ∧
    ∀ {α : Type} (judge : α → Except Failure RowResult) (before : List α) (a : α) (after : List α)
      (failure : Failure), before.map judge = (results.take before.length).map .ok →
      before.length < results.length → judge a = .error failure →
      strategy.reduce judge (before ++ a :: after)
        = if before.length < n then .error failure else .ok (d, n)
  := by
  cases hfind : results.find? strategy.stops with
  | none =>
      have hpasses : ∀ r ∈ results, strategy.stops r = false := by
        simpa using List.find?_eq_none.mp hfind
      have htake : ∀ k, ∀ r ∈ results.take k, strategy.stops r = false :=
        fun k r hr => hpasses r (List.mem_of_mem_take hr)
      have hpassesOver : ∀ r ∈ results, strategy.PassesOver .ok r :=
        fun r hr => ⟨r, rfl, hpasses r hr⟩
      obtain ⟨d, hreduce, -⟩ := reduce_passed hpassesOver
      refine ⟨d, results.length, hreduce, .inr ⟨?_, rfl⟩, ?_⟩
      · intro k hk
        apply not_fixedBy_of_passes hk (htake k)
      · intro α judge before a after failure hbefore hlength ha
        rw [if_pos hlength]
        apply reduce_failed (passesOver_of_map hbefore (htake _)) ha
  | some r =>
      obtain ⟨hstops, front, back, rfl, hfront⟩ := List.find?_eq_some_iff_append.mp hfind
      have hpasses : ∀ b ∈ front, strategy.stops b = false := by simpa using hfront
      have htake : ∀ k ≤ front.length, ∀ b ∈ (front ++ r :: back).take k,
          strategy.stops b = false := by
        intro k hk b hb
        rw [List.take_append_of_le_length hk] at hb
        apply hpasses b (List.mem_of_mem_take hb)
      refine ⟨_, front.length + 1,
        reduce_stopped (fun b hb => ⟨b, rfl, hpasses b hb⟩) rfl hstops back, .inl ⟨?_, ?_⟩, ?_⟩
      · refine ⟨?_, fixedBy_of_stops hpasses hstops⟩
        rw [List.length_append, List.length_cons]
        omega
      · rintro k ⟨hk, hfixed⟩
        by_contra hlt
        apply not_fixedBy_of_passes hk (htake k (by omega)) hfixed
      · intro α judge before a after failure hbefore _ ha
        split
        case isTrue hlt =>
          apply reduce_failed (passesOver_of_map hbefore (htake _ (by omega))) ha
        case isFalse hnlt =>
          -- the row that stops the strategy is among those that could be judged
          obtain ⟨k, hk⟩ := Nat.exists_eq_add_of_le (not_lt.mp hnlt)
          rw [hk, Nat.add_assoc, List.take_length_add_append, Nat.add_comm 1, List.take_succ_cons,
            List.map_append, List.map_cons] at hbefore
          obtain ⟨front', rest', rfl, hfront', hrest'⟩ := List.map_eq_append_iff.mp hbefore
          obtain ⟨b, back', rfl, hb, -⟩ := List.map_eq_cons_iff.mp hrest'
          have hlength : front'.length = front.length := by
            simpa using congrArg List.length hfront'
          rw [List.append_assoc, List.cons_append, ← hlength]
          apply reduce_stopped (passesOver_of_map hfront' hpasses) hb hstops

/-- A row that denies ends the reduction, a row that allows does not. -/
example : someAllowNotDeny.reduce .ok [⟨true, .allow⟩, ⟨true, .deny⟩, ⟨true, .allow⟩]
    = .ok (⟨false, some 1⟩, 2) := rfl

end Strategy

end AccessControl
