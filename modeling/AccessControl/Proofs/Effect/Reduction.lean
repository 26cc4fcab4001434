import AccessControl.Effect.Reduction
import AccessControl.Enforcer.Decision
import Mathlib.Tactic

/-!
# First matches

The strategy that allows when some row matches decides by the first row that does, and the
matcher is not asked about any row after it.
-/

namespace AccessControl

/-- An element is the first of a list with some property. -/
structure IsFirst {α : Type} (P : α → Prop) (xs : List α) (x : α) : Prop where
  holds : P x
  first : ∃ before after, xs = before ++ x :: after ∧ ∀ y ∈ before, ¬ P y

/-- What a test finds first in a list is the first element that passes it. -/
theorem isFirst_of_find? {α : Type} {P : α → Prop} {p : α → Bool} {xs : List α}
    (hp : ∀ x ∈ xs, p x = true ↔ P x) {x : α} (h : xs.find? p = some x) :
  IsFirst P xs x
  := by
  have hmem := List.mem_of_find?_eq_some h
  obtain ⟨hx, before, after, rfl, hbefore⟩ := List.find?_eq_some_iff_append.mp h
  constructor
  · apply (hp x hmem).mp hx
  · refine ⟨before, after, rfl, ?_⟩
    intro y hy hcontra
    have hy' := hbefore y hy
    rw [(hp y (List.mem_append_left _ hy)).mpr hcontra] at hy'
    cases hy'

namespace Strategy

/-- The position of the first row that matches decides; rows after it are not judged. -/
theorem reduceFrom_someAllow
    {α : Type} {judge : α → Except Failure RowResult} {p : α → Bool} {rows : List α}
    (h : ∀ a ∈ rows, ∃ effect, judge a = .ok ⟨p a, effect⟩) (i : Nat) (allowed : Option Nat) :
  ∃ judged, someAllow.reduceFrom judge i allowed rows
    = .ok (⟨rows.any p, (rows.findIdx? p).map (i + ·)⟩, judged)
  := by
  induction rows generalizing i allowed with
  | nil => exact ⟨i, rfl⟩
  | cons a rest ih =>
      obtain ⟨⟨effect, ha⟩, hrest⟩ := List.forall_mem_cons.mp h
      rw [reduceFrom, ha, List.any_cons, List.findIdx?_cons]
      cases hmatched : p a with
      | true => exact ⟨i + 1, rfl⟩
      | false =>
          obtain ⟨judged, hreduce⟩ := ih hrest (i + 1)
            (allowed.or (if (false && effect == Effect.allow) = true then some i else none))
          use judged
          rw [Bool.false_or, if_neg Bool.false_ne_true, Option.map_map]
          simp only [bind, Except.bind, stops, Bool.false_eq_true, if_false]
          rw [hreduce]
          congr 3
          apply congrArg (Option.map · _)
          funext j
          simp only [Function.comp]
          omega

end Strategy

namespace Frame

/-- A request is allowed when some row that the matcher is asked about matches, and the first
such row explains it, if it is a row of the policy. -/
theorem decide_candidates
    {f : Frame} (hstrategy : f.strategy = .someAllow) {functions : Functions}
    {values : List Value} {p : Row → Bool}
    (h : ∀ row ∈ f.candidates, f.matcher.holds (f.bindings values row) functions = .ok (p row)) :
  f.decide functions values = .ok (f.candidates.any p,
    if f.policy.rows.isEmpty then [] else (f.policy.rows.find? p).getD [])
  := by
  have hjudge : ∀ row ∈ f.candidates, ∃ effect,
      f.judge functions values row = .ok ⟨p row, effect⟩ := by
    intro row hrow
    use f.effectOf row
    rw [judge, h row hrow]
    rfl
  obtain ⟨judged, hreduce⟩ := Strategy.reduceFrom_someAllow hjudge 0 none
  rw [decide, hstrategy, Strategy.reduce, hreduce]
  simp only [bind, Except.bind, pure, Except.pure, explain]
  by_cases hempty : f.policy.rows.isEmpty = true
  · rw [if_pos hempty]
    cases f.candidates.findIdx? p with
    | none => rfl
    | some i => simp only [Option.map_some, if_pos hempty]
  · have hcandidates : f.candidates = f.policy.rows := if_neg hempty
    rw [if_neg hempty, hcandidates, List.find?_eq_bind_findIdx?_getElem?]
    cases f.policy.rows.findIdx? p with
    | none => rfl
    | some i => simp only [Option.map_some, Nat.zero_add, Option.bind_some, if_neg hempty]

/-- With rows, a request is allowed when some row matches, and the first such row explains
it. -/
theorem decide_someAllow
    {f : Frame} (hstrategy : f.strategy = .someAllow) (hrows : f.policy.rows ≠ [])
    {functions : Functions} {values : List Value} {p : Row → Bool}
    (h : ∀ row ∈ f.policy.rows, f.matcher.holds (f.bindings values row) functions = .ok (p row)) :
  f.decide functions values = .ok (f.policy.rows.any p, (f.policy.rows.find? p).getD [])
  := by
  have hempty : ¬ f.policy.rows.isEmpty = true := by rwa [List.isEmpty_iff]
  have hcandidates : f.candidates = f.policy.rows := if_neg hempty
  rw [decide_candidates hstrategy (hcandidates ▸ h), hcandidates, if_neg hempty]

end Frame

end AccessControl
