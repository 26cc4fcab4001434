import AccessControl.Proofs.Model.Priority
import AccessControl.Proofs.Number.Value
import AccessControl.Proofs.Policy.Kept
import Mathlib.Data.List.Sort

/-!
# Rows in order

Rows are in order when their priorities are numbers and none of these is less than the one
before it.  Ordering puts rows in order, and a change of rows in order leaves them in order
just if it puts its new rows in their places, `RowChange.inOrder_iff`.
-/

namespace AccessControl

namespace Row

/-- The field for the priority, at some position, is read as a number. -/
def IsNumbered (i : Nat) (row : Row) : Prop :=
  ∃ x, readFloat ((row[i]?).getD "") = .ok x ∧ x ≠ .nan

/-- The number that the field for the priority, at some position, is read as. -/
def priority (i : Nat) (row : Row) : WithBot (WithTop ℚ) :=
  match readFloat ((row[i]?).getD "") with
  | .ok x => x.value
  | .error _ => ⊥

theorem priority_eq {i : Nat} {row : Row} {x : Binary64}
    (h : readFloat ((row[i]?).getD "") = .ok x) :
  row.priority i = x.value
  := by
  rw [priority, h]

/-- An integer in the field is a number, and the priority if it is not beyond `2 ^ 53`. -/
theorem isNumbered_of_writes {i : Nat} {row : Row} {z : Int} (h : Writes ((row[i]?).getD "") z) :
  row.IsNumbered i ∧ (z.natAbs ≤ 2 ^ 53 → row.priority i = Binary64.ofInteger z)
  := by
  obtain ⟨x, hx, hnan, hvalue⟩ := readFloat_of_writes h
  rw [priority_eq hx]
  exact ⟨⟨x, hx, hnan⟩, hvalue⟩

end Row

/-- Rows have numbers for priorities, and none that is less than the one before it. -/
structure InOrder (i : Nat) (rows : List Row) : Prop where
  numbered : ∀ row ∈ rows, row.IsNumbered i
  ascending : rows.Pairwise fun a b => a.priority i ≤ b.priority i

namespace InOrder

variable {i : Nat} {rows rows' : List Row}

theorem sublist (h : InOrder i rows) (hsub : rows'.Sublist rows) :
  InOrder i rows'
  := by
  constructor
  · intro row hrow
    apply h.numbered row (hsub.subset hrow)
  · apply h.ascending.sublist hsub

theorem append :
  InOrder i (rows ++ rows') ↔ InOrder i rows ∧ InOrder i rows' ∧
    ∀ row ∈ rows, ∀ row' ∈ rows', row.priority i ≤ row'.priority i
  := by
  constructor
  · intro h
    refine ⟨h.sublist (List.sublist_append_left _ _), h.sublist (List.sublist_append_right _ _), ?_⟩
    apply (List.pairwise_append.mp h.ascending).2.2
  · rintro ⟨h, h', hbetween⟩
    constructor
    · apply List.forall_mem_append.mpr ⟨h.numbered, h'.numbered⟩
    · apply List.pairwise_append.mpr ⟨h.ascending, h'.ascending, hbetween⟩

theorem cons {row : Row} :
  InOrder i (row :: rows) ↔ row.IsNumbered i ∧ InOrder i rows ∧
    ∀ row' ∈ rows, row.priority i ≤ row'.priority i
  := by
  constructor
  · intro h
    refine ⟨h.numbered row List.mem_cons_self, h.sublist (List.sublist_cons_self _ _), ?_⟩
    apply (List.pairwise_cons.mp h.ascending).1
  · rintro ⟨hrow, h, hfirst⟩
    constructor
    · apply List.forall_mem_cons.mpr ⟨hrow, h.numbered⟩
    · apply List.pairwise_cons.mpr ⟨hfirst, h.ascending⟩

end InOrder

/-! ### Ordering -/

namespace Ranked

/-- Rows whose numbers are numbers are ordered by what these stand for. -/
theorem sort_eq_mergeSort {rows : List Ranked} (h : ∀ a ∈ rows, a.1 ≠ .nan) :
  sort rows = rows.mergeSort fun a b => decide (a.1.value ≤ b.1.value)
  := by
  have hnan : ¬ (rows.any fun a => a.1 == Binary64.nan) = true := by
    rw [List.any_eq_true]
    rintro ⟨a, ha, heq⟩
    exact h a ha (beq_iff_eq.mp heq)
  rw [sort, if_neg hnan, ← List.map_id (rows.mergeSort notAfter), List.map_mergeSort, List.map_id]
  intro a ha b hb
  rw [id, id, notAfter, before, Bool.eq_iff_iff, Bool.not_eq_true', beq_eq_false_iff_ne, Ne,
    Binary64.order_eq_lt (h b hb) (h a ha), not_lt, decide_eq_true_iff]

theorem pairwise_sort {rows : List Ranked} (h : ∀ a ∈ rows, a.1 ≠ .nan) :
  (sort rows).Pairwise fun a b => a.1.value ≤ b.1.value
  := by
  rw [sort_eq_mergeSort h]
  exact List.pairwise_mergeSort' (fun a b : Ranked => a.1.value ≤ b.1.value) rows

/-- Rows whose numbers ascend stay where they are, also those of one number. -/
theorem sort_of_pairwise
    {rows : List Ranked} (h : ∀ a ∈ rows, a.1 ≠ .nan)
    (hrows : rows.Pairwise fun a b => a.1.value ≤ b.1.value) :
  sort rows = rows
  := by
  rw [sort_eq_mergeSort h]
  apply List.mergeSort_of_pairwise
  apply hrows.imp
  intro a b hab
  apply decide_eq_true hab

end Ranked

namespace Definition

/-- The rows of a definition are ranked by the numbers in their fields. -/
theorem of_mem_ranked
    {i : Nat} {rows : List Row} {ranked : List Ranked} (h : rows.mapM (rankRow i) = .ok ranked)
    (hnumbered : ∀ row ∈ rows, row.IsNumbered i) :
  ∀ a ∈ ranked, a.1 ≠ .nan ∧ a.2.priority i = a.1.value
  := by
  intro a ha
  obtain ⟨row, hrow, h⟩ := of_mapM_eq_ok h a ha
  obtain ⟨x, hx, h⟩ := bind_eq_ok.mp h
  cases h
  obtain ⟨x', hx', hnan⟩ := hnumbered row hrow
  rw [hx] at hx'
  cases hx'
  exact ⟨hnan, Row.priority_eq hx⟩

/-- Rows whose priorities are numbers can be ranked. -/
theorem exists_ranked {i : Nat} {rows : List Row} (h : ∀ row ∈ rows, row.IsNumbered i) :
  ∃ ranked, rows.mapM (rankRow i) = .ok ranked ∧ ranked.map (·.2) = rows
  := by
  induction rows with
  | nil => exact ⟨[], rfl, rfl⟩
  | cons row rest ih =>
      obtain ⟨⟨x, hx, -⟩, hrest⟩ := List.forall_mem_cons.mp h
      obtain ⟨ranked, hranked, hrows⟩ := ih hrest
      refine ⟨(x, row) :: ranked, ?_, congrArg (row :: ·) hrows⟩
      rw [List.mapM_cons, rankRow, hx, hranked]
      rfl

/-- Rows whose priorities are numbers are put in order. -/
theorem inOrder_of_sortedRows {d : Definition} {i : Nat} {rows : List Row}
    (h : d.sortedRows i = .ok rows) (hnumbered : ∀ row ∈ d.rows, row.IsNumbered i) :
  InOrder i rows
  := by
  have hperm := sortedRows_perm h
  rw [sortedRows] at h
  split at h
  case h_1 ranked hranked =>
    cases h
    have hranks := of_mem_ranked hranked hnumbered
    constructor
    · intro row hrow
      apply hnumbered row (hperm.mem_iff.mp hrow)
    · rw [List.pairwise_map]
      apply (Ranked.pairwise_sort fun a ha => (hranks a ha).1).imp_of_mem
      intro a b ha hb hle
      rw [(hranks a ((Ranked.sort_perm ranked).mem_iff.mp ha)).2,
        (hranks b ((Ranked.sort_perm ranked).mem_iff.mp hb)).2]
      apply hle
  case h_2 => cases h

/-- Ordering a definition with a field for priorities puts its rows in order. -/
theorem inOrder_of_sortByPriority
    {d d' : Definition} (h : d.sortByPriority = .ok d') (hkind : d.kind = .policy) {i : Nat}
    (hi : d.fieldIndex? priorityField = some i) (hnumbered : ∀ row ∈ d.rows, row.IsNumbered i) :
  InOrder i d'.rows
  := by
  rw [sortByPriority, if_pos (beq_iff_eq.mpr hkind), hi] at h
  obtain ⟨rows, hrows, rfl⟩ := map_eq_ok.mp h
  apply inOrder_of_sortedRows hrows hnumbered

/-- Rows in order are left as they are. -/
theorem sortedRows_of_inOrder {d : Definition} {i : Nat} (h : InOrder i d.rows) :
  d.sortedRows i = .ok d.rows
  := by
  obtain ⟨ranked, hranked, hrows⟩ := exists_ranked h.numbered
  have hranks := of_mem_ranked hranked h.numbered
  have hpairwise : ranked.Pairwise fun a b => a.1.value ≤ b.1.value := by
    have hascending := h.ascending
    rw [← hrows, List.pairwise_map] at hascending
    apply hascending.imp_of_mem
    intro a b ha hb hle
    rw [← (hranks a ha).2, ← (hranks b hb).2]
    apply hle
  rw [sortedRows, hranked]
  dsimp only
  rw [Ranked.sort_of_pairwise (fun a ha => (hranks a ha).1) hpairwise, hrows]

/-- A definition whose rows are in order is left as it is. -/
theorem sortByPriority_of_inOrder
    {d : Definition} (h : ∀ i, d.fieldIndex? priorityField = some i → InOrder i d.rows) :
  d.sortByPriority = .ok d
  := by
  rw [sortByPriority]
  split
  · split
    · rfl
    case h_2 i hi =>
      rw [sortedRows_of_inOrder (h i hi)]
      rfl
  · rfl

end Definition

/-- When all definitions could be ordered, each was. -/
theorem sortDefinitions_ok {ds ds' : List Definition} (h : sortDefinitions ds = (.ok (), ds')) :
  List.Forall₂ (fun d d' => d.sortByPriority = .ok d') ds ds'
  := by
  induction ds generalizing ds' with
  | nil =>
      cases h
      apply List.Forall₂.nil
  | cons d rest ih =>
      rw [sortDefinitions] at h
      split at h
      · cases h
      case h_2 d' hd' =>
        obtain ⟨hresult, rfl⟩ := Prod.mk.inj h
        apply List.forall₂_cons.mpr
        exact ⟨hd', ih (Prod.ext hresult rfl)⟩

/-- After all rows have been ordered, those of a policy definition with a field for priorities
are in order. -/
theorem Model.inOrder_of_sortByPriority
    {m m' : Model} (h : m.sortByPriority = (.ok (), m')) {key : String} {d : Definition}
    (hd : m'.find? .policy key = some d) {i : Nat} (hi : d.fieldIndex? priorityField = some i)
    (hnumbered : ∀ row ∈ d.rows, row.IsNumbered i) :
  InOrder i d.rows
  := by
  have hfound : m'.find? RowKind.policy.kind key = some d := hd
  obtain ⟨hresult, rfl⟩ := Prod.mk.inj h
  have hsorted := sortDefinitions_ok (Prod.ext hresult rfl)
  obtain ⟨rows, hd₀⟩ := (SameShape.sortByPriority m).find? hfound
  change m.find? .policy key = _ at hd₀
  have hsame : ∀ a b : Definition, a.sortByPriority = .ok b →
      (b.kind == .policy && b.key == key) = (a.kind == .policy && a.key == key) := by
    intro a b hab
    have hreorders := Definition.sortByPriority_reorders hab
    rw [Definition.kind, Definition.kind, hreorders.meaning, hreorders.key]
  obtain ⟨d', hd', hsort⟩ := find?_forall₂ hsorted hsame hd₀
  obtain rfl := Option.some.inj (hd.symm.trans hd')
  apply Definition.inOrder_of_sortByPriority hsort (of_find? hd).2.1 hi
  intro row hrow
  apply hnumbered row
  apply (Definition.sortByPriority_reorders hsort).perm.mem_iff.mpr hrow

/-- A model whose rows with priorities are in order is left as it is. -/
theorem Model.sortByPriority_of_inOrder
    {m : Model} (h : ∀ d ∈ m.definitions, ∀ i, d.fieldIndex? priorityField = some i →
      InOrder i d.rows) :
  m.sortByPriority = (.ok (), m)
  := by
  rw [sortByPriority, sortDefinitions_eq_self]
  intro d hd
  apply Definition.sortByPriority_of_inOrder (h d hd)

/-! ### Changes -/

namespace RowChange

/-- A change puts its new rows where their priorities belong: added rows at the end, and a row
that takes the place of another where this stands. -/
def InPlace (i : Nat) : RowChange → List Row → Prop
  | .add new, rows => new.IsNumbered i ∧ ∀ row ∈ rows, row.priority i ≤ new.priority i
  | .addAll new, rows =>
    InOrder i new ∧ ∀ row ∈ rows, ∀ row' ∈ new, row.priority i ≤ row'.priority i
  | .update old new, rows =>
    new.IsNumbered i ∧ (∀ row ∈ rows.takeWhile (· != old), row.priority i ≤ new.priority i) ∧
      ∀ row ∈ (rows.dropWhile (· != old)).tail, new.priority i ≤ row.priority i
  | .remove _, _ | .removeAll _, _ | .removeWhere _, _ => True

theorem foldl_erase_sublist {α : Type} [BEq α] [LawfulBEq α] (xs ys : List α) :
  (ys.foldl List.erase xs).Sublist xs
  := by
  rw [← List.diff_eq_foldl]
  apply List.diff_sublist

/-- A change of rows in order leaves them in order just if it puts its new rows in their
places. -/
theorem inOrder_iff
    {i : Nat} {rows rows' : List Row} (h : InOrder i rows) {c : RowChange}
    (hrows : c.onRows rows = some rows') :
  InOrder i rows' ↔ c.InPlace i rows
  := by
  cases c with
  | add new =>
      rw [onRows, Row.add?] at hrows
      split at hrows
      · cases hrows
      · cases hrows
        rw [InOrder.append, InPlace]
        constructor
        · rintro ⟨-, hnew, hlast⟩
          constructor
          · apply hnew.numbered new (List.mem_singleton_self new)
          · intro row hrow
            apply hlast row hrow new (List.mem_singleton_self new)
        · rintro ⟨hnew, hlast⟩
          constructor
          · apply h
          · constructor
            · constructor
              · apply List.forall_mem_singleton.mpr hnew
              · apply List.pairwise_singleton
            · intro row hrow row' hrow'
              rw [List.mem_singleton.mp hrow']
              apply hlast row hrow
  | addAll new =>
      obtain ⟨-, rfl⟩ := addAll?_eq_some hrows
      rw [InOrder.append, InPlace]
      apply and_iff_right h
  | update old new =>
      obtain ⟨before, after, rfl, hbefore, rfl⟩ := replace?_eq_some hrows
      have hne : ∀ row ∈ before, (row != old) = true := by
        intro row hrow
        rw [bne_iff_ne]
        rintro rfl
        apply hbefore hrow
      have htake : (before ++ old :: after).takeWhile (· != old) = before := by
        rw [List.takeWhile_append_of_pos hne]
        simp
      have hdrop : ((before ++ old :: after).dropWhile (· != old)).tail = after := by
        rw [List.dropWhile_append_of_pos hne]
        simp
      obtain ⟨hbefore', hafter', hbetween⟩ := InOrder.append.mp h
      rw [InPlace, htake, hdrop, InOrder.append, InOrder.cons]
      constructor
      · rintro ⟨-, ⟨hnew, -, hfirst⟩, hlast⟩
        refine ⟨hnew, ?_, hfirst⟩
        intro row hrow
        apply hlast row hrow new List.mem_cons_self
      · rintro ⟨hnew, hlast, hfirst⟩
        refine ⟨hbefore', ⟨hnew, (InOrder.cons.mp hafter').2.1, hfirst⟩, ?_⟩
        intro row hrow
        rw [List.forall_mem_cons]
        constructor
        · apply hlast row hrow
        · intro row' hrow'
          apply hbetween row hrow row' (List.mem_cons_of_mem _ hrow')
  | remove row =>
      rw [onRows, Row.remove?] at hrows
      split at hrows
      · cases hrows
        apply iff_of_true (h.sublist List.erase_sublist) trivial
      · cases hrows
  | removeAll old =>
      rw [onRows, Row.removeAll?] at hrows
      split at hrows
      · cases hrows
        apply iff_of_true (h.sublist (foldl_erase_sublist _ _)) trivial
      · cases hrows
  | removeWhere p =>
      rw [onRows] at hrows
      split at hrows
      · cases hrows
        apply iff_of_true (h.sublist List.filter_sublist) trivial
      · cases hrows

end RowChange

end AccessControl
