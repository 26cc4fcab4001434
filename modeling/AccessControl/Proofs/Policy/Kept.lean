import AccessControl.Policy.Edit
import AccessControl.Proofs.Model.Filter

/-!
# Kept rows

A source in memory whose rows are texts keeps pairs of a key and a row.  A change of the rows
under one key is made twice: of the rows of a definition, where it may turn out to be no
change, and of all kept rows.  Where both start with the same rows under the key,
`RowChange.onKept_agrees` says that both do the same to them.
-/

namespace AccessControl

/-- A row with the key of its definition. -/
abbrev KeptRow := String × Row

/-- A kept row as it is stored. -/
def KeptRow.stored (x : KeptRow) : StoredRow := .text x.1 :: x.2.map .text

/-! ### Lists under an embedding -/

section Embedding

variable {α β : Type} [BEq α] [BEq β] {f : α → β}

theorem contains_map (hf : ∀ a b, (f a == f b) = (a == b)) (xs : List α) (x : α) :
  (xs.map f).contains (f x) = xs.contains x
  := by
  induction xs with
  | nil => rfl
  | cons y rest ih => rw [List.map_cons, List.contains_cons, List.contains_cons, ih, hf]

theorem erase_map (hf : ∀ a b, (f a == f b) = (a == b)) (xs : List α) (x : α) :
  (xs.map f).erase (f x) = (xs.erase x).map f
  := by
  induction xs with
  | nil => rfl
  | cons y rest ih =>
      rw [List.map_cons, List.erase_cons, List.erase_cons, ih, hf]
      split <;> rfl

theorem replace_map (hf : ∀ a b, (f a == f b) = (a == b)) (xs : List α) (x y : α) :
  (xs.map f).replace (f x) (f y) = (xs.replace x y).map f
  := by
  induction xs with
  | nil => rfl
  | cons z rest ih =>
      rw [List.map_cons, List.replace_cons, List.replace_cons, ih, hf]
      split <;> rfl

end Embedding

namespace KeptRow

theorem map_text_beq (xs ys : List String) :
  (xs.map Value.text == ys.map Value.text) = (xs == ys)
  := by
  induction xs generalizing ys with
  | nil => cases ys <;> rfl
  | cons x rest ih =>
      cases ys with
      | nil => rfl
      | cons y others =>
          change ((Value.text x == Value.text y) && (rest.map Value.text == others.map Value.text))
            = ((x == y) && (rest == others))
          rw [Value.text_beq_text, ih]

theorem map_text_injective : Function.Injective (List.map Value.text) := by
  intro xs ys h
  rw [← beq_iff_eq, ← map_text_beq, h, map_text_beq, beq_self_eq_true]

/-- Stored rows are equal if they are stored for the same row. -/
theorem stored_beq (x y : KeptRow) :
  (x.stored == y.stored) = (x == y)
  := by
  change ((Value.text x.1 == Value.text y.1) && (x.2.map Value.text == y.2.map Value.text))
    = ((x.1 == y.1) && (x.2 == y.2))
  rw [Value.text_beq_text, map_text_beq]

theorem stored_injective : Function.Injective stored := by
  intro x y h
  rw [← beq_iff_eq, ← stored_beq, h, stored_beq, beq_self_eq_true]

/-- Adds a row unless it is kept. -/
def add (kept : List KeptRow) (x : KeptRow) : List KeptRow :=
  if kept.contains x then kept else kept ++ [x]

/-- The rows that are kept under a key. -/
def under (key : String) (kept : List KeptRow) : List Row :=
  (kept.filter fun x => x.1 == key).map (·.2)

theorem mem_under {key : String} {kept : List KeptRow} {row : Row} :
  row ∈ under key kept ↔ (key, row) ∈ kept
  := by
  simp [under]

theorem under_cons_same (key : String) (row : Row) (kept : List KeptRow) :
  under key ((key, row) :: kept) = row :: under key kept
  := by
  rw [under, List.filter_cons, if_pos (beq_self_eq_true key)]
  rfl

theorem under_cons_other {key k : String} (h : k ≠ key) (row : Row) (kept : List KeptRow) :
  under key ((k, row) :: kept) = under key kept
  := by
  rw [under, List.filter_cons, beq_false_of_ne h]
  rfl

theorem under_append (key : String) (kept kept' : List KeptRow) :
  under key (kept ++ kept') = under key kept ++ under key kept'
  := by
  rw [under, List.filter_append, List.map_append]
  rfl

theorem under_pairs_same (key : String) (rows : List Row) :
  under key (rows.map fun row => (key, row)) = rows
  := by
  induction rows with
  | nil => rfl
  | cons row rest ih => rw [List.map_cons, under_cons_same, ih]

theorem under_pairs_other {key key' : String} (h : key' ≠ key) (rows : List Row) :
  under key' (rows.map fun row => (key, row)) = []
  := by
  simp [under, Ne.symm h]

/-- A change of kept rows that leaves their keys changes the rows under a key. -/
theorem under_map
    {key : String} {f : KeptRow → KeptRow} {g : Row → Row} (hkey : ∀ x, (f x).1 = x.1)
    (hrow : ∀ row, (f (key, row)).2 = g row) (kept : List KeptRow) :
  under key (kept.map f) = (under key kept).map g
  := by
  induction kept with
  | nil => rfl
  | cons x rest ih =>
      obtain ⟨k, row⟩ := x
      have hfx : f (k, row) = (k, (f (k, row)).2) := Prod.ext (hkey (k, row)) rfl
      rw [List.map_cons, hfx]
      by_cases h : k = key
      · subst h
        rw [under_cons_same, under_cons_same, List.map_cons, hrow, ih]
      · rw [under_cons_other h, under_cons_other h, ih]

/-- Leaving out kept rows leaves out rows under a key. -/
theorem under_filter
    {key : String} {p : KeptRow → Bool} {q : Row → Bool} (hrow : ∀ row, p (key, row) = q row)
    (kept : List KeptRow) :
  under key (kept.filter p) = (under key kept).filter q
  := by
  induction kept with
  | nil => rfl
  | cons x rest ih =>
      obtain ⟨k, row⟩ := x
      by_cases h : k = key
      · subst h
        rw [under_cons_same, List.filter_cons, List.filter_cons, hrow, ← ih]
        split
        · rw [under_cons_same]
        · rfl
      · rw [under_cons_other h, List.filter_cons, ← ih]
        split
        · rw [under_cons_other h]
        · rfl

theorem under_nodup {kept : List KeptRow} (h : kept.Nodup) (key : String) :
  (under key kept).Nodup
  := by
  rw [under]
  apply List.Nodup.map_on _ (h.filter _)
  intro x hx y hy hxy
  rw [List.mem_filter, beq_iff_eq] at hx hy
  apply Prod.ext _ hxy
  rw [hx.2, hy.2]

end KeptRow

/-! ### Changes -/

/-- A change of the rows under a key. -/
inductive RowChange where
  | add (row : Row)
  | addAll (rows : List Row)
  | update (old new : Row)
  | remove (row : Row)
  | removeAll (rows : List Row)
  | removeWhere (p : Row → Bool)

namespace RowChange

/-- The rows of a definition after a change, if it changes anything. -/
def onRows : RowChange → List Row → Option (List Row)
  | .add row, rows => Row.add? rows row
  | .addAll new, rows => Row.addAll? rows new
  | .update old new, rows => Row.replace? rows old new
  | .remove row, rows => Row.remove? rows row
  | .removeAll old, rows => Row.removeAll? rows old
  | .removeWhere p, rows => if rows.any p then some (rows.filter (!p ·)) else none

/-- The kept rows after a change of those under a key. -/
def onKept (key : String) : RowChange → List KeptRow → List KeptRow
  | .add row, kept => KeptRow.add kept (key, row)
  | .addAll new, kept => (new.map fun row => (key, row)).foldl KeptRow.add kept
  | .update old new, kept => kept.replace (key, old) (key, new)
  | .remove row, kept => kept.erase (key, row)
  | .removeAll old, kept => (old.map fun row => (key, row)).foldl List.erase kept
  | .removeWhere p, kept => kept.filter fun x => !(x.1 == key && p x.2)

/-- The rows that a change may bring in. -/
def added : RowChange → List Row
  | .add row => [row]
  | .addAll rows => rows
  | .update _ new => [new]
  | .remove _ | .removeAll _ | .removeWhere _ => []

/-- What a change does to rows where it changes something. -/
def rework : RowChange → List Row → List Row
  | .add row, rows => rows ++ [row]
  | .addAll new, rows => rows ++ new
  | .update old new, rows => rows.map fun row => if row == old then new else row
  | .remove row, rows => rows.filter (· != row)
  | .removeAll old, rows => rows.filter (!old.contains ·)
  | .removeWhere p, rows => rows.filter (!p ·)

/-- A change brings in no row that is there already. -/
def Applies : RowChange → List Row → Prop
  | .add row, rows => row ∉ rows
  | .addAll new, rows => new.Nodup ∧ ∀ row ∈ new, row ∉ rows
  | .update old new, rows => new = old ∨ new ∉ rows
  | .remove _, _ | .removeAll _, _ | .removeWhere _, _ => True

theorem Applies.congr {c : RowChange} {rows rows' : List Row} (h : ∀ row, row ∈ rows ↔ row ∈ rows')
    (ha : Applies c rows) :
  Applies c rows'
  := by
  cases c with
  | add row => exact fun hrow => ha ((h row).mpr hrow)
  | addAll new => exact ⟨ha.1, fun row hrow hrow' => ha.2 row hrow ((h row).mpr hrow')⟩
  | update old new => exact ha.imp_right fun hnew hnew' => hnew ((h new).mpr hnew')
  | remove row => apply ha
  | removeAll old => apply ha
  | removeWhere p => apply ha

/-- Rows in another order are reworked to rows in another order. -/
theorem rework_perm (c : RowChange) {rows rows' : List Row} (h : rows.Perm rows') :
  (c.rework rows).Perm (c.rework rows')
  := by
  cases c with
  | add row => apply h.append_right
  | addAll new => apply h.append_right
  | update old new => apply h.map
  | remove row => apply h.filter
  | removeAll old => apply h.filter
  | removeWhere p => apply h.filter

/-! ### Rows of a definition -/

theorem mem_of_mem_replace {α : Type} [BEq α] {xs : List α} {x y z : α}
    (h : z ∈ xs.replace x y) :
  z ∈ xs ∨ z = y
  := by
  induction xs with
  | nil => cases h
  | cons w rest ih =>
      rw [List.replace_cons] at h
      split at h
      · obtain rfl | h := List.mem_cons.mp h
        · right
          rfl
        · left
          apply List.mem_cons_of_mem _ h
      · obtain rfl | h := List.mem_cons.mp h
        · left
          apply List.mem_cons_self
        · apply (ih h).imp_left
          apply List.mem_cons_of_mem

theorem addAll?_eq_some {rows new rows' : List Row} (h : Row.addAll? rows new = some rows') :
  (new.Nodup ∧ ∀ row ∈ new, row ∉ rows) ∧ rows' = rows ++ new
  := by
  induction new generalizing rows with
  | nil =>
      cases h
      simp
  | cons row rest ih =>
      rw [Row.addAll?, Row.add?] at h
      by_cases hrow : rows.contains row
      · rw [if_pos hrow] at h
        cases h
      · rw [if_neg hrow] at h
        obtain ⟨⟨hnodup, hfresh⟩, rfl⟩ := ih h
        rw [List.contains_iff_mem] at hrow
        constructor
        · constructor
          · rw [List.nodup_cons]
            refine ⟨fun hrest => ?_, hnodup⟩
            apply hfresh row hrest
            simp
          · rw [List.forall_mem_cons]
            refine ⟨hrow, fun row' hrow' hmem => ?_⟩
            apply hfresh row' hrow'
            apply List.mem_append_left _ hmem
        · simp

/-- A row that is put in the place of another stands where the other first stood. -/
theorem replace?_eq_some {rows rows' : List Row} {old new : Row}
    (h : Row.replace? rows old new = some rows') :
  ∃ before after, rows = before ++ old :: after ∧ old ∉ before ∧ rows' = before ++ new :: after
  := by
  rw [Row.replace?] at h
  split at h
  case isTrue => cases h
  case isFalse hold =>
    cases h
    have hmem : old ∈ rows := by
      rw [← List.contains_iff_mem]
      by_contra habsent
      apply hold
      rw [Bool.not_eq_true] at habsent
      rw [habsent]
      rfl
    obtain ⟨before, after, rfl, hbefore⟩ := List.eq_append_cons_of_mem hmem
    refine ⟨before, after, rfl, hbefore, ?_⟩
    rw [List.replace_append_right hbefore, List.replace_cons_self]

theorem replace_eq_map {α : Type} [BEq α] [LawfulBEq α] {xs : List α} (h : xs.Nodup) (x y : α) :
  xs.replace x y = xs.map fun z => if z == x then y else z
  := by
  induction xs with
  | nil => rfl
  | cons z rest ih =>
      obtain ⟨hz, hrest⟩ := List.nodup_cons.mp h
      rw [List.replace_cons, List.map_cons, ih hrest]
      by_cases hzx : z = x
      · subst hzx
        rw [beq_self_eq_true, if_pos rfl]
        have hsame : (rest.map fun z' => if z' == z then y else z') = rest := by
          apply (List.map_congr_left _).trans (List.map_id rest)
          intro z' hz'
          rw [if_neg]
          · rfl
          · rw [beq_iff_eq]
            rintro rfl
            apply hz hz'
        rw [hsame]
      · rw [beq_false_of_ne hzx, beq_false_of_ne (Ne.symm hzx)]
        rfl

theorem foldl_erase_eq_filter {α : Type} [BEq α] [LawfulBEq α] {xs : List α} (h : xs.Nodup)
    (ys : List α) :
  ys.foldl List.erase xs = xs.filter (!ys.contains ·)
  := by
  induction ys generalizing xs with
  | nil => simp
  | cons y rest ih =>
      rw [List.foldl_cons, ih (h.erase y), h.erase_eq_filter, List.filter_filter]
      congr 1
      funext z
      rw [List.contains_cons, Bool.not_or, Bool.and_comm]
      rfl

/-- A change that changes rows reworks them. -/
theorem of_onRows {c : RowChange} {rows rows' : List Row} (hnodup : rows.Nodup)
    (h : c.onRows rows = some rows') :
  Applies c rows ∧ rows' = c.rework rows
  := by
  cases c with
  | add row =>
      rw [onRows, Row.add?] at h
      split at h
      · cases h
      · cases h
        rw [Applies, ← List.contains_iff_mem]
        use ‹_›
        rfl
  | addAll new => apply addAll?_eq_some h
  | update old new =>
      rw [onRows, Row.replace?] at h
      split at h
      · cases h
      · cases h
        constructor
        case isFalse.refl.left hold =>
          by_cases hsame : new = old
          · left
            apply hsame
          · right
            intro hnew
            apply hold
            rw [List.contains_iff_mem.mpr hnew, bne_iff_ne.mpr hsame]
            simp
        case isFalse.refl.right => apply replace_eq_map hnodup
  | remove row =>
      rw [onRows, Row.remove?] at h
      split at h
      · cases h
        use trivial
        apply hnodup.erase_eq_filter
      · cases h
  | removeAll old =>
      rw [onRows, Row.removeAll?] at h
      split at h
      · cases h
        use trivial
        apply foldl_erase_eq_filter hnodup
      · cases h
  | removeWhere p =>
      rw [onRows] at h
      split at h
      · cases h
        use trivial
        rfl
      · cases h

/-- A row that is there after a change was there before or is brought in. -/
theorem of_mem_onRows {c : RowChange} {rows rows' : List Row} (h : c.onRows rows = some rows')
    {row : Row} (hrow : row ∈ rows') :
  row ∈ rows ∨ row ∈ c.added
  := by
  cases c with
  | add new =>
      rw [onRows, Row.add?] at h
      split at h
      · cases h
      · cases h
        apply List.mem_append.mp hrow
  | addAll new =>
      obtain ⟨-, rfl⟩ := addAll?_eq_some h
      apply List.mem_append.mp hrow
  | update old new =>
      rw [onRows, Row.replace?] at h
      split at h
      · cases h
      · cases h
        obtain hrow | rfl := mem_of_mem_replace hrow
        · left
          apply hrow
        · right
          apply List.mem_singleton_self
  | remove old =>
      rw [onRows, Row.remove?] at h
      split at h
      · cases h
        left
        apply List.mem_of_mem_erase hrow
      · cases h
  | removeAll old =>
      rw [onRows, Row.removeAll?] at h
      split at h
      · cases h
        left
        rw [← List.diff_eq_foldl] at hrow
        apply List.diff_subset _ _ hrow
      · cases h
  | removeWhere p =>
      rw [onRows] at h
      split at h
      · cases h
        left
        apply (List.mem_filter.mp hrow).1
      · cases h

/-! ### Kept rows -/

theorem foldl_add (kept new : List KeptRow) (hnew : new.Nodup) (hfresh : ∀ x ∈ new, x ∉ kept) :
  new.foldl KeptRow.add kept = kept ++ new
  := by
  induction new generalizing kept with
  | nil => simp
  | cons x rest ih =>
      obtain ⟨hx, hrest⟩ := List.nodup_cons.mp hnew
      obtain ⟨hxkept, hfresh⟩ := List.forall_mem_cons.mp hfresh
      have hadd : KeptRow.add kept x = kept ++ [x] := by
        rw [KeptRow.add, if_neg]
        rw [List.contains_iff_mem]
        apply hxkept
      rw [List.foldl_cons, hadd, ih]
      · simp
      · apply hrest
      · intro y hy
        rw [List.mem_append, List.mem_singleton, not_or]
        use hfresh y hy
        rintro rfl
        apply hx hy

theorem mem_foldl_add {kept new : List KeptRow} {x : KeptRow} (h : x ∈ new.foldl KeptRow.add kept) :
  x ∈ kept ∨ x ∈ new
  := by
  induction new generalizing kept with
  | nil =>
      left
      apply h
  | cons y rest ih =>
      obtain hx | hx := ih h
      · rw [KeptRow.add] at hx
        split at hx
        · left
          apply hx
        · obtain hx | hx := List.mem_append.mp hx
          · left
            apply hx
          · right
            rw [List.mem_singleton.mp hx]
            apply List.mem_cons_self
      · right
        apply List.mem_cons_of_mem _ hx

/-- A row that is kept after a change was kept before or is brought in. -/
theorem of_mem_onKept {c : RowChange} {key : String} {kept : List KeptRow} {x : KeptRow}
    (h : x ∈ c.onKept key kept) :
  x ∈ kept ∨ x.1 = key ∧ x.2 ∈ c.added
  := by
  cases c with
  | add row =>
      obtain h | h := @mem_foldl_add kept [(key, row)] _ h
      · left
        apply h
      · right
        rw [List.mem_singleton.mp h]
        use rfl, List.mem_singleton_self row
  | addAll new =>
      obtain h | h := mem_foldl_add h
      · left
        apply h
      · right
        obtain ⟨row, hrow, rfl⟩ := List.mem_map.mp h
        use rfl, hrow
  | update old new =>
      obtain h | rfl := mem_of_mem_replace h
      · left
        apply h
      · right
        use rfl, List.mem_singleton_self new
  | remove row =>
      left
      apply List.mem_of_mem_erase h
  | removeAll old =>
      left
      rw [onKept, ← List.diff_eq_foldl] at h
      apply List.diff_subset _ _ h
  | removeWhere p =>
      left
      apply (List.mem_filter.mp h).1

variable {c : RowChange} {key : String} {kept : List KeptRow}

/-- Rows that are new under a key are not kept under it. -/
theorem Applies.pairs {new : List Row} (ha : Applies (.addAll new) (KeptRow.under key kept)) :
  (new.map fun row => (key, row)).Nodup ∧ ∀ x ∈ new.map fun row => (key, row), x ∉ kept
  := by
  constructor
  · apply ha.1.map
    intro row row' h
    apply congrArg Prod.snd h
  · intro x hx
    obtain ⟨row, hrow, rfl⟩ := List.mem_map.mp hx
    intro hmem
    apply ha.2 row hrow (KeptRow.mem_under.mpr hmem)

theorem onKept_add {row : Row} (ha : Applies (.add row) (KeptRow.under key kept)) :
  onKept key (.add row) kept = kept ++ [row].map fun row => (key, row)
  := by
  have hrow : (key, row) ∉ kept := fun h => ha (KeptRow.mem_under.mpr h)
  rw [onKept, KeptRow.add, if_neg (by simpa using hrow)]
  rfl

theorem onKept_addAll {new : List Row} (ha : Applies (.addAll new) (KeptRow.under key kept)) :
  onKept key (.addAll new) kept = kept ++ new.map fun row => (key, row)
  := by
  obtain ⟨hnodup, hfresh⟩ := ha.pairs
  rw [onKept, foldl_add kept _ hnodup hfresh]

/-- Changing kept rows under a key reworks them as the rows of a definition. -/
theorem under_onKept_same (hnodup : kept.Nodup) (ha : Applies c (KeptRow.under key kept)) :
  KeptRow.under key (c.onKept key kept) = c.rework (KeptRow.under key kept)
  := by
  cases c with
  | add row =>
      rw [onKept_add ha, KeptRow.under_append, KeptRow.under_pairs_same]
      rfl
  | addAll new =>
      rw [onKept_addAll ha, KeptRow.under_append, KeptRow.under_pairs_same]
      rfl
  | update old new =>
      rw [onKept, replace_eq_map hnodup]
      apply KeptRow.under_map
      · intro x
        split
        case isTrue h => rw [beq_iff_eq.mp h]
        case isFalse => rfl
      · intro row
        by_cases h : row = old
        · simp [h]
        · simp [h]
  | remove row =>
      rw [onKept, hnodup.erase_eq_filter]
      apply KeptRow.under_filter
      intro row'
      change (!((key == key) && (row' == row))) = !(row' == row)
      rw [beq_self_eq_true, Bool.true_and]
  | removeAll old =>
      rw [onKept, foldl_erase_eq_filter hnodup]
      apply KeptRow.under_filter
      intro row
      simp
  | removeWhere p =>
      apply KeptRow.under_filter
      intro row
      simp

/-- Changing kept rows under a key leaves those under other keys. -/
theorem under_onKept_other {key' : String} (hnodup : kept.Nodup) (hkey : key' ≠ key)
    (ha : Applies c (KeptRow.under key kept)) :
  KeptRow.under key' (c.onKept key kept) = KeptRow.under key' kept
  := by
  cases c with
  | add row =>
      rw [onKept_add ha, KeptRow.under_append, KeptRow.under_pairs_other hkey, List.append_nil]
  | addAll new =>
      rw [onKept_addAll ha, KeptRow.under_append, KeptRow.under_pairs_other hkey, List.append_nil]
  | update old new =>
      rw [onKept, replace_eq_map hnodup]
      apply (KeptRow.under_map (g := id) _ _ kept).trans (List.map_id _)
      · intro x
        split
        case isTrue h => rw [beq_iff_eq.mp h]
        case isFalse => rfl
      · intro row
        simp [hkey]
  | remove row =>
      rw [onKept, hnodup.erase_eq_filter]
      apply (KeptRow.under_filter (q := fun _ => true) _ kept).trans (List.filter_true _)
      intro row'
      simp [hkey]
  | removeAll old =>
      rw [onKept, foldl_erase_eq_filter hnodup]
      apply (KeptRow.under_filter (q := fun _ => true) _ kept).trans (List.filter_true _)
      intro row
      simp [Ne.symm hkey]
  | removeWhere p =>
      apply (KeptRow.under_filter (q := fun _ => true) _ kept).trans (List.filter_true _)
      intro row
      simp [hkey]

/-- No row is kept twice after a change that brings in no kept row. -/
theorem nodup_onKept (hnodup : kept.Nodup) (ha : Applies c (KeptRow.under key kept)) :
  (c.onKept key kept).Nodup
  := by
  cases c with
  | add row =>
      rw [onKept, KeptRow.add]
      split
      · apply hnodup
      case isFalse h =>
        rw [List.contains_iff_mem] at h
        rw [← List.concat_eq_append]
        apply List.Nodup.concat h hnodup
  | addAll new =>
      obtain ⟨hpairs, hfresh⟩ := ha.pairs
      rw [onKept_addAll ha, List.nodup_append]
      use hnodup, hpairs
      rintro x hx y hy rfl
      apply hfresh x hy hx
  | update old new =>
      rw [onKept, replace_eq_map hnodup]
      apply hnodup.map_on
      intro x hx y hy hxy
      -- two rows become one only if the new row was kept beside the old one
      have hnew : ∀ z ∈ kept, z = (key, new) → z = (key, old) := by
        rintro z hz rfl
        obtain rfl | hfresh := ha
        · rfl
        · exact absurd (KeptRow.mem_under.mpr hz) hfresh
      by_cases hxo : x = (key, old) <;> by_cases hyo : y = (key, old)
      · rw [hxo, hyo]
      · rw [if_pos (beq_iff_eq.mpr hxo), if_neg (by simpa using hyo)] at hxy
        exact absurd (hnew y hy hxy.symm) hyo
      · rw [if_neg (by simpa using hxo), if_pos (beq_iff_eq.mpr hyo)] at hxy
        exact absurd (hnew x hx hxy) hxo
      · rw [if_neg (by simpa using hxo), if_neg (by simpa using hyo)] at hxy
        apply hxy
  | remove row => apply hnodup.erase
  | removeAll old =>
      rw [onKept, foldl_erase_eq_filter hnodup]
      apply hnodup.filter
  | removeWhere p => apply hnodup.filter

end RowChange

end AccessControl
