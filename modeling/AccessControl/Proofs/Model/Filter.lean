import AccessControl.Model.Filter
import AccessControl.Proofs.Failure.Results

/-!
# Filters

Whether a filter can be asked about a row depends on the length of the row only: a position
before the start of one row is before the start of every other row of that length.  A filter
that splits the rows of a definition can therefore be asked about all rows that fit it.
-/

namespace AccessControl

namespace RowFilter

/-! ### Asking -/

/-- At a position that is not before the start of a row there is a field or nothing. -/
theorem fieldAt_ok (row : List Value) {i : Int} (h : 0 ≤ i + row.length) :
  ∃ field, fieldAt row i = .ok field
  := by
  rw [fieldAt]
  split
  · exact ⟨_, rfl⟩
  · split
    · exact ⟨_, rfl⟩
    · exact ⟨_, rfl⟩

theorem of_fieldAt_ok {row : List Value} {i : Int} {field : Option Value}
    (h : fieldAt row i = .ok field) :
  0 ≤ i + row.length
  := by
  by_contra hneg
  rw [fieldAt, if_neg (by omega), if_neg (by omega), if_neg hneg] at h
  cases h

/-- At a position that counts from the start there is a field if the row is long enough. -/
theorem fieldAt_natCast (row : List Value) (i : Nat) :
  fieldAt row i = .ok row[i]?
  := by
  rw [fieldAt]
  split
  case isTrue h =>
    rw [List.getElem?_eq_none (by omega)]
  case isFalse =>
    rw [if_pos (Int.natCast_nonneg i), Int.toNat_natCast]

/-- A row passes the test of one field for a text if it has the text there; the empty text allows
anything. -/
theorem holds_text (i : Nat) (s : String) (row : Row) :
  RowFilter.holds ⟨.index i, [.ofValue (.text s)]⟩ (row.map .text)
    = .ok (s == "" || row[i]? == some s)
  := by
  by_cases hs : s = ""
  · rw [hs]
    rfl
  · have htest : FieldTest.ofValue (.text s) = .equal (.text s) := if_neg hs
    rw [holds, htest, beq_false_of_ne hs, Bool.false_or]
    dsimp only
    rw [holdsFrom, fieldAt_natCast, List.getElem?_map]
    · cases row[i]? with
      | none => rfl
      | some field =>
          have hfield : (FieldTest.equal (.text s)).holds (.text field) = (some field == some s) :=
            rfl
          simp only [bind, Except.bind, Option.map_some, hfield, holdsFrom]
          cases some field == some s <;> rfl
    · simp

/-- Tests from a position that is not before the start of a row can be made. -/
theorem holdsFrom_ok (row : List Value) (tests : List FieldTest) {i : Int}
    (h : 0 ≤ i + row.length) :
  ∃ pass, holdsFrom row i tests = .ok pass
  := by
  induction tests generalizing i with
  | nil => exact ⟨_, rfl⟩
  | cons test rest ih =>
      have hrest := ih (i := i + 1) (by omega)
      cases test with
      | any => apply hrest
      | equal v =>
          obtain ⟨field, hfield⟩ := fieldAt_ok row h
          rw [holdsFrom]
          · rw [hfield]
            cases field with
            | none => exact ⟨_, rfl⟩
            | some w =>
                by_cases hw : (FieldTest.equal v).holds w
                · obtain ⟨pass, hpass⟩ := hrest
                  use pass
                  simp only [bind, Except.bind, hw, if_true]
                  apply hpass
                · use false
                  simp only [bind, Except.bind, hw]
                  rfl
          · simp

theorem holdsFrom_ok_of_length
    {row row' : List Value} (hlength : row'.length = row.length) {tests : List FieldTest}
    {i : Int} {pass : Bool} (h : holdsFrom row i tests = .ok pass) :
  ∃ pass', holdsFrom row' i tests = .ok pass'
  := by
  induction tests generalizing i with
  | nil => exact ⟨_, rfl⟩
  | cons test rest ih =>
      cases test with
      | any => apply ih h
      | equal v =>
          -- the first test that looks at a field decides whether all later ones can be made
          apply holdsFrom_ok
          rw [hlength]
          rw [holdsFrom] at h
          · obtain ⟨field, hfield, -⟩ := bind_eq_ok.mp h
            apply of_fieldAt_ok hfield
          · simp

theorem holdsFromReal_ok_of_length
    {row row' : List Value} (hlength : row'.length = row.length) {tests : List FieldTest}
    {x : Binary64} {pass : Bool} (h : holdsFromReal row x tests = .ok pass) :
  ∃ pass', holdsFromReal row' x tests = .ok pass'
  := by
  induction tests generalizing x with
  | nil => exact ⟨_, rfl⟩
  | cons test rest ih =>
      cases test with
      | any => apply ih h
      | equal v =>
          rw [holdsFromReal] at h ⊢
          · rw [hlength]
            split at h
            case isTrue hbehind =>
              rw [if_pos hbehind]
              exact ⟨_, rfl⟩
            case isFalse => cases h
          · simp
          · simp

/-- A filter that can be asked about a row can be asked about every row of its length. -/
theorem holds_ok_of_length
    (f : RowFilter) {row row' : List Value} (hlength : row'.length = row.length) {pass : Bool}
    (h : f.holds row = .ok pass) :
  ∃ pass', f.holds row' = .ok pass'
  := by
  rw [holds] at h ⊢
  cases hstart : f.start with
  | index i =>
      rw [hstart] at h
      apply holdsFrom_ok_of_length hlength h
  | real x =>
      rw [hstart] at h
      apply holdsFromReal_ok_of_length hlength h
  | other v =>
      rw [hstart] at h
      dsimp only at h ⊢
      split at h
      · rw [if_pos ‹_›]
        exact ⟨_, rfl⟩
      · cases h

/-- A filter from a position that counts from the start can be asked about every row. -/
theorem holds_ok_of_index {f : RowFilter} {i : Int} (hstart : f.start = .index i) (hi : 0 ≤ i)
    (row : List Value) :
  ∃ pass, f.holds row = .ok pass
  := by
  rw [holds, hstart]
  apply holdsFrom_ok
  omega

/-! ### Splitting -/

/-- A row of texts passes a filter, which can be asked about it. -/
def passes (f : RowFilter) (row : Row) : Bool :=
  match f.holds (row.map .text) with
  | .ok pass => pass
  | .error _ => false

theorem holds_eq_passes {f : RowFilter} {row : Row} {pass : Bool}
    (h : f.holds (row.map .text) = .ok pass) :
  f.holds (row.map .text) = .ok (f.passes row)
  := by
  rw [passes, h]

/-- A filter splits rows into those that pass it and those that do not. -/
theorem split_eq_ok {f : RowFilter} {rows passing failing : List Row}
    (h : f.split rows = .ok (passing, failing)) :
  (∀ row ∈ rows, f.holds (row.map .text) = .ok (f.passes row)) ∧
    passing = rows.filter f.passes ∧ failing = rows.filter (!f.passes ·)
  := by
  induction rows generalizing passing failing with
  | nil =>
      cases h
      simp
  | cons row rest ih =>
      obtain ⟨pass, hpass, h⟩ := bind_eq_ok.mp h
      obtain ⟨⟨passing', failing'⟩, hrest, h⟩ := bind_eq_ok.mp h
      obtain ⟨hholds, rfl, rfl⟩ := ih hrest
      have hrow : f.passes row = pass := by rw [passes, hpass]
      rw [List.forall_mem_cons, List.filter_cons, List.filter_cons, hrow]
      cases pass with
      | true =>
          cases h
          exact ⟨⟨hpass, hholds⟩, rfl, rfl⟩
      | false =>
          cases h
          exact ⟨⟨hpass, hholds⟩, rfl, rfl⟩

/-- Rows are split by a test that gives what the filter gives. -/
theorem split_of_holds
    {f : RowFilter} {p : Row → Bool} {rows : List Row}
    (h : ∀ row ∈ rows, f.holds (row.map .text) = .ok (p row)) :
  f.split rows = .ok (rows.filter p, rows.filter (!p ·))
  := by
  induction rows with
  | nil => rfl
  | cons row rest ih =>
      obtain ⟨hrow, hrest⟩ := List.forall_mem_cons.mp h
      rw [split, hrow, ih hrest, List.filter_cons, List.filter_cons]
      cases p row <;> rfl

end RowFilter

end AccessControl
