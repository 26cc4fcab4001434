import AccessControl.Proofs.Model.Shape
import AccessControl.Proofs.Policy.Quoting
import AccessControl.Proofs.Text.Classes

/-!
# The lines of rows under keys

What a key looks like on a policy line, and what is read of the line of a row that stands under
a key, `PolicyLine.parse_format_row`: the key and the values without the blanks at their ends.
-/

namespace AccessControl

namespace Model

/-! ### Keys -/

/-- A key is the letter of its kind and digits. -/
theorem of_isKeyOf {kind : RowKind} {key : String} (h : isKeyOf kind.kind key = true) :
  ∃ c digits, key.toList = c :: digits ∧ (c = 'p' ∨ c = 'g') ∧ ∀ d ∈ digits, isDigit d = true
  := by
  rw [isKeyOf] at h
  split at h
  case h_1 => cases h
  case h_2 c digits hkey =>
    obtain ⟨hc, hdigits⟩ := (Bool.and_eq_true _ _).mp h
    have hc' := congrArg String.toList (beq_iff_eq.mp hc)
    use c, digits, hkey
    constructor
    · cases kind with
      | policy =>
          left
          simpa [RowKind.kind, SectionKind.letter] using hc'
      | role =>
          right
          simpa [RowKind.kind, SectionKind.letter] using hc'
    · apply List.all_eq_true.mp hdigits

theorem starts_of_isKeyOf {kind : RowKind} {key : String} (h : isKeyOf kind.kind key = true) :
  PolicyLine.Starts key
  := by
  obtain ⟨c, digits, hkey, hc, -⟩ := of_isKeyOf h
  use c, digits, hkey
  obtain rfl | rfl := hc
  · decide
  · decide

/-- The characters of a key have no meaning on a policy line. -/
theorem plain_of_isKeyOf {kind : RowKind} {key : String} (h : isKeyOf kind.kind key = true) :
  ∀ c ∈ key.toList, isBlank c = false ∧ c ≠ ',' ∧ c ≠ '"'
  := by
  obtain ⟨c, digits, hkey, hc, hdigits⟩ := of_isKeyOf h
  rw [hkey, List.forall_mem_cons]
  constructor
  · obtain rfl | rfl := hc
    · decide
    · decide
  · intro d hd
    have hdigit := hdigits d hd
    use isBlank_of_isDigit hdigit
    constructor
    · rintro rfl
      cases hdigit
    · rintro rfl
      cases hdigit

theorem carried_of_isKeyOf {kind : RowKind} {key : String} (h : isKeyOf kind.kind key = true)
    (hshort : key.length ≤ PolicyLine.maxLength) :
  PolicyLine.Carried key
  := by
  have hplain := plain_of_isKeyOf h
  constructor
  · intro c hc
    apply (hplain c (List.mem_of_mem_head? hc)).1
  · intro c hc
    apply (hplain c (List.mem_of_mem_getLast? hc)).1
  · intro c hc
    apply isLineBreak_eq_false (hplain c hc).1
  · apply hshort

end Model

namespace PolicyLine

/-! ### Rows -/

theorem legible_iff {value : String} :
  Legible value ↔
    (value.toList.any State.isBreak = true → ',' ∈ value.toList ∨ '"' ∈ value.toList)
      ∧ value.length ≤ maxLength
  := by
  rw [List.any_eq_true]
  constructor
  · rintro ⟨unbroken, short⟩
    exact ⟨fun ⟨c, hc, hbreak⟩ => unbroken c hc hbreak, short⟩
  · rintro ⟨unbroken, short⟩
    exact ⟨fun c hc hbreak => unbroken ⟨c, hc, hbreak⟩, short⟩

/-- Whether a value is legible can be computed. -/
instance (value : String) : Decidable (Legible value) := decidable_of_iff _ legible_iff.symm

/-- The values that are left alone when the blanks at their ends are dropped. -/
theorem map_strip_eq_self {row : List String} :
  row.map strip = row ↔ ∀ value ∈ row, strip value = value
  := by
  induction row with
  | nil => simp
  | cons value rest ih => rw [List.map_cons, List.cons.injEq, ih, List.forall_mem_cons]

/-- **Reading a written row.**  The line of a row under a key of policies or roles is read as the
key and the values of the row without the blanks at their ends, if no line break in them is
written outside quotes and they are not too long.  So the row is read as it was written exactly
if its values have no blanks at their ends. -/
theorem parse_format_row
    {kind : RowKind} {key : String} (hkey : Model.isKeyOf kind.kind key = true)
    (hshort : key.length ≤ maxLength) {row : List String} (hrow : row ≠ [])
    (h : ∀ value ∈ row, Legible value) :
  parse (format key row) = .ok (some (key :: row.map strip)) ∧
    (parse (format key row) = .ok (some (key :: row)) ↔ ∀ value ∈ row, strip value = value)
  := by
  have hcarried := Model.carried_of_isKeyOf hkey hshort
  have hparse := parse_format_trimmed (Model.starts_of_isKeyOf hkey) hcarried.legible hrow h
  rw [List.map_cons, hcarried.strip_eq] at hparse
  use hparse
  rw [hparse, Except.ok.injEq, Option.some.injEq, List.cons.injEq, eq_self, true_and,
    map_strip_eq_self]

/-- A row with a rule, a quotation that ends with a line feed, nothing, and a tab before a
name. -/
def spacedRow : List String := [" r.sub in ('ann', 'bob')", "say \"hi\"\n", "", "\tread"]

/-- The values of a row may have commas, quotes, line breaks between quotes, and blanks. -/
theorem parse_format_spacedRow :
  Model.isKeyOf RowKind.policy.kind "p2" = true ∧ "p2".length ≤ maxLength ∧ spacedRow ≠ [] ∧
    (∀ value ∈ spacedRow, Legible value) ∧
    parse (format "p2" spacedRow)
      = .ok (some ["p2", "r.sub in ('ann', 'bob')", "say \"hi\"", "", "read"]) ∧
    parse (format "p2" spacedRow) ≠ .ok (some ("p2" :: spacedRow))
  := by
  have hkey : Model.isKeyOf RowKind.policy.kind "p2" = true := by decide
  have hshort : "p2".length ≤ maxLength := by decide
  have hrow : spacedRow ≠ [] := by decide
  have h : ∀ value ∈ spacedRow, Legible value := by decide
  obtain ⟨hparse, hsame⟩ := parse_format_row hkey hshort hrow h
  refine ⟨hkey, hshort, hrow, h, ?_, ?_⟩
  · have hstrip : spacedRow.map strip
        = ["r.sub in ('ann', 'bob')", "say \"hi\"", "", "read"] := by decide
    rw [hparse, hstrip]
  · rw [Ne, hsame]
    decide

/-- A blank before a value is lost when its row is written and read. -/
theorem parse_format_blank :
  Model.isKeyOf RowKind.policy.kind "p" = true ∧
    parse (format "p" [" alice"]) = .ok (some ["p", "alice"]) ∧
    parse (format "p" [" alice"]) ≠ .ok (some ["p", " alice"])
  := by
  have hparse : parse (format "p" [" alice"]) = .ok (some ["p", "alice"]) := by
    apply ok_of_toOption
    decide
  use by decide, hparse
  rw [hparse, Ne, Except.ok.injEq]
  decide

end PolicyLine

end AccessControl
