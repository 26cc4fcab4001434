import AccessControl.Proofs.Policy.Line
import AccessControl.Proofs.Text.Blank

/-!
# Reading what is written on a policy line

The line of a row is read as the key and the values of the row without the blanks at their ends,
`PolicyLine.parse_format_trimmed`; so a row whose values have no such blanks is read as it is,
`PolicyLine.parse_format`.  The values may hold commas and quotes and may be empty; a value that
is longer than the reader allows is refused, `PolicyLine.parse_format_tooLong`.
-/

namespace AccessControl

namespace PolicyLine

/-- A value that a line can carry: it neither starts nor ends with a blank, holds no line break
and is not too long. -/
structure Carried (value : String) : Prop where
  leading : ∀ c ∈ value.toList.head?, isBlank c = false
  trailing : ∀ c ∈ value.toList.getLast?, isBlank c = false
  unbroken : ∀ c ∈ value.toList, isLineBreak c = false
  short : value.length ≤ maxLength

theorem carried_iff {value : String} :
  Carried value ↔ value.toList.head?.any isBlank = false ∧ value.toList.getLast?.any isBlank = false
    ∧ value.toList.any isLineBreak = false ∧ value.length ≤ maxLength
  := by
  have hany : ∀ o : Option Char, o.any isBlank = false ↔ ∀ c ∈ o, isBlank c = false := by
    intro o
    cases o <;> simp
  simp only [hany, List.any_eq_false, Bool.not_eq_true]
  exact ⟨fun ⟨leading, trailing, unbroken, short⟩ => ⟨leading, trailing, unbroken, short⟩,
    fun ⟨leading, trailing, unbroken, short⟩ => ⟨leading, trailing, unbroken, short⟩⟩

/-- Whether a value is carried can be computed. -/
instance (value : String) : Decidable (Carried value) := decidable_of_iff _ carried_iff.symm

theorem Carried.strip_eq {value : String} (h : Carried value) :
  strip value = value
  := by
  rw [strip, trim, trimOf_eq_self h.leading h.trailing, String.ofList_toList]

theorem isBreak_eq_false {c : Char} (h : isLineBreak c = false) :
  State.isBreak c = false
  := by
  by_contra hbreak
  rw [Bool.not_eq_false, State.isBreak, Bool.or_eq_true, beq_iff_eq, beq_iff_eq] at hbreak
  obtain rfl | rfl := hbreak <;> cases h

/-- A value that can be read from its written form, but for the blanks at its ends: it is not too
long, and it has a line feed or a return only where it is written between quotes, which is when it
has a comma or a quote. -/
structure Legible (value : String) : Prop where
  unbroken : ∀ c ∈ value.toList, State.isBreak c = true → ',' ∈ value.toList ∨ '"' ∈ value.toList
  short : value.length ≤ maxLength

theorem Carried.legible {value : String} (h : Carried value) :
  Legible value
  := by
  constructor
  · intro c hc hbreak
    rw [isBreak_eq_false (h.unbroken c hc)] at hbreak
    cases hbreak
  · apply h.short

/-! ### Letters -/

section Letters

variable {size : Nat} (letters : List Char) (values : List String)

theorem add_eq (place : Place) {place' : Place} {c : Char} (h : size < maxLength) :
  State.add ⟨place, letters, size, values⟩ place' c
    = .ok ⟨place', c :: letters, size + 1, values⟩
  := by
  rw [State.add, if_neg (Nat.not_le_of_lt h)]

theorem add_tooLong {place place' : Place} {c : Char} (h : maxLength ≤ size) :
  State.add ⟨place, letters, size, values⟩ place' c = .error .tooLong
  := by
  rw [State.add, if_pos h]

theorem read_plain {c : Char} (hbreak : State.isBreak c = false) (hcomma : c ≠ ',') :
  State.read ⟨.plain, letters, size, values⟩ c
    = State.add ⟨.plain, letters, size, values⟩ .plain c
  := by
  simp [State.read, hbreak, hcomma]

/-- The first letter of a value outside quotes. -/
theorem read_first {c : Char} (hbreak : State.isBreak c = false) (hspace : c ≠ ' ')
    (hcomma : c ≠ ',') (hquote : c ≠ '"') :
  State.read ⟨.start, [], 0, values⟩ c = .ok ⟨.plain, [c], 1, values⟩
  := by
  have hadd : State.add ⟨.start, [], 0, values⟩ .plain c = .ok ⟨.plain, [c], 1, values⟩ :=
    add_eq [] values .start (by decide)
  rw [← hadd]
  simp [State.read, hbreak, hquote, hspace, hcomma]

/-- Letters outside quotes are read one after the other. -/
theorem readFrom_plain
    {cs : List Char} (hcs : ∀ c ∈ cs, State.isBreak c = false ∧ c ≠ ',')
    (hsize : size + cs.length ≤ maxLength) (rest : List Char) :
  readFrom ⟨.plain, letters, size, values⟩ (cs ++ rest)
    = readFrom ⟨.plain, cs.reverse ++ letters, size + cs.length, values⟩ rest
  := by
  induction cs generalizing letters size with
  | nil => rfl
  | cons c more ih =>
      obtain ⟨⟨hbreak, hcomma⟩, hmore⟩ := List.forall_mem_cons.mp hcs
      rw [List.length_cons] at hsize
      rw [List.cons_append, readFrom, read_plain letters values hbreak hcomma,
        add_eq letters values _ (by omega), List.reverse_cons, List.append_assoc, List.length_cons,
        Nat.add_comm more.length, ← Nat.add_assoc]
      apply ih (c :: letters) hmore
      omega

/-- Letters outside quotes are refused when they are too many. -/
theorem readFrom_plain_tooLong
    {cs : List Char} (hcs : ∀ c ∈ cs, State.isBreak c = false ∧ c ≠ ',')
    (hsize : maxLength < size + cs.length) (hfits : size ≤ maxLength) (rest : List Char) :
  readFrom ⟨.plain, letters, size, values⟩ (cs ++ rest) = .error .tooLong
  := by
  induction cs generalizing letters size with
  | nil => exact absurd hsize (Nat.not_lt_of_le hfits)
  | cons c more ih =>
      obtain ⟨⟨hbreak, hcomma⟩, hmore⟩ := List.forall_mem_cons.mp hcs
      rw [List.length_cons] at hsize
      rw [List.cons_append, readFrom, read_plain letters values hbreak hcomma]
      by_cases hfull : maxLength ≤ size
      · rw [add_tooLong letters values hfull]
        rfl
      · rw [add_eq letters values _ (by omega)]
        apply ih (c :: letters) hmore
        · omega
        · omega

/-- A letter between quotes is read, a quote when it is doubled. -/
theorem readFrom_letter (c : Char) (hsize : size < maxLength) (rest : List Char) :
  readFrom ⟨.inQuotes, letters, size, values⟩ ((if c = '"' then ['"', '"'] else [c]) ++ rest)
    = readFrom ⟨.inQuotes, c :: letters, size + 1, values⟩ rest
  := by
  split
  case isTrue hquote =>
    have hopen : State.read ⟨.inQuotes, letters, size, values⟩ '"'
        = .ok ⟨.afterQuote, letters, size, values⟩ := rfl
    have hagain : State.read ⟨.afterQuote, letters, size, values⟩ '"'
        = .ok ⟨.inQuotes, '"' :: letters, size + 1, values⟩ := add_eq letters values _ hsize
    rw [List.cons_append, readFrom, hopen, hquote, List.singleton_append]
    change readFrom ⟨.afterQuote, letters, size, values⟩ ('"' :: rest) = _
    rw [readFrom, hagain]
    rfl
  case isFalse hquote =>
    have hread : State.read ⟨.inQuotes, letters, size, values⟩ c
        = .ok ⟨.inQuotes, c :: letters, size + 1, values⟩ := by
      rw [← add_eq letters values .inQuotes hsize]
      simp [State.read, hquote]
    rw [List.singleton_append, readFrom, hread]
    rfl

/-- Letters between quotes are read one after the other. -/
theorem readFrom_quoted
    {cs : List Char} (hsize : size + cs.length ≤ maxLength) (rest : List Char) :
  readFrom ⟨.inQuotes, letters, size, values⟩ (doubleQuotes cs ++ rest)
    = readFrom ⟨.inQuotes, cs.reverse ++ letters, size + cs.length, values⟩ rest
  := by
  induction cs generalizing letters size with
  | nil => rfl
  | cons c more ih =>
      rw [List.length_cons] at hsize
      rw [doubleQuotes, List.flatMap_cons, List.append_assoc, ← doubleQuotes,
        readFrom_letter letters values c (by omega), List.reverse_cons, List.append_assoc,
        List.length_cons, Nat.add_comm more.length, ← Nat.add_assoc]
      apply ih
      omega

end Letters

/-! ### Values -/

/-- The written form of a value is read as its letters: the value may end here. -/
def State.Ends (s : State) (value : String) (values : List String) : Prop :=
  (s.place = .start ∨ s.place = .plain ∨ s.place = .afterQuote) ∧
    s.letters = value.toList.reverse ∧ s.values = values

theorem State.Ends.comma {s : State} {value : String} {values : List String}
    (h : s.Ends value values) :
  s.read ',' = .ok ⟨.start, [], 0, value :: values⟩
  := by
  obtain ⟨place, letters, size, before⟩ := s
  obtain ⟨hplace, rfl, rfl⟩ := h
  dsimp only at hplace
  have hclose : State.close ⟨place, value.toList.reverse, size, before⟩ .start
      = ⟨.start, [], 0, value :: before⟩ := by
    rw [close, List.reverse_reverse, String.ofList_toList]
  rw [← hclose]
  obtain rfl | rfl | rfl := hplace <;> rfl

theorem State.Ends.finish {s : State} {value : String} {values : List String}
    (h : s.Ends value values) :
  s.finish = (value :: values).reverse
  := by
  obtain ⟨place, letters, size, before⟩ := s
  obtain ⟨hplace, rfl, rfl⟩ := h
  dsimp only at hplace
  have hbreak : place ≠ .afterBreak := by
    rintro rfl
    simp at hplace
  rw [State.finish, if_neg hbreak, close, List.reverse_reverse, String.ofList_toList]

/-- Letters between two quotes are read up to the second quote. -/
theorem readFrom_enclosed {cs : List Char} (hsize : cs.length ≤ maxLength) (values : List String)
    (rest : List Char) :
  readFrom ⟨.start, [], 0, values⟩ ('"' :: (doubleQuotes cs ++ '"' :: rest))
    = readFrom ⟨.afterQuote, cs.reverse, cs.length, values⟩ rest
  := by
  have hopen : State.read ⟨.start, [], 0, values⟩ '"' = .ok ⟨.inQuotes, [], 0, values⟩ := rfl
  have hclose : State.read ⟨.inQuotes, cs.reverse, cs.length, values⟩ '"'
      = .ok ⟨.afterQuote, cs.reverse, cs.length, values⟩ := rfl
  rw [readFrom, hopen]
  change readFrom ⟨.inQuotes, [], 0, values⟩ _ = _
  rw [readFrom_quoted [] values (by omega), List.append_nil, Nat.zero_add, readFrom, hclose]
  rfl

/-- Letters that are no commas, no quotes and no breaks are read as they stand, without the spaces
before them. -/
theorem readFrom_bare {cs : List Char}
    (hcs : ∀ c ∈ cs, State.isBreak c = false ∧ c ≠ ',' ∧ c ≠ '"')
    (hsize : (cs.dropWhile (· == ' ')).length ≤ maxLength) (values : List String) :
  ∃ s : State, s.Ends (String.ofList (cs.dropWhile (· == ' '))) values ∧ ∀ rest,
    readFrom ⟨.start, [], 0, values⟩ (cs ++ rest) = readFrom s rest
  := by
  induction cs with
  | nil =>
      use ⟨.start, [], 0, values⟩
      simp [State.Ends]
  | cons c more ih =>
      obtain ⟨⟨hbreak, hcomma, hquote⟩, hmore⟩ := List.forall_mem_cons.mp hcs
      by_cases hspace : c = ' '
      · subst hspace
        -- the reader stays where it is
        obtain ⟨s, hs, hread⟩ := ih hmore hsize
        exact ⟨s, hs, hread⟩
      · rw [List.dropWhile_cons_of_neg (by simpa using hspace)] at hsize ⊢
        rw [List.length_cons] at hsize
        use ⟨.plain, more.reverse ++ [c], 1 + more.length, values⟩
        constructor
        · simp [State.Ends]
        · intro rest
          rw [List.cons_append, readFrom, read_first values hbreak hspace hcomma hquote]
          apply readFrom_plain [c] values _ (by omega)
          intro d hd
          obtain ⟨hbreak, hcomma, -⟩ := hmore d hd
          use hbreak, hcomma

theorem strip_ofList (cs : List Char) :
  strip (String.ofList cs) = String.ofList (trim cs)
  := by
  rw [strip, String.toList_ofList]

/-- Spaces are blank. -/
theorem trim_dropWhile_space (cs : List Char) :
  trim (cs.dropWhile (· == ' ')) = trim cs
  := by
  apply trimOf_dropWhile
  intro c hc
  rw [beq_iff_eq.mp hc]
  rfl

/-- A value that is written without quotes has no commas, no quotes and no breaks. -/
theorem Legible.plain {value : String} (h : Legible value)
    (hplain : ¬ (value.toList.contains ',' || value.toList.contains '"') = true) :
  ∀ c ∈ value.toList, State.isBreak c = false ∧ c ≠ ',' ∧ c ≠ '"'
  := by
  rw [Bool.or_eq_true, List.contains_iff_mem, List.contains_iff_mem] at hplain
  intro c hc
  refine ⟨?_, ?_, ?_⟩
  · by_contra hbreak
    rw [Bool.not_eq_false] at hbreak
    apply hplain (h.unbroken c hc hbreak)
  · rintro rfl
    apply hplain (.inl hc)
  · rintro rfl
    apply hplain (.inr hc)

/-- A legible value is read from its written form, perhaps without some blanks at its start. -/
theorem readFrom_value {value : String} (h : Legible value) (values : List String) :
  ∃ s : State, ∃ found : String, s.Ends found values ∧ strip found = strip value ∧ ∀ rest,
    readFrom ⟨.start, [], 0, values⟩ ((formatValue value).toList ++ rest) = readFrom s rest
  := by
  have hsize : value.toList.length ≤ maxLength := by
    rw [String.length_toList]
    apply h.short
  rw [formatValue]
  split
  case isTrue hmarked =>
    use ⟨.afterQuote, value.toList.reverse, value.toList.length, values⟩, value
    refine ⟨by simp [State.Ends], rfl, ?_⟩
    intro rest
    rw [String.toList_ofList, List.cons_append, List.cons_append, List.append_assoc,
      List.singleton_append, readFrom_enclosed hsize]
  case isFalse hplain =>
    obtain ⟨s, hs, hread⟩ := readFrom_bare (h.plain hplain)
      ((List.dropWhile_suffix _).length_le.trans hsize) values
    refine ⟨s, _, hs, ?_, hread⟩
    rw [strip_ofList, trim_dropWhile_space, strip]

/-! ### Rows -/

/-- A legible value at the end of a line is read after a space, also when the blanks at the end of
the line are gone. -/
theorem readFrom_last {value : String} (h : Legible value) (before : List String) :
  ∃ found, strip found = strip value ∧
    readFrom ⟨.start, [], 0, before⟩ (trimEnd isBlank (' ' :: (formatValue value).toList))
      = .ok (before.reverse ++ [found])
  := by
  by_cases hmarked : (value.toList.contains ',' || value.toList.contains '"') = true
  · -- the closing quote keeps the end of the line
    have hkept : trimEnd isBlank (' ' :: (formatValue value).toList)
        = ' ' :: (formatValue value).toList := by
      rw [formatValue, if_pos hmarked, String.toList_ofList, ← List.cons_append,
        trimEnd_append_cons _ (by decide)]
      rfl
    have hspace : readFrom ⟨.start, [], 0, before⟩ (' ' :: (formatValue value).toList)
        = readFrom ⟨.start, [], 0, before⟩ ((formatValue value).toList ++ []) := by
      rw [List.append_nil]
      rfl
    obtain ⟨s, found, hs, hfound, hread⟩ := readFrom_value h before
    use found, hfound
    rw [hkept, hspace, hread, readFrom, hs.finish, List.reverse_cons]
  · have hvalue : formatValue value = value := if_neg hmarked
    rw [hvalue]
    have hcs : ∀ c ∈ trimEnd isBlank (' ' :: value.toList),
        State.isBreak c = false ∧ c ≠ ',' ∧ c ≠ '"' := by
      intro c hc
      obtain rfl | hc := List.mem_cons.mp ((isPrefix_trimEnd _).subset hc)
      · decide
      · apply h.plain hmarked c hc
    have hsize : ((trimEnd isBlank (' ' :: value.toList)).dropWhile (· == ' ')).length
        ≤ maxLength := by
      have hshort : value.toList.length ≤ maxLength := by
        rw [String.length_toList]
        apply h.short
      obtain hnone | ⟨kept, hkept, hcs⟩ :=
        List.prefix_cons_iff.mp (isPrefix_trimEnd (p := isBlank) (' ' :: value.toList))
      · rw [hnone]
        apply Nat.zero_le
      · rw [hkept, List.dropWhile_cons_of_pos (by rfl)]
        exact (List.dropWhile_suffix _).length_le.trans (hcs.length_le.trans hshort)
    obtain ⟨s, hs, hread⟩ := readFrom_bare hcs hsize before
    have hend := hread []
    rw [List.append_nil] at hend
    use String.ofList ((trimEnd isBlank (' ' :: value.toList)).dropWhile (· == ' '))
    constructor
    · rw [strip_ofList, trim_dropWhile_space, trim, trimOf_trimEnd, trimOf_cons (by rfl), strip,
        trim]
    · rw [hend, readFrom, hs.finish, List.reverse_cons]

/-- The written forms of values with commas and spaces between them. -/
def listed (values : List String) : List Char :=
  [',', ' '].intercalate (values.map fun value => (formatValue value).toList)

theorem listed_singleton (value : String) :
  listed [value] = (formatValue value).toList
  := by
  simp [listed]

theorem listed_cons (value : String) {values : List String} (h : values ≠ []) :
  listed (value :: values) = (formatValue value).toList ++ ',' :: ' ' :: listed values
  := by
  cases values with
  | nil => exact absurd rfl h
  | cons next more => simp [listed, List.intercalate_cons_cons]

/-- Listed values are read after a space, also when the blanks at the end of the line are gone;
these are no part of a value. -/
theorem readFrom_listed
    {values : List String} (h : ∀ value ∈ values, Legible value) (hvalues : values ≠ [])
    (before : List String) :
  ∃ found, found.map strip = values.map strip ∧
    readFrom ⟨.start, [], 0, before⟩ (trimEnd isBlank (' ' :: listed values))
      = .ok (before.reverse ++ found)
  := by
  induction values generalizing before with
  | nil => exact absurd rfl hvalues
  | cons value rest ih =>
      obtain ⟨hvalue, hrest⟩ := List.forall_mem_cons.mp h
      by_cases hlast : rest = []
      · subst hlast
        obtain ⟨found, hfound, hread⟩ := readFrom_last hvalue before
        use [found]
        rw [listed_singleton, hread, List.map_singleton, List.map_singleton, hfound]
        exact ⟨rfl, rfl⟩
      · obtain ⟨s, found, hs, hfound, hread⟩ := readFrom_value hvalue before
        obtain ⟨more, hmore, hreadMore⟩ := ih hrest hlast (found :: before)
        have hspace : ∀ cs, readFrom ⟨.start, [], 0, before⟩ (' ' :: cs)
            = readFrom ⟨.start, [], 0, before⟩ cs := fun _ => rfl
        use found :: more
        constructor
        · rw [List.map_cons, List.map_cons, hfound, hmore]
        · rw [listed_cons value hlast, ← List.cons_append, trimEnd_append_cons _ (by decide),
            List.cons_append, hspace, hread, readFrom, hs.comma]
          change readFrom ⟨.start, [], 0, found :: before⟩ _ = _
          rw [hreadMore, List.reverse_cons, List.append_assoc, List.singleton_append]

theorem unbroken_formatValue {value : String} (h : ∀ c ∈ value.toList, isLineBreak c = false) :
  ∀ c ∈ (formatValue value).toList, isLineBreak c = false
  := by
  rw [formatValue]
  split
  · rw [String.toList_ofList, List.cons_append, List.forall_mem_cons, List.forall_mem_append,
      List.forall_mem_singleton]
    refine ⟨by decide, ?_, by decide⟩
    intro c hc
    obtain ⟨d, hd, hc⟩ := List.mem_flatMap.mp hc
    split at hc
    · obtain rfl | rfl : c = '"' ∨ c = '"' := by simpa using hc
      all_goals decide
    · rw [List.mem_singleton.mp hc]
      apply h d hd
  · apply h

theorem unbroken_listed
    {values : List String} (h : ∀ value ∈ values, ∀ c ∈ value.toList, isLineBreak c = false) :
  ∀ c ∈ listed values, isLineBreak c = false
  := by
  induction values with
  | nil => simp [listed]
  | cons value rest ih =>
      obtain ⟨hvalue, hrest⟩ := List.forall_mem_cons.mp h
      by_cases hlast : rest = []
      · subst hlast
        rw [listed_singleton]
        apply unbroken_formatValue hvalue
      · rw [listed_cons value hlast, List.forall_mem_append, List.forall_mem_cons,
          List.forall_mem_cons]
        exact ⟨unbroken_formatValue hvalue, by decide, by decide, ih hrest⟩

/-! ### Lines -/

theorem toList_format_eq (key : String) (row : List String) :
  (format key row).toList = listed (key :: row)
  := by
  rw [format, String.toList_intercalate, List.map_map]
  rfl

theorem toList_format (key : String) {row : List String} (hrow : row ≠ []) :
  (format key row).toList = (formatValue key).toList ++ ',' :: ' ' :: listed row
  := by
  rw [toList_format_eq, listed_cons key hrow]

/-- The text can start a line that holds a row: its first character is neither a blank nor the
sign of a comment. -/
def Starts (key : String) : Prop :=
  ∃ c cs, key.toList = c :: cs ∧ isBlank c = false ∧ c ≠ '#'

theorem Starts.formatValue {key : String} (h : Starts key) :
  Starts (formatValue key)
  := by
  rw [PolicyLine.formatValue]
  split
  · rw [Starts, String.toList_ofList]
    exact ⟨'"', _, rfl, by decide, by decide⟩
  · apply h

/-- The text of a line of a row without the blanks at its ends. -/
theorem trim_format {key : String} (h : Starts key) {row : List String} (hrow : row ≠ []) :
  trim (format key row).toList
    = (formatValue key).toList ++ ',' :: trimEnd isBlank (' ' :: listed row)
  := by
  obtain ⟨c, cs, hkey, hc, -⟩ := h.formatValue
  have hfirst : ∀ d ∈ (format key row).toList.head?, isBlank d = false := by
    intro d hd
    rw [toList_format key hrow, hkey] at hd
    cases hd
    apply hc
  rw [trim, trimOf, dropWhile_eq_self hfirst, toList_format key hrow,
    trimEnd_append_cons _ (by decide)]

/-- A line of a row is neither blank nor a comment. -/
theorem parse_format_eq {key : String} (h : Starts key) {row : List String} (hrow : row ≠ []) :
  parse (format key row)
    = match readFrom {} (trim (format key row).toList) with
      | .ok values => .ok (some (values.map strip))
      | .error fault =>
        .error (.source (.malformedLine (strip (format key row)) ⟨.delimited, fault.message⟩))
  := by
  obtain ⟨c, cs, hkey, -, hc⟩ := h.formatValue
  rw [parse, if_neg]
  · rfl
  · rw [trim_format h hrow, hkey]
    simpa using hc

/-- The line of a row is read as its key and its values without the blanks at their ends. -/
theorem parse_format_trimmed
    {key : String} (hkey : Starts key) (hlegible : Legible key) {row : List String}
    (hrow : row ≠ []) (h : ∀ value ∈ row, Legible value) :
  parse (format key row) = .ok (some ((key :: row).map strip))
  := by
  obtain ⟨s, first, hs, hfirst, hread⟩ := readFrom_value hlegible []
  obtain ⟨found, hfound, hreadMore⟩ := readFrom_listed h hrow [first]
  have hvalues : readFrom {} (trim (format key row).toList) = .ok (first :: found) := by
    rw [trim_format hkey hrow, hread, readFrom, hs.comma]
    apply hreadMore
  rw [parse_format_eq hkey hrow, hvalues]
  dsimp only
  rw [List.map_cons, List.map_cons, hfirst, hfound]

/-- The line of a row is read as its key and its values. -/
theorem parse_format
    {key : String} (hkey : Starts key) (hcarried : Carried key) {row : List String}
    (hrow : row ≠ []) (h : ∀ value ∈ row, Carried value) :
  parse (format key row) = .ok (some (key :: row))
  := by
  have hstrip : (key :: row).map strip = key :: row := by
    apply (List.map_congr_left _).trans (List.map_id _)
    rw [List.forall_mem_cons]
    use hcarried.strip_eq
    intro value hvalue
    apply (h value hvalue).strip_eq
  rw [parse_format_trimmed hkey hcarried.legible hrow fun value hvalue =>
    (h value hvalue).legible, hstrip]

/-- A line whose key is longer than a value may be is refused. -/
theorem parse_format_tooLong
    {key : String} (hkey : Starts key)
    (hplain : ∀ c ∈ key.toList, isBlank c = false ∧ c ≠ ',' ∧ c ≠ '"')
    (hlong : maxLength < key.length) {row : List String} (hrow : row ≠ []) :
  parse (format key row) = .error
    (.source (.malformedLine (strip (format key row)) ⟨.delimited, Fault.tooLong.message⟩))
  := by
  have hformat : formatValue key = key := by
    rw [formatValue, if_neg]
    rw [Bool.or_eq_true, not_or, List.contains_iff_mem, List.contains_iff_mem]
    constructor
    · intro hcomma
      apply (hplain _ hcomma).2.1 rfl
    · intro hquote
      apply (hplain _ hquote).2.2 rfl
  have hread : readFrom {} (trim (format key row).toList) = .error .tooLong := by
    rw [trim_format hkey hrow, hformat]
    rw [← String.length_toList] at hlong
    cases hletters : key.toList with
    | nil =>
        rw [hletters] at hlong
        cases hlong
    | cons c more =>
        rw [hletters, List.forall_mem_cons] at hplain
        obtain ⟨⟨hblank, hcomma, hquote⟩, hmore⟩ := hplain
        rw [hletters, List.length_cons] at hlong
        rw [List.cons_append, readFrom]
        have hspace : c ≠ ' ' := by
          rintro rfl
          cases hblank
        rw [read_first [] (isBreak_eq_false (isLineBreak_eq_false hblank)) hspace hcomma hquote]
        change readFrom ⟨.plain, [c], 1, []⟩ _ = _
        apply readFrom_plain_tooLong
        · intro d hd
          obtain ⟨hblank, hcomma, -⟩ := hmore d hd
          use isBreak_eq_false (isLineBreak_eq_false hblank), hcomma
        · omega
        · decide
  rw [parse_format_eq hkey hrow, hread]

end PolicyLine

end AccessControl
