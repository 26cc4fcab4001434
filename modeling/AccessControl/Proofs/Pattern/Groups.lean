import AccessControl.Proofs.Pattern.Ways

/-!
# What groups keep

The marks of groups that are set one after the other.  A match in which the groups take texts in
order keeps each of these texts, `Cursor.Keeps`, whatever is matched between and behind them.
-/

namespace AccessControl

namespace Marks

/-! ### Marks -/

theorem lookup_filter (places : List (Nat × Nat)) (p : Nat → Bool) (j : Nat) :
  (places.filter fun place => p place.1).lookup j = if p j then places.lookup j else none
  := by
  induction places with
  | nil => simp
  | cons place rest ih =>
      obtain ⟨i, position⟩ := place
      by_cases hj : j = i
      · subst hj
        cases hp : p j <;> simp [hp, ih]
      · have hne : (j == i) = false := beq_eq_false_iff_ne.mpr hj
        cases hp : p i <;> simp [hp, List.lookup_cons, hne, ih]

/-- A mark that is set has its place. -/
theorem get?_put_self (m : Marks) (mark position : Nat) :
  (m.put mark position).get? mark = some position
  := by
  rw [get?, put, if_pos (Nat.lt_of_lt_of_le (Nat.lt_succ_self mark) (Nat.le_max_right _ _)),
    List.lookup_cons_self]

/-- A mark that is set leaves lower ones as they are. -/
theorem get?_put_of_lt (m : Marks) {i mark : Nat} (h : i < mark) (position : Nat) :
  (m.put mark position).get? i = m.get? i
  := by
  have hne : (i == mark) = false := beq_eq_false_iff_ne.mpr (Nat.ne_of_lt h)
  have hother : (i != mark) = true := bne_iff_ne.mpr (Nat.ne_of_lt h)
  have hlookup := lookup_filter m.places (fun j => decide (j < m.count) && j != mark) i
  rw [hother, Bool.and_true] at hlookup
  rw [get?, get?, put, if_pos (Nat.lt_of_lt_of_le (Nat.lt_succ_of_lt h) (Nat.le_max_right _ _)),
    List.lookup_cons, hne]
  refine hlookup.trans ?_
  simp only [decide_eq_true_eq]

end Marks

namespace Cursor

/-! ### Groups -/

theorem Moves.group?_eq {s t : Cursor} {taken : List Char} (h : s.Moves taken t) (index : Nat) :
  t.group? index = s.group? index
  := by
  rw [group?, group?, h.marks, h.before, h.rest, List.reverse_append, List.reverse_reverse,
    List.append_assoc]

/-- A mark leaves the groups before it as they are. -/
theorem group?_mark (s : Cursor) {index mark : Nat} (h : 2 * index + 1 < mark) :
  (s.mark mark).group? index = s.group? index
  := by
  have hstart : 2 * index < mark := Nat.lt_of_succ_lt h
  rw [group?, group?, Cursor.mark, Marks.span?, Marks.span?, Marks.bounds?, Marks.bounds?]
  simp only [Marks.get?_put_of_lt _ h, Marks.get?_put_of_lt _ hstart]

/-- The first groups have taken some texts, and the cursor knows where it is. -/
structure Keeps (s : Cursor) (texts : List (List Char)) : Prop where
  placed : s.position = s.before.length
  kept : (List.range texts.length).map (fun i => s.group? (i + 1)) = texts.map some

namespace Keeps

variable {s t m : Cursor} {texts : List (List Char)} {taken : List Char}

theorem start (text : List Char) : (Cursor.start text).Keeps [] := ⟨rfl, rfl⟩

theorem move (h : s.Keeps texts) (hmoves : s.Moves taken t) :
  t.Keeps texts
  := by
  constructor
  · rw [hmoves.position, h.placed, hmoves.before, List.length_append, List.length_reverse,
      Nat.add_comm]
  · simp only [hmoves.group?_eq, h.kept]

/-- The next group keeps the text that is taken between its marks. -/
theorem group (h : s.Keeps texts) (hmoves : (s.mark (2 * (texts.length + 1))).Moves taken m) :
  (m.mark (2 * (texts.length + 1) + 1)).Keeps (texts ++ [taken])
  := by
  have hposition : m.position = s.position + taken.length := hmoves.position
  have hlast : (m.mark (2 * (texts.length + 1) + 1)).group? (texts.length + 1) = some taken := by
    have hstart : m.marks.get? (2 * (texts.length + 1)) = some s.position := by
      rw [hmoves.marks, Cursor.mark, Marks.get?_put_self]
    have htext : m.before.reverse ++ m.rest = s.before.reverse ++ (taken ++ m.rest) := by
      rw [hmoves.before, List.reverse_append, List.reverse_reverse, List.append_assoc]
      rfl
    rw [group?, Cursor.mark, Marks.span?, Marks.bounds?,
      Marks.get?_put_of_lt _ (Nat.lt_succ_self _), hstart, Marks.get?_put_self]
    simp only [hposition, Nat.le_add_right, if_true, Option.map_some, htext, h.placed,
      Nat.add_sub_cancel_left]
    rw [List.drop_left' (List.length_reverse), List.take_left' rfl]
  constructor
  · change m.position = m.before.length
    rw [hposition, h.placed, hmoves.before, List.length_append, List.length_reverse, Nat.add_comm]
    rfl
  · have hearlier : ∀ i ∈ List.range texts.length,
        (m.mark (2 * (texts.length + 1) + 1)).group? (i + 1) = s.group? (i + 1) := by
      intro i hi
      rw [List.mem_range] at hi
      rw [group?_mark _ (by omega), hmoves.group?_eq, group?_mark _ (by omega)]
    rw [List.length_append, List.length_singleton, List.range_succ, List.map_append,
      List.map_append, List.map_congr_left hearlier, h.kept, List.map_singleton, hlast,
      List.map_singleton]

/-- No group ends before it begins. -/
theorem areCrossed_eq (h : s.Keeps texts) :
  s.marks.areCrossed texts.length = false
  := by
  rw [Marks.areCrossed, List.any_eq_false]
  intro i hi
  have hgroup : ∃ text, s.group? (i + 1) = some text := by
    have hmem : s.group? (i + 1) ∈ texts.map some := by
      rw [← h.kept]
      exact List.mem_map_of_mem hi
    obtain ⟨text, -, htext⟩ := List.mem_map.mp hmem
    exact ⟨text, htext.symm⟩
  obtain ⟨text, htext⟩ := hgroup
  rw [group?, Marks.span?] at htext
  cases hbounds : s.marks.bounds? (i + 1) with
  | none => simp
  | some bounds =>
      obtain ⟨start, finish⟩ := bounds
      rw [hbounds] at htext
      by_cases hle : start ≤ finish
      · simpa using hle
      · simp [hle] at htext

end Keeps

end Cursor

end AccessControl
