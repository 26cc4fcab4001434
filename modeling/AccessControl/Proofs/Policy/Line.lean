import AccessControl.Policy.Line
import AccessControl.Proofs.Failure.Results

/-!
# Policy lines

What is read of a policy line.  A line that holds a row holds at least one value.
-/

namespace AccessControl

namespace PolicyLine

namespace State

/-- A value has been read once the end of a line has been met. -/
def Begun (s : State) : Prop := s.place = .afterBreak → s.values ≠ []

theorem begun_add {s s' : State} {place : Place} {c : Char} (hplace : place ≠ .afterBreak)
    (h : s.add place c = .ok s') :
  s'.Begun
  := by
  rw [add] at h
  split at h
  · cases h
  · cases h
    intro hcontra
    exact absurd hcontra hplace

theorem begun_close (s : State) (place : Place) :
  (s.close place).Begun
  := by
  intro _
  apply List.cons_ne_nil

theorem begun_read {s s' : State} {c : Char} (hs : s.Begun) (h : s.read c = .ok s') :
  s'.Begun
  := by
  have hclose : ∀ place, Except.ok (s.close place) = Except.ok (ε := Fault) s' → s'.Begun := by
    rintro place ⟨⟩
    apply begun_close
  have hplain : Except.ok s = Except.ok (ε := Fault) s' → s'.Begun := by
    rintro ⟨⟩
    apply hs
  have hadd : ∀ place, place ≠ .afterBreak → s.add place c = .ok s' → s'.Begun :=
    fun place => begun_add
  rw [read.eq_def] at h
  split at h
  case h_1 =>
    split at h
    · apply hclose _ h
    · split at h
      · cases h
        intro hcontra
        cases hcontra
      · split at h
        · apply hplain h
        · split at h
          · apply hclose _ h
          · apply hadd _ (by decide) h
  case h_2 =>
    split at h
    · apply hclose _ h
    · split at h
      · apply hclose _ h
      · apply hadd _ (by decide) h
  case h_3 =>
    split at h
    · cases h
      intro hcontra
      cases hcontra
    · apply hadd _ (by decide) h
  case h_4 =>
    split at h
    · apply hadd _ (by decide) h
    · split at h
      · apply hclose _ h
      · split at h
        · apply hclose _ h
        · apply hadd _ (by decide) h
  case h_5 =>
    split at h
    · apply hplain h
    · cases h

theorem finish_ne_nil {s : State} (hs : s.Begun) :
  s.finish ≠ []
  := by
  rw [finish]
  split
  case isTrue hplace =>
    rw [Ne, List.reverse_eq_nil_iff]
    apply hs hplace
  case isFalse => simp [close]

end State

theorem readFrom_ne_nil {s : State} {cs : List Char} {values : List String} (hs : s.Begun)
    (h : readFrom s cs = .ok values) :
  values ≠ []
  := by
  induction cs generalizing s with
  | nil =>
      cases h
      apply State.finish_ne_nil hs
  | cons c rest ih =>
      obtain ⟨s', hs', h⟩ := bind_eq_ok.mp h
      apply ih (State.begun_read hs hs') h

/-- A line that lists values lists at least one. -/
theorem parse_ne_nil {line : String} {row : List String} (h : parse line = .ok (some row)) :
  row ≠ []
  := by
  rw [parse] at h
  split at h
  · cases h
  · split at h
    case h_1 values hvalues =>
      cases h
      have hvalues := readFrom_ne_nil (by intro hcontra; cases hcontra) hvalues
      rw [Ne, List.map_eq_nil_iff]
      apply hvalues
    case h_2 => cases h

end PolicyLine

end AccessControl
