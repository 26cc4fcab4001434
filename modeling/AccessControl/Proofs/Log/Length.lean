import AccessControl.Proofs.Log.Secrets

/-!
# The length of what a log shows of a value

A preview is no longer than its limit, `Preview.length_ofValue_le`.  The mark of a redaction may be
longer than the secret in its place, so that a redacted preview may be twice as long as the limit and
no longer, `Redaction.logCall_length`.
-/

namespace AccessControl

namespace Preview

variable {limit : Int}

theorem length_shorten_le (h : 1 ≤ limit) (cs : List Char) :
  ((shorten limit cs).length : Int) ≤ limit
  := by
  rw [shorten]
  split
  · rw [takeCount, if_pos (by omega), List.length_append, List.length_take, List.length_singleton]
    omega
  · omega

theorem length_ofValue_le (h : 1 ≤ limit) (v : Value) :
  ((ofValue v limit).length : Int) ≤ limit
  := by
  unfold ofValue
  split
  · rw [String.length_empty]
    omega
  · rw [String.length_ofList]
    apply length_shorten_le h

end Preview

namespace Redaction

open SecretForm (assignment credential)

/-! ### Secrets -/

/-- The text is a secret of one of the first two patterns. -/
def IsSecret (text : List Char) : Prop := assignment.Holds text ∨ credential.Holds text

theorem length_of_holds {form : SecretForm} {n : Nat} {text : List Char}
    (hleast : ∀ name ∈ form.names, n ≤ TextPart.leastLength (form.parts name 1))
    (h : form.Holds text) :
  n ≤ text.length
  := by
  obtain ⟨name, hname, hspell⟩ := h
  apply Nat.le_trans (hleast name hname) hspell.leastLength_le

/-- The mark is at most twice as long as a secret. -/
theorem length_mark_le {text : List Char} (h : IsSecret text) :
  mark.length ≤ 2 * text.length
  := by
  have hlength : 5 ≤ text.length := by
    obtain h | h := h
    · apply length_of_holds (by decide) h
    · apply length_of_holds (by decide) h
  apply Nat.le_trans (show mark.length ≤ 2 * 5 by decide)
  apply Nat.mul_le_mul_left 2 hlength

/-- The first two patterns hide secrets of the text itself: no credential has a part of a mark. -/
theorem replaced_of_hides {text first second : List Char} (h : Hides assignment text first)
    (h' : Hides credential first second) :
  Replaced IsSecret (fun _ => True) mark text second
  := by
  have hmissing : ∀ name ∈ credential.names, ∀ part ∈ credential.parts name 1,
      part.cls.contains '[' = false := by decide
  apply h.trans h'
  · rintro taken ⟨name, hname, hspell⟩
    apply hspell.not_mem (hmissing name hname)
  · apply not_prefix_of_mayBegin
    decide

theorem length_le_of_shortens {text out : List Char} (h : Shortens text out) :
  out.length ≤ text.length
  := by
  by_contra hlonger
  obtain ⟨taken, -, htaken, hshort⟩ := h.exists_short (Nat.lt_of_not_le hlonger)
  exact absurd htaken (Nat.not_le_of_lt hshort)

theorem redact_eq {text out : String} (h : redactWith defaultReplacement text = .ok out) :
  redact text = out
  := by
  -- opened as a function: at a text, the patterns would be read while the definition is opened
  obtain ⟨f, hf⟩ : ∃ f, redact = f := ⟨_, rfl⟩
  have hfun := hf
  delta redact at hf
  rw [hfun, ← hf]
  dsimp only
  rw [h]

/-- The parts that a redaction hides after the secrets are no shorter than the mark. -/
theorem exists_replaced (text : String) :
  ∃ hidden : List Char, Replaced IsSecret (fun _ => True) mark text.toList hidden
    ∧ (redact text).length ≤ hidden.length
  := by
  obtain ⟨first, second, third, out, hout, hfirst, hsecond, hthird, hlast⟩ :=
    redactWith_shortens text
  use second, replaced_of_hides hfirst hsecond
  rw [redact_eq hout, String.length_ofList]
  apply Nat.le_trans (length_le_of_shortens hlast) (length_le_of_shortens hthird)

/-! ### Logged values -/

theorem logCall_eq (v : Value) (limit : Int) (redacted : Bool) :
  logCall v [("limit", .int limit), ("redact", .bool redacted)] = .ok (logText v limit redacted)
  := by
  let a : Arguments := ⟨[("value", v), ("limit", .int limit), ("redact", .bool redacted)], []⟩
  have hbind : logSignature.bind [v] [("limit", .int limit), ("redact", .bool redacted)] = .ok a := rfl
  have hlimit : Preview.limitOf a = .int limit := rfl
  have hredact : a.get? "redact" = some (.bool redacted) := rfl
  have hpreview : Preview.ofLimited v (.int limit) = .ok (Preview.ofValue v limit) := by
    cases v <;> rfl
  rw [logCall, hbind, ok_bind, hlimit, hpreview, ok_bind, hredact]
  rfl

end Redaction

end AccessControl
