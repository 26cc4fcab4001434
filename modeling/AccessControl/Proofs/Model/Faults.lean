import AccessControl.Model.File
import AccessControl.Proofs.Expr.Numerals
import AccessControl.Proofs.Failure.Results

/-!
# Texts that are no models

A text that is refused as a model is refused for a fault of the model, except when one of its
matchers has a numeral that cannot be read; then the host's own complaint comes through,
`Model.ofText_failsOnly`.
-/

namespace AccessControl

open Failure

/-! ### Meanings -/

namespace Meaning

theorem readFields_failsOnly (key text : String) :
  FailsOnly IsModelFault (readFields key text)
  := by
  rw [readFields]
  split
  · apply failsOnly_fault
  · apply FailsOnly.ok

theorem readNames_failsOnly (key written : String) :
  FailsOnly IsModelFault (readNames key written)
  := by
  apply FailsOnly.bind (readFields_failsOnly key (strip written))
  intro fields _
  split
  · apply failsOnly_fault
  · split
    · apply failsOnly_fault
    · apply FailsOnly.ok

theorem readPlaces_failsOnly (key text : String) :
  FailsOnly IsModelFault (readPlaces key text)
  := by
  apply FailsOnly.bind (readFields_failsOnly key text)
  intro fields _
  split
  · apply FailsOnly.ok
  · apply failsOnly_fault

theorem ofStrategy_failsOnly (text : String) :
  FailsOnly IsModelFault (Strategy.ofText text)
  := by
  rw [Strategy.ofText]
  split
  · apply FailsOnly.ok
  · apply failsOnly_fault

/-- A grammar fault of a matcher becomes a fault of the model; a numeral does not. -/
theorem readMatcher_failsOnly (key text : String) :
  FailsOnly (fun failure => failure.IsModelFault ∨ Expr.NumeralFails text failure)
    (readMatcher key text)
  := by
  intro failure h
  rw [readMatcher] at h
  cases hparse : Expr.parse text with
  | ok tree =>
      rw [Matcher.ofText, hparse] at h
      cases h
  | error e =>
      rw [Matcher.ofText, hparse] at h
      obtain ⟨fault, position, rfl⟩ | ⟨tokens, error, htokens, hunreadable, rfl⟩ :=
        Expr.parse_eq_error hparse
      · cases h
        exact .inl ⟨_, rfl⟩
      · cases h
        exact .inr ⟨tokens, error, htokens, hunreadable, rfl⟩

theorem ofText_failsOnly (kind : SectionKind) (key written : String) :
  FailsOnly (fun failure => failure.IsModelFault ∨
      kind = .matcher ∧ Expr.NumeralFails (strip written) failure)
    (ofText kind key written)
  := by
  cases kind <;> rw [ofText]
  case request =>
    apply FailsOnly.map
    apply (readNames_failsOnly key written).left
  case policy =>
    apply FailsOnly.map
    apply (readNames_failsOnly key written).left
  case role =>
    apply FailsOnly.map
    apply (readPlaces_failsOnly key (strip written)).left
  case effect =>
    apply FailsOnly.map
    apply (ofStrategy_failsOnly (strip written)).left
  case matcher =>
    apply FailsOnly.map
    intro failure h
    obtain h | h := readMatcher_failsOnly key (strip written) failure h
    · exact .inl h
    · exact .inr ⟨rfl, h⟩

end Meaning

/-! ### Entries -/

namespace ModelText

theorem take_failsOnly (place : Place) (number : Nat) (line : List Char) (contents : Contents) :
  FailsOnly IsModelFault (take place number line contents).1
  := by
  rw [take]
  split
  · split <;> apply FailsOnly.ok
  · split
    · apply FailsOnly.ok
    · apply failsOnly_fault
    · apply FailsOnly.ok
    · apply failsOnly_fault

theorem readLines_failsOnly
    (ls : List (List Char)) (number : Nat) (state : State) (contents : Contents) :
  FailsOnly IsModelFault (readLines number state contents ls).1
  := by
  induction ls generalizing number state contents with
  | nil =>
      rw [readLines]
      split
      · apply FailsOnly.ok
      · apply failsOnly_fault
  | cons raw rest ih =>
      rw [readLines]
      dsimp only
      generalize (if (!state.pending.isEmpty) = true then state.pending ++ ' ' :: trim raw
        else trim raw) = line
      split
      · apply ih
      · split
        · apply ih
        · split
          · apply ih
          case h_2 htake =>
            apply FailsOnly.error
            apply take_failsOnly _ _ _ _ _ (congrArg Prod.fst htake)

theorem entries_failsOnly (text : String) :
  FailsOnly IsModelFault (entries text)
  := by
  rw [entries]
  split
  · apply FailsOnly.ok
  case h_2 hread =>
    apply FailsOnly.error
    apply readLines_failsOnly _ _ _ _ _ (congrArg Prod.fst hread)

end ModelText

namespace Model

/-! ### Definitions -/

theorem checkKeyOf_failsOnly (kind : SectionKind) (key : String) :
  FailsOnly IsModelFault (checkKeyOf kind key)
  := by
  rw [checkKeyOf]
  split
  · apply FailsOnly.ok
  · apply failsOnly_fault

theorem inherited_failsOnly (d : Definition) (old : Option Definition) :
  FailsOnly IsModelFault (inherited d old)
  := by
  cases old with
  | none => apply FailsOnly.ok
  | some old =>
      have hshape : FailsOnly IsModelFault
          (if old.arity = d.arity then .ok old.rows
          else .error (.model (.redefined d.key d.arity old.arity))) := by
        split
        · apply FailsOnly.ok
        · apply failsOnly_fault
      rw [inherited]
      split
      case h_1 | h_2 | h_3 => exact hshape
      case h_4 | h_5 => apply FailsOnly.ok

theorem validate_failsOnly (m : Model) :
  FailsOnly IsModelFault m.validate
  := by
  rw [validate]
  split
  · apply FailsOnly.ok
  · apply failsOnly_fault

/-- The failure is the host's complaint about a numeral of a matcher. -/
def MatcherFails (entry : Entry) (failure : Failure) : Prop :=
  entry.kind = .matcher ∧ Expr.NumeralFails (strip entry.value) failure

theorem defineEntry_failsOnly (state : Model × List LogEvent) (entry : Entry) :
  FailsOnly (fun failure => failure.IsModelFault ∨ MatcherFails entry failure)
    (defineEntry state entry)
  := by
  apply FailsOnly.bind
  · apply FailsOnly.bind
    · apply (checkKeyOf_failsOnly entry.kind entry.key).left
    · intro _ _
      split
      · apply FailsOnly.ok
      · apply FailsOnly.bind (Meaning.ofText_failsOnly entry.kind entry.key entry.value)
        intro meaning _
        apply FailsOnly.bind
        · apply (inherited_failsOnly _ _).left
        · intro rows _
          apply FailsOnly.ok
  · intro defined _
    apply FailsOnly.ok

/-! ### Models -/

/-- The failure is the host's complaint about a numeral of a matcher that a text defines. -/
def NumeralFails (text : String) (failure : Failure) : Prop :=
  ∃ entries, ModelText.entries text = .ok entries ∧ ∃ entry ∈ entries, MatcherFails entry failure

/-- A text that is refused as a model is refused for a fault of the model, or because of a numeral
in one of its matchers. -/
theorem ofText_failsOnly (text : String) :
  FailsOnly (fun failure => failure.IsModelFault ∨ NumeralFails text failure) (ofText text).1
  := by
  rw [ofText, load]
  cases hentries : ModelText.entries text with
  | error e =>
      apply FailsOnly.error
      exact .inl (ModelText.entries_failsOnly text e hentries)
  | ok entries =>
      dsimp only
      have hsteps : FailsOnly (fun failure => failure.IsModelFault ∨ NumeralFails text failure)
          (runSteps defineEntry (Model.mk [], ModelText.warnings text) entries).1 := by
        apply runSteps_failsOnly
        intro entry hentry state failure h
        obtain h | h := defineEntry_failsOnly state entry failure h
        · exact .inl h
        · exact .inr ⟨entries, hentries, entry, hentry, h⟩
      rcases hrun : runSteps defineEntry (Model.mk [], ModelText.warnings text) entries with
        ⟨failure | u, m, events⟩
      · apply FailsOnly.error
        apply hsteps failure (congrArg Prod.fst hrun)
      · dsimp only
        cases hvalid : m.validate with
        | ok u => apply FailsOnly.ok
        | error e =>
            apply FailsOnly.error
            exact .inl (validate_failsOnly m e hvalid)

end Model

end AccessControl
