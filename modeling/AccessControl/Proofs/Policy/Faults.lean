import AccessControl.Model.Priority
import AccessControl.Policy.Source
import AccessControl.Proofs.Failure.Results

/-!
# Policies that cannot be loaded

Lines of a policy file are refused with errors of the library, whatever they say, and so are rows
that cannot be put in order.  The file itself may also be one that the host cannot read as text,
`Source.load_file_failsOnly`.
-/

namespace AccessControl

open Failure

/-! ### Rows -/

namespace Model

theorem get_failsOnly (m : Model) (kind : SectionKind) (key : String) :
  FailsOnly IsOwn (m.get kind key)
  := by
  rw [get]
  split
  · apply FailsOnly.ok
  · apply FailsOnly.error
    rfl

theorem checkRow_failsOnly (d : Definition) (values : List Value) :
  FailsOnly IsOwn (d.checkRow values)
  := by
  rw [Definition.checkRow]
  split
  · apply FailsOnly.error
    rfl
  · split
    · apply FailsOnly.ok
    · apply FailsOnly.error
      rfl

theorem addRow_failsOnly (m : Model) (kind : SectionKind) (key : String) (row : List Value) :
  FailsOnly IsOwn (m.addRow kind key row)
  := by
  apply FailsOnly.bind (get_failsOnly m kind key)
  intro d _
  apply FailsOnly.bind (checkRow_failsOnly d row)
  intro row _
  apply FailsOnly.ok

theorem sortDefinitions_failsOnly (ds : List Definition) :
  FailsOnly IsOwn (sortDefinitions ds).1
  := by
  induction ds with
  | nil => apply FailsOnly.ok
  | cons d rest ih =>
      rw [sortDefinitions]
      cases hsort : d.sortByPriority with
      | ok d' => apply ih
      | error failure =>
          apply FailsOnly.error
          rw [Definition.sortByPriority] at hsort
          split at hsort
          · split at hsort
            · cases hsort
            case h_2 i _ =>
              rw [Definition.sortedRows] at hsort
              split at hsort <;> cases hsort
              rfl
          · cases hsort

theorem sortByPriority_failsOnly (m : Model) :
  FailsOnly IsOwn m.sortByPriority.1
  := by
  apply sortDefinitions_failsOnly

end Model

/-! ### Lines -/

namespace Source

theorem kindOfKey_failsOnly (key : String) :
  FailsOnly IsOwn (kindOfKey key)
  := by
  rw [kindOfKey]
  split
  · apply FailsOnly.ok
  · split
    · apply FailsOnly.ok
    · apply FailsOnly.error
      rfl

/-- A stored row of texts is refused with an error of the library. -/
theorem loadRow_failsOnly (m : Model) (row : Row) :
  FailsOnly IsOwn (loadRow m (row.map .text))
  := by
  rcases row with _ | ⟨key, _ | ⟨value, rest⟩⟩
  · apply FailsOnly.error
    rfl
  · apply FailsOnly.error
    rfl
  · change FailsOnly IsOwn (kindOfKey key >>= _)
    apply FailsOnly.bind (kindOfKey_failsOnly key)
    intro kind _
    split
    · apply FailsOnly.error
      rfl
    · apply FailsOnly.bind (Model.addRow_failsOnly m kind key _)
      intro changed _
      apply FailsOnly.ok

theorem parse_failsOnly (line : String) :
  FailsOnly IsOwn (PolicyLine.parse line)
  := by
  rw [PolicyLine.parse]
  split
  · apply FailsOnly.ok
  · split
    · apply FailsOnly.ok
    · apply FailsOnly.error
      rfl

theorem loadLine_failsOnly (m : Model) (line : List Char) :
  FailsOnly IsOwn (loadLine m line)
  := by
  apply FailsOnly.bind (parse_failsOnly (String.ofList line))
  intro row _
  cases row with
  | none => apply FailsOnly.ok
  | some row => apply loadRow_failsOnly

/-! ### Files -/

/-- The failure is an error of the host about what a path leads to. -/
def ReadFails (files : Files) (path : Location) (failure : Failure) : Prop :=
  ∃ error, files.textAt path = .error error ∧ error.kind.isOfFiles = false ∧
    failure = .host error

theorem readFile_failsOnly (files : Files) (path : Location) :
  FailsOnly (fun failure => failure.IsOwn ∨ ReadFails files path failure) (readFile files path)
  := by
  rw [readFile]
  split
  · apply FailsOnly.ok
  case h_2 error htext =>
    split
    case isTrue =>
      apply FailsOnly.error
      exact .inl rfl
    case isFalse hkind =>
      apply FailsOnly.error
      exact .inr ⟨error, htext, Bool.eq_false_of_not_eq_true hkind, rfl⟩

/-- Loading a policy file fails with an error of the library, whatever its lines say, or with one
of the host about reading it. -/
theorem load_file_failsOnly (files : Files) (m : Model) (path : Location) :
  FailsOnly (fun failure => failure.IsOwn ∨ ReadFails files path failure)
    (load files m (.file path)).1
  := by
  rw [load]
  cases hread : readFile files path with
  | error failure =>
      apply FailsOnly.error
      apply readFile_failsOnly files path failure hread
  | ok text =>
      have hlines : FailsOnly IsOwn (runSteps loadLine m (lines text.toList)).1 :=
        runSteps_failsOnly (fun line _ m => loadLine_failsOnly m line) m
      dsimp only
      rcases hrun : runSteps loadLine m (lines text.toList) with ⟨failure | u, m'⟩
      · apply FailsOnly.error
        exact .inl (hlines failure (congrArg Prod.fst hrun))
      · apply FailsOnly.ok

end Source

end AccessControl
