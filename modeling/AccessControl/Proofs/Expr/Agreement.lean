import AccessControl.Proofs.Expr.Evaluation
import AccessControl.Proofs.Failure.Agreement

/-!
# Functions that agree

Expressions under functions that never give different values.  The main result is
`Matcher.holds_agree`: a matcher does not come to different answers under such functions.
-/

namespace AccessControl

/-- Functions of the same name do not give different values. -/
def Functions.Agree (functions functions' : Functions) : Prop :=
  ∀ name f f', functions.lookup name = some f → functions'.lookup name = some f' →
    ∀ arguments, AccessControl.Agree (f arguments) (f' arguments)

namespace Expr

variable {sections : Sections} {functions functions' : Functions}

theorem callResult_eq_ok {name : String} {x : Except Failure Value} {v : Value}
    (h : callResult name x = .ok v) :
  x = .ok v
  := by
  rw [callResult.eq_def] at h
  split at h
  · cases h
  · cases h
  · cases h
  · apply h

mutual

/-- Expressions do not get different values, if their functions and the calls of `eval` do not
give any. -/
theorem evaluateIn_agree
    {sections : Sections} {functions functions' : Functions}
    (hfunctions : functions.Agree functions')
    {nested nested' : String → String → Except Failure Value}
    (hnested : ∀ key text, Agree (nested key text) (nested' key text)) :
  ∀ e, Agree (evaluateIn sections functions nested e) (evaluateIn sections functions' nested' e)
  | .literal _ | .field _ _ _ | .identifier _ => by
      rw [evaluateIn, evaluateIn]
      apply Agree.refl
  | .unary op e => by
      rw [evaluateIn, evaluateIn]
      apply Agree.bind (evaluateIn_agree hfunctions hnested e)
      intro v
      apply Agree.refl
  | .binary op l r => by
      rw [evaluateIn, evaluateIn]
      apply Agree.bind (evaluateIn_agree hfunctions hnested l)
      intro v
      apply Agree.bind (evaluateIn_agree hfunctions hnested r)
      intro w
      apply Agree.refl
  | .logical op l r => by
      rw [evaluateIn, evaluateIn]
      apply Agree.bind (evaluateIn_agree hfunctions hnested l)
      intro v
      apply Agree.bind (Agree.refl _)
      intro b
      split
      case isTrue => apply Agree.refl
      case isFalse =>
        apply Agree.bind (evaluateIn_agree hfunctions hnested r)
        intro w
        apply Agree.refl
  | .tuple items => by
      rw [evaluateIn, evaluateIn]
      apply Agree.bind (evaluateAll_agree hfunctions hnested items)
      intro vs
      apply Agree.refl
  | .call name arguments => by
      by_cases hname : name = "eval"
      · subst hname
        match arguments with
        | [argument] =>
            rw [evaluateIn, evaluateIn]
            apply Agree.bind (evaluateIn_agree hfunctions hnested argument)
            intro v
            split
            · apply hnested
            · apply Agree.refl
        | [] | _ :: _ :: _ =>
            rw [evaluateIn, evaluateIn]
            · apply Agree.refl
            · rintro _ ⟨⟩
            · rintro _ ⟨⟩
      · rw [evaluateIn, evaluateIn]
        · cases hf : functions.lookup name with
          | none => apply Agree.of_error
          | some f =>
              cases hf' : functions'.lookup name with
              | none => apply Agree.to_error
              | some f' =>
                  apply Agree.bind (evaluateAll_agree hfunctions hnested arguments)
                  intro vs v w hv hw
                  apply hfunctions name f f' hf hf' vs v w (callResult_eq_ok hv) (callResult_eq_ok hw)
        · apply hname
        · apply hname

theorem evaluateAll_agree
    {sections : Sections} {functions functions' : Functions}
    (hfunctions : functions.Agree functions')
    {nested nested' : String → String → Except Failure Value}
    (hnested : ∀ key text, Agree (nested key text) (nested' key text)) :
  ∀ es, Agree (evaluateAll sections functions nested es) (evaluateAll sections functions' nested' es)
  | [] => by
      rw [evaluateAll, evaluateAll]
      apply Agree.refl
  | e :: es => by
      rw [evaluateAll, evaluateAll]
      apply Agree.bind (evaluateIn_agree hfunctions hnested e)
      intro v
      apply Agree.bind (evaluateAll_agree hfunctions hnested es)
      intro vs
      apply Agree.refl

end

theorem evaluateAt_agree
    (hfunctions : functions.Agree functions') (room : Nat) (stack : List String) (e : Expr) :
  Agree (evaluateAt sections functions room stack e) (evaluateAt sections functions' room stack e)
  := by
  induction room generalizing stack e with
  | zero =>
      rw [evaluateAt_eq, evaluateAt_eq]
      apply evaluateIn_agree hfunctions
      intro key text
      rw [evalNested, evalNested]
      apply Agree.refl
  | succ room ih =>
      rw [evaluateAt_eq, evaluateAt_eq]
      apply evaluateIn_agree hfunctions
      intro key text
      rw [evalNested, evalNested]
      split
      case isTrue => apply Agree.refl
      case isFalse =>
        apply Agree.bind (Agree.refl (parse text))
        intro tree
        apply ih

end Expr

/-- A matcher does not come to different answers under functions that do not. -/
theorem Matcher.holds_agree
    {functions functions' : Functions} (h : functions.Agree functions') (matcher : Matcher)
    (sections : Sections) :
  Agree (matcher.holds sections functions) (matcher.holds sections functions')
  := by
  apply Agree.bind (Expr.evaluateAt_agree h _ _ _)
  intro v
  apply Agree.refl

end AccessControl
