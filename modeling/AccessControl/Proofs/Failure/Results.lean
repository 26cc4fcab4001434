import AccessControl.Failure.Steps
import Mathlib.Tactic

/-!
# Results

When computations that may fail, put together from others, give a result, and which failures
they can end with.
-/

namespace AccessControl

/-! ### Kinds of failure -/

/-- The failure is raised as one of the library's own error classes. -/
def Failure.IsOwn (failure : Failure) : Prop := failure.isLibrary = true

/-- The failure is a fault of a model. -/
def Failure.IsModelFault (failure : Failure) : Prop := ∃ fault, failure = .model fault

theorem Failure.IsModelFault.isOwn {failure : Failure} (h : failure.IsModelFault) :
  failure.IsOwn
  := by
  obtain ⟨fault, rfl⟩ := h
  rfl

/-! ### Computations -/

section Results

variable {ε α β : Type}

theorem ok_bind (a : α) (f : α → Except ε β) :
  (Except.ok a >>= f) = f a
  := rfl

theorem bind_eq_ok {x : Except ε α} {f : α → Except ε β} {b : β} :
  x >>= f = .ok b ↔ ∃ a, x = .ok a ∧ f a = .ok b
  := by
  cases x with
  | error e => simp [bind, Except.bind]
  | ok a => simp [bind, Except.bind]

theorem map_eq_ok {x : Except ε α} {f : α → β} {b : β} :
  x.map f = .ok b ↔ ∃ a, x = .ok a ∧ f a = b
  := by
  cases x with
  | error e => simp [Except.map]
  | ok a => simp [Except.map]

theorem ok_of_toOption {x : Except ε α} {a : α} (h : x.toOption = some a) :
  x = .ok a
  := by
  cases x with
  | error e => cases h
  | ok b => rw [Option.some.inj h]

/-- A computation for every element gives the results of all of them. -/
theorem mapM_eq_ok {f : α → Except ε β} {xs : List α} {ys : List β} :
  xs.mapM f = .ok ys ↔ List.Forall₂ (fun x y => f x = .ok y) xs ys
  := by
  induction xs generalizing ys with
  | nil =>
      rw [List.mapM_nil, List.forall₂_nil_left_iff]
      exact ⟨fun h => (Except.ok.inj h).symm, fun h => congrArg _ h.symm⟩
  | cons x rest ih =>
      rw [List.mapM_cons, bind_eq_ok, List.forall₂_cons_left_iff]
      constructor
      · rintro ⟨y, hy, h⟩
        obtain ⟨others, hothers, h⟩ := bind_eq_ok.mp h
        cases h
        exact ⟨y, others, hy, ih.mp hothers, rfl⟩
      · rintro ⟨y, others, hy, hothers, rfl⟩
        use y, hy
        rw [ih.mpr hothers]
        rfl

/-- Every result of a computation for every element is the result of some element. -/
theorem of_mapM_eq_ok {f : α → Except ε β} {xs : List α} {ys : List β} (h : xs.mapM f = .ok ys) :
  ∀ y ∈ ys, ∃ x ∈ xs, f x = .ok y
  := by
  have hall := mapM_eq_ok.mp h
  clear h
  induction hall with
  | nil => simp
  | cons hy _ ih =>
      rw [List.forall_mem_cons]
      constructor
      · exact ⟨_, List.mem_cons_self, hy⟩
      · intro z hz
        obtain ⟨x, hx, hz⟩ := ih z hz
        exact ⟨x, List.mem_cons_of_mem _ hx, hz⟩

/-- If a computation fails, its failure has the property. -/
def FailsOnly (P : ε → Prop) (x : Except ε α) : Prop := ∀ failure, x = .error failure → P failure

namespace FailsOnly

variable {P Q : ε → Prop} {x : Except ε α}

theorem ok (a : α) :
  FailsOnly P (.ok a)
  := by
  intro failure h
  cases h

theorem error {failure : ε} (h : P failure) :
  FailsOnly P (.error failure : Except ε α)
  := by
  intro failure' heq
  cases heq
  apply h

theorem left (h : FailsOnly P x) :
  FailsOnly (fun failure => P failure ∨ Q failure) x
  := by
  intro failure hx
  exact .inl (h failure hx)

theorem bind
    {f : α → Except ε β} (hx : FailsOnly P x) (hf : ∀ a, x = .ok a → FailsOnly P (f a)) :
  FailsOnly P (x >>= f)
  := by
  cases x with
  | error failure => apply error (hx failure rfl)
  | ok a => apply hf a rfl

theorem map (hx : FailsOnly P x) (f : α → β) :
  FailsOnly P (x.map f)
  := by
  cases x with
  | error failure => apply error (hx failure rfl)
  | ok a => apply ok

end FailsOnly

theorem failsOnly_fault (fault : ModelFault) :
  FailsOnly Failure.IsModelFault (.error (.model fault) : Except Failure α)
  := by
  apply FailsOnly.error
  exact ⟨fault, rfl⟩

end Results

/-! ### Steps -/

section Steps

variable {σ α : Type} {step : σ → α → Except Failure σ}

/-- What every step keeps holds after any number of steps, also when one fails. -/
theorem runSteps_keeps
    {I : σ → Prop} (hstep : ∀ s a t, step s a = .ok t → I s → I t) (as : List α) {s : σ}
    (hs : I s) :
  I (runSteps step s as).2
  := by
  induction as generalizing s with
  | nil => apply hs
  | cons a rest ih =>
      rw [runSteps]
      cases h : step s a with
      | ok t => apply ih (hstep s a t h hs)
      | error e => apply hs

/-- When all steps are taken, each of them could be taken. -/
theorem of_runSteps {as : List α} {s : σ} (h : (runSteps step s as).1 = .ok ()) :
  ∀ a ∈ as, ∃ s t, step s a = .ok t
  := by
  induction as generalizing s with
  | nil => simp
  | cons a rest ih =>
      rw [runSteps] at h
      cases hstep : step s a with
      | ok t =>
          rw [hstep] at h
          rw [List.forall_mem_cons]
          exact ⟨⟨s, t, hstep⟩, ih h⟩
      | error e =>
          rw [hstep] at h
          cases h

/-- When not all steps are taken, one of them fails where those before it end. -/
theorem runSteps_eq_error
    {as : List α} {s t : σ} {failure : Failure} (h : runSteps step s as = (.error failure, t)) :
  ∃ before a after, as = before ++ a :: after ∧ runSteps step s before = (.ok (), t) ∧
    step t a = .error failure
  := by
  induction as generalizing s with
  | nil => cases h
  | cons a rest ih =>
      rw [runSteps] at h
      cases hstep : step s a with
      | ok s' =>
          rw [hstep] at h
          obtain ⟨before, b, after, rfl, hbefore, hfails⟩ := ih h
          refine ⟨a :: before, b, after, rfl, ?_, hfails⟩
          rw [runSteps, hstep]
          apply hbefore
      | error e =>
          rw [hstep] at h
          cases h
          exact ⟨[], a, rest, rfl, rfl, hstep⟩

/-- Steps that are taken lead to where those behind them start. -/
theorem runSteps_append_of_ok {as : List α} {s t : σ} (h : runSteps step s as = (.ok (), t))
    (bs : List α) :
  runSteps step s (as ++ bs) = runSteps step t bs
  := by
  induction as generalizing s with
  | nil =>
      cases h
      rfl
  | cons a rest ih =>
      rw [runSteps] at h
      rw [List.cons_append, runSteps]
      cases hstep : step s a with
      | error e =>
          rw [hstep] at h
          cases h
      | ok s' =>
          rw [hstep] at h
          apply ih h

/-- Behind a step that fails no other is taken. -/
theorem runSteps_append_of_error
    {as : List α} {s t : σ} {failure : Failure} (h : runSteps step s as = (.error failure, t))
    (bs : List α) :
  runSteps step s (as ++ bs) = (.error failure, t)
  := by
  obtain ⟨before, a, after, rfl, hbefore, hfails⟩ := runSteps_eq_error h
  rw [List.append_assoc, List.cons_append, runSteps_append_of_ok hbefore, runSteps, hfails]

/-- Steps fail only in the way that each of them does. -/
theorem runSteps_failsOnly
    {P : Failure → Prop} {as : List α} (h : ∀ a ∈ as, ∀ s, FailsOnly P (step s a)) (s : σ) :
  FailsOnly P (runSteps step s as).1
  := by
  intro failure hfailure
  obtain ⟨before, a, after, rfl, -, hfails⟩ := runSteps_eq_error (Prod.ext hfailure rfl)
  apply h a (by simp) _ failure hfails

/-- Steps that do the same for the elements of a list do the same for all of it. -/
theorem runSteps_map_congr
    {β γ : Type} {step' : σ → β → Except Failure σ} {f : γ → α} {g : γ → β} {xs : List γ}
    (h : ∀ x ∈ xs, ∀ s, step s (f x) = step' s (g x)) (s : σ) :
  runSteps step s (xs.map f) = runSteps step' s (xs.map g)
  := by
  induction xs generalizing s with
  | nil => rfl
  | cons x rest ih =>
      obtain ⟨hx, hrest⟩ := List.forall_mem_cons.mp h
      rw [List.map_cons, List.map_cons, runSteps, runSteps, hx s]
      cases step' s (g x) with
      | error e => rfl
      | ok t => apply ih hrest

end Steps

end AccessControl
