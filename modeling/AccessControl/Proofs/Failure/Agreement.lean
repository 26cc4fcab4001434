import AccessControl.Proofs.Failure.Results

/-!
# Agreement

Computations that may fail, compared by the values that they give: one is a part of another if
this gives whatever value it gives, two agree if they do not give different values, and two are
parallel if they give related values or both fail.
-/

namespace AccessControl

variable {ε α β γ δ : Type}

/-- What the first computation gives, the second gives. -/
def IsPart (x y : Except ε α) : Prop := ∀ a, x = .ok a → y = .ok a

/-- Two computations do not give different values. -/
def Agree (x y : Except ε α) : Prop := ∀ a b, x = .ok a → y = .ok b → a = b

/-- Two computations give values that are related, or both fail. -/
inductive Parallel (R : α → β → Prop) : Except ε α → Except ε β → Prop
  | ok {a : α} {b : β} (h : R a b) : Parallel R (.ok a) (.ok b)
  | error (e e' : ε) : Parallel R (.error e) (.error e')

namespace IsPart

theorem refl (x : Except ε α) : IsPart x x := fun _ h => h

theorem bind
    {x y : Except ε α} {f g : α → Except ε β} (hx : IsPart x y) (hf : ∀ a, IsPart (f a) (g a)) :
  IsPart (x >>= f) (y >>= g)
  := by
  intro b h
  obtain ⟨a, ha, hb⟩ := bind_eq_ok.mp h
  exact bind_eq_ok.mpr ⟨a, hx a ha, hf a b hb⟩

/-- Parts of one computation agree. -/
theorem agree {x y z : Except ε α} (hx : IsPart x z) (hy : IsPart y z) :
  Agree x y
  := by
  intro a b ha hb
  apply Except.ok.inj
  rw [← hx a ha, ← hy b hb]

end IsPart

namespace Agree

theorem refl (x : Except ε α) :
  Agree x x
  := by
  intro a b ha hb
  rw [ha] at hb
  apply Except.ok.inj hb

theorem of_error (e : ε) (y : Except ε α) :
  Agree (.error e) y
  := by
  rintro a b ⟨⟩

theorem to_error (x : Except ε α) (e : ε) :
  Agree x (.error e)
  := by
  rintro a b - ⟨⟩

theorem bind
    {x y : Except ε α} {f g : α → Except ε β} (hx : Agree x y) (hf : ∀ a, Agree (f a) (g a)) :
  Agree (x >>= f) (y >>= g)
  := by
  intro b b' h h'
  obtain ⟨a, ha, hb⟩ := bind_eq_ok.mp h
  obtain ⟨a', ha', hb'⟩ := bind_eq_ok.mp h'
  obtain rfl := hx a a' ha ha'
  apply hf a b b' hb hb'

theorem map (f : α → β) {x y : Except ε α} (h : Agree x y) :
  Agree (x.map f) (y.map f)
  := by
  intro b b' hb hb'
  obtain ⟨a, ha, rfl⟩ := map_eq_ok.mp hb
  obtain ⟨a', ha', rfl⟩ := map_eq_ok.mp hb'
  rw [h a a' ha ha']

end Agree

namespace Parallel

variable {R : α → β → Prop} {S : γ → δ → Prop} {x : Except ε α} {y : Except ε β}

theorem refl {R : α → α → Prop} (hR : ∀ a, R a a) (x : Except ε α) :
  Parallel R x x
  := by
  cases x with
  | ok a => exact .ok (hR a)
  | error e => exact .error e e

theorem bind
    {f : α → Except ε γ} {g : β → Except ε δ} (hx : Parallel R x y)
    (hf : ∀ a b, R a b → Parallel S (f a) (g b)) :
  Parallel S (x >>= f) (y >>= g)
  := by
  cases hx with
  | ok h => apply hf _ _ h
  | error e e' => exact .error e e'

theorem map
    {f : α → γ} {g : β → δ} (hx : Parallel R x y) (hf : ∀ a b, R a b → S (f a) (g b)) :
  Parallel S (x.map f) (y.map g)
  := by
  cases hx with
  | ok h => exact .ok (hf _ _ h)
  | error e e' => exact .error e e'

/-- Of two parallel computations of one value, either gives what the other gives. -/
theorem eq_ok {x y : Except ε α} (h : Parallel Eq x y) (a : α) :
  x = .ok a ↔ y = .ok a
  := by
  cases h with
  | ok h => rw [h]
  | error e e' => exact iff_of_false nofun nofun

end Parallel

end AccessControl
