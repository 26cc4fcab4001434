import AccessControl.Proofs.Pattern.Reading

/-!
# Reading alone and in a pattern

A text is read alone, and again in a pattern where a slash, a placeholder or the end follows it,
`PatternReader.Setting`.  A reader that reads the beginning of the text alone reads the same in the
pattern, `Setting.Copies`, if each of its steps does.
-/

namespace AccessControl

/-! ### Units of a text -/

namespace PatternUnit

/-- The text of the first unit and the text behind it. -/
def first? : List Char → Option (List Char × List Char)
  | [] => none
  | '\\' :: c :: rest => some (['\\', c], rest)
  | c :: rest => some ([c], rest)

theorem first?_cons {c : Char} (h : c ≠ '\\') (rest : List Char) :
  first? (c :: rest) = some ([c], rest)
  := by
  rw [first?]
  rintro _ _ rfl
  exact absurd rfl h

theorem split_of_first? {text u rest : List Char} (h : first? text = some (u, rest))
    (position : Nat) :
  split position text = ⟨u, position⟩ :: split (position + u.length) rest
  := by
  cases text with
  | nil => cases h
  | cons c text =>
      by_cases hc : c = '\\'
      · subst hc
        cases text <;> cases h <;> rfl
      · rw [first?_cons hc] at h
        cases h
        rw [split_cons hc]
        rfl

/-- What follows a text leaves its first unit as it is, unless the text is a backslash alone. -/
theorem first?_append {text u rest : List Char} (h : first? text = some (u, rest))
    (hclosed : text ≠ ['\\']) (more : List Char) :
  first? (text ++ more) = some (u, rest ++ more)
  := by
  cases text with
  | nil => cases h
  | cons c text =>
      by_cases hc : c = '\\'
      · subst hc
        cases text with
        | nil => exact absurd rfl hclosed
        | cons d text =>
            cases h
            rfl
      · rw [first?_cons hc] at h
        cases h
        rw [List.cons_append, first?_cons hc]

theorem exists_first? {text : List Char} (h : text ≠ []) :
  ∃ u rest, first? text = some (u, rest)
  := by
  obtain ⟨c, text, rfl⟩ := List.exists_cons_of_ne_nil h
  by_cases hc : c = '\\'
  · subst hc
    cases text <;> exact ⟨_, _, rfl⟩
  · exact ⟨_, _, first?_cons hc text⟩

/-- A unit is a character, or a backslash and a character. -/
theorem of_first? {text u rest : List Char} (h : first? text = some (u, rest)) :
  (∃ c, u = ['\\', c]) ∨ ∃ c, u = [c]
  := by
  cases text with
  | nil => cases h
  | cons c text =>
      by_cases hc : c = '\\'
      · subst hc
        cases text <;> cases h
        · exact .inr ⟨_, rfl⟩
        · exact .inl ⟨_, rfl⟩
      · rw [first?_cons hc] at h
        cases h
        exact .inr ⟨_, rfl⟩

theorem eq_nil_of_first? {text : List Char} (h : first? text = none) :
  text = []
  := by
  by_contra hne
  obtain ⟨u, rest, hfirst⟩ := exists_first? hne
  rw [h] at hfirst
  cases hfirst

theorem head?_split (position : Nat) (text : List Char) :
  (split position text).head? = (first? text).map (⟨·.1, position⟩)
  := by
  cases hfirst : first? text with
  | none =>
      rw [eq_nil_of_first? hfirst]
      rfl
  | some r => rw [split_of_first? hfirst, List.head?_cons, Option.map_some]

theorem length_of_first? {text u rest : List Char} (h : first? text = some (u, rest)) :
  rest.length < text.length
  := by
  cases text with
  | nil => cases h
  | cons c text =>
      by_cases hc : c = '\\'
      · subst hc
        cases text <;> cases h <;> simp only [List.length_cons, List.length_nil] <;> omega
      · rw [first?_cons hc] at h
        cases h
        apply Nat.lt_succ_self

/-- The character of a unit does not depend on where the unit stands. -/
theorem char?_eq (u : List Char) (position position' : Nat) :
  (PatternUnit.mk u position).char? = (PatternUnit.mk u position').char?
  := rfl

/-- The number of the units of a text. -/
def count (text : List Char) : Nat := (split 0 text).length

theorem length_split (position : Nat) (text : List Char) :
  (split position text).length = count text
  := by
  suffices h : ∀ position', (split position text).length = (split position' text).length from h 0
  intro position'
  induction position, text using split.induct generalizing position' with
  | case1 => rfl
  | case2 position c rest ih => rw [split, split, List.length_cons, List.length_cons, ih]
  | case3 position c rest h ih =>
      rw [split, split, List.length_cons, List.length_cons, ih]
      all_goals exact h

theorem count_of_first? {text u rest : List Char} (h : first? text = some (u, rest)) :
  count text = count rest + 1
  := by
  rw [count, split_of_first? h, List.length_cons, length_split]

theorem eq_nil_of_count {text : List Char} (h : count text ≤ 0) :
  text = []
  := by
  cases hfirst : first? text with
  | none => exact eq_nil_of_first? hfirst
  | some r =>
      rw [count_of_first? hfirst] at h
      cases h

theorem count_le_append (text more : List Char) : count text ≤ count (text ++ more) := by
  suffices h : ∀ position, count text ≤ (split position (text ++ more)).length from h 0
  intro position
  rw [← length_split position text]
  induction position, text using split.induct with
  | case1 => apply Nat.zero_le
  | case2 position c rest ih => exact Nat.succ_le_succ ih
  | case3 position c rest h ih =>
      by_cases hc : c = '\\'
      · subst hc
        cases rest with
        | nil => cases more <;> simp [split]
        | cons d rest => exact absurd rfl (h d rest rfl)
      · rw [split_cons hc, List.cons_append, split_cons hc]
        exact Nat.succ_le_succ ih

/-- A text is what remains of another when some of its units have been read. -/
inductive Behind (text : List Char) : List Char → Prop
  | refl : Behind text text
  | step {u rest rest' : List Char} (h : Behind text rest) (hunit : first? rest = some (u, rest')) :
      Behind text rest'

theorem Behind.trans {text text' text'' : List Char} (h : Behind text text')
    (h' : Behind text' text'') :
  Behind text text''
  := by
  induction h' with
  | refl => exact h
  | step _ hunit ih => exact ih.step hunit

theorem Behind.length_le {text text' : List Char} (h : Behind text text') :
  text'.length ≤ text.length
  := by
  induction h with
  | refl => apply Nat.le_refl
  | step _ hunit ih => exact Nat.le_trans (Nat.le_of_lt (length_of_first? hunit)) ih

theorem Behind.count_le {text text' : List Char} (h : Behind text text') :
  count text' ≤ count text
  := by
  induction h with
  | refl => apply Nat.le_refl
  | step _ hunit ih =>
      rw [count_of_first? hunit] at ih
      exact Nat.le_of_succ_le ih

end PatternUnit

namespace PatternReader

open PatternUnit (Behind first?)

theorem bind_eq_ok {α β : Type} {reader : PatternReader α} {next : α → PatternReader β}
    {s s' : PatternState} {b : β} :
  (reader >>= next) s = .ok (b, s') ↔ ∃ a m, reader s = .ok (a, m) ∧ next a m = .ok (b, s')
  := by
  change (reader s).bind _ = _ ↔ _
  cases reader s with
  | error e => simp [Except.bind]
  | ok r => simp [Except.bind, Prod.ext_iff]

/-- The reader fails wherever it reads. -/
def Fails {α : Type} (reader : PatternReader α) : Prop := ∀ s, ∃ e, reader s = .error e

theorem fails_failBack {α : Type} (fault : PatternFault) (back : Nat) :
  Fails (failBack fault back : PatternReader α)
  := fun _ => ⟨_, rfl⟩

theorem fails_failAt {α : Type} (fault : PatternFault) (position : Nat) :
  Fails (failAt fault position : PatternReader α)
  := fun _ => ⟨_, rfl⟩

theorem Fails.after {α β : Type} {next : α → PatternReader β} (h : ∀ a, Fails (next a))
    (reader : PatternReader α) :
  Fails (reader >>= next)
  := by
  intro s
  cases hreader : reader s with
  | error e =>
      use e
      change (reader s).bind _ = _
      rw [hreader]
      rfl
  | ok r =>
      rw [bind_of_ok hreader]
      exact h r.1 r.2

/-! ### Going past a unit -/

theorem peek?_first? (position : Nat) (text : List Char) (s : PatternState) :
  peek? (s.facing position text)
    = .ok ((first? text).map (⟨·.1, position⟩), s.facing position text)
  := by
  rw [← PatternUnit.head?_split]
  rfl

theorem checkDangling_eq_ok {position total : Nat} {text : List Char} :
  checkDangling (PatternUnit.split position text) total = .ok () ↔ text ≠ ['\\']
  := by
  cases text with
  | nil => simp [PatternUnit.split, checkDangling]
  | cons c text =>
      by_cases hc : c = '\\'
      · subst hc
        cases text <;> simp [PatternUnit.split, checkDangling]
      · simp [PatternUnit.split_cons hc, checkDangling, hc]

/-- Past the first unit of a text, unless a backslash alone follows. -/
theorem advance_eq_ok {s m : PatternState} {position : Nat} {text u rest : List Char}
    (hunit : first? text = some (u, rest)) :
  advance (s.facing position text) = .ok ((), m)
    ↔ rest ≠ ['\\'] ∧ m = s.facing (position + u.length) rest
  := by
  rw [PatternState.facing, PatternUnit.split_of_first? hunit, ← checkDangling_eq_ok]
  change (advance _ = _) ↔ checkDangling (PatternUnit.split (position + u.length) rest) s.total = _
    ∧ _
  rw [advance]
  change ((checkDangling (PatternUnit.split (position + u.length) rest) s.total).bind _).bind _ = _
    ↔ _
  cases checkDangling (PatternUnit.split (position + u.length) rest) s.total with
  | error e => simp [Except.bind]
  | ok _ =>
      change Except.ok ((), s.facing (position + u.length) rest) = .ok ((), m) ↔ _
      simp [eq_comm]

/-! ### Reading alone and in a pattern -/

/-- The characters that may follow a part of a pattern: a slash, the beginning of a placeholder and
the end. -/
def borders : List Char := ['/', '[', '(', '$']

/-- A text is read alone, and again in a pattern in which a border and more follow it. -/
structure Setting where
  alone : PatternState
  whole : PatternState
  border : Char
  more : List Char
  hborder : border ∈ borders
  aloneFlags : alone.flags = {}
  wholeFlags : whole.flags = {}
  groups : alone.widths.length ≤ 1

namespace Setting

variable (E : Setting)

/-- What follows the text in the pattern. -/
def behind : List Char := E.border :: E.more

theorem border_ne {c : Char} (h : c ∉ borders) : E.border ≠ c := by
  rintro rfl
  exact h E.hborder

theorem eq_false_of_any {p : Char → Bool} (h : borders.any p = false) : p E.border = false :=
  Bool.eq_false_iff.mpr (List.any_eq_false.mp h E.border E.hborder)

/-- Whenever the first reader reads a text alone, its result and what the second reader does with
the text in the pattern satisfy a condition. -/
def Runs {α β : Type} (text : List Char) (x : PatternReader α) (y : PatternReader β)
    (Q : α → PatternState → Except PatternError (β × PatternState) → Prop) : Prop :=
  text ≠ ['\\'] → ∀ p q a s', x (E.alone.facing p text) = .ok (a, s') →
    Q a s' (y (E.whole.facing q (text ++ E.behind)))

/-- A reader has read the beginning of a text alone, and another one the same in the pattern; their
results are related. -/
def Copied {α β : Type} (text : List Char) (ρ : α → β → Prop) (a : α) (s' : PatternState)
    (outcome : Except PatternError (β × PatternState)) : Prop :=
  ∃ b text' p' q', s' = E.alone.facing p' text'
    ∧ outcome = .ok (b, E.whole.facing q' (text' ++ E.behind)) ∧ text' ≠ ['\\']
    ∧ Behind text text' ∧ ρ a b

/-- Whenever the first reader reads the beginning of a text alone, the second one reads the same in
the pattern, and their results are related. -/
abbrev Copies {α β : Type} (text : List Char) (ρ : α → β → Prop) (x : PatternReader α)
    (y : PatternReader β) : Prop :=
  E.Runs text x y (E.Copied text ρ)

variable {E} {α β γ δ : Type} {text : List Char} {x : PatternReader α} {y : PatternReader β}

/-! ### Steps -/

theorem Runs.bind {ρ : α → β → Prop} {f : α → PatternReader γ} {g : β → PatternReader δ}
    {Q : γ → PatternState → Except PatternError (δ × PatternState) → Prop}
    (h : E.Copies text ρ x y)
    (hnext : ∀ a b text', Behind text text' → ρ a b → E.Runs text' (f a) (g b) Q) :
  E.Runs text (x >>= f) (y >>= g) Q
  := by
  intro hclosed p q c s' hrun
  obtain ⟨a, m, hx, hf⟩ := bind_eq_ok.mp hrun
  obtain ⟨b, text', p', q', rfl, hy, hclosed', hbehind, hρ⟩ := h hclosed p q a m hx
  rw [bind_of_ok hy]
  exact hnext a b text' hbehind hρ hclosed' p' q' c s' hf

/-- What is copied from what remains of a text is copied from the text. -/
theorem Copies.earlier {ρ : α → β → Prop} {rest : List Char} (h : E.Copies rest ρ x y)
    (hrest : Behind text rest) :
  E.Runs rest x y (E.Copied text ρ)
  := by
  intro hclosed p q a s' hrun
  obtain ⟨b, text', p', q', hs', hy, hclosed', hbehind, hρ⟩ := h hclosed p q a s' hrun
  exact ⟨b, text', p', q', hs', hy, hclosed', hrest.trans hbehind, hρ⟩

theorem Copies.bind {ρ : α → β → Prop} {σ : γ → δ → Prop} {f : α → PatternReader γ}
    {g : β → PatternReader δ} (h : E.Copies text ρ x y)
    (hnext : ∀ a b text', Behind text text' → ρ a b → E.Copies text' σ (f a) (g b)) :
  E.Copies text σ (x >>= f) (y >>= g)
  := Runs.bind h fun a b text' hbehind hρ => (hnext a b text' hbehind hρ).earlier hbehind

theorem copies_pure {ρ : α → β → Prop} {a : α} {b : β} (h : ρ a b) :
  E.Copies text ρ (pure a) (pure b)
  := by
  rintro hclosed p q _ _ ⟨⟩
  exact ⟨b, text, p, q, rfl, rfl, hclosed, .refl, h⟩

/-- Where reading alone fails, nothing is asked of reading in the pattern. -/
theorem runs_of_fails {Q : α → PatternState → Except PatternError (β × PatternState) → Prop}
    (h : Fails x) :
  E.Runs text x y Q
  := by
  intro _ p q a s' hrun
  obtain ⟨e, herror⟩ := h (E.alone.facing p text)
  rw [herror] at hrun
  cases hrun

theorem runs_of_closed {Q : α → PatternState → Except PatternError (β × PatternState) → Prop}
    (h : text ≠ ['\\'] → E.Runs text x y Q) :
  E.Runs text x y Q
  := fun hclosed => h hclosed hclosed

theorem runs_ite {Q : α → PatternState → Except PatternError (β × PatternState) → Prop}
    {P : Prop} [Decidable P] {x' : PatternReader α} {y' : PatternReader β}
    (h : P → E.Runs text x y Q) (h' : ¬ P → E.Runs text x' y' Q) :
  E.Runs text (if P then x else x') (if P then y else y') Q
  := by
  split
  · exact h ‹_›
  · exact h' ‹_›

/-! ### Units -/

section Units

variable {Q : β → PatternState → Except PatternError (γ × PatternState) → Prop}

theorem first?_behind (E : Setting) : first? E.behind = some ([E.border], E.more) :=
  PatternUnit.first?_cons (E.border_ne (by decide)) E.more

theorem closed_behind (E : Setting) {text : List Char} (h : text ≠ ['\\']) :
  text ++ E.behind ≠ ['\\']
  := by
  cases text with
  | nil =>
      rw [List.nil_append, behind, ne_eq, List.cons_eq_cons, not_and]
      intro hborder
      exact absurd hborder (E.border_ne (by decide))
  | cons c text => simp [behind]

theorem runs_peek {f : Option PatternUnit → PatternReader β}
    {g : Option PatternUnit → PatternReader γ}
    (hnil : text = [] → ∀ position, E.Runs [] (f none) (g (some ⟨[E.border], position⟩)) Q)
    (hunit : ∀ u rest position position', first? text = some (u, rest) →
      E.Runs text (f (some ⟨u, position⟩)) (g (some ⟨u, position'⟩)) Q) :
  E.Runs text (peek? >>= f) (peek? >>= g) Q
  := by
  intro hclosed p q b s' hrun
  rw [bind_of_ok (peek?_first? p text E.alone)] at hrun
  rw [bind_of_ok (peek?_first? q _ E.whole)]
  cases hfirst : first? text with
  | none =>
      obtain rfl := PatternUnit.eq_nil_of_first? hfirst
      rw [List.nil_append, E.first?_behind]
      exact hnil rfl q hclosed p q b s' hrun
  | some r =>
      obtain ⟨u, rest⟩ := r
      rw [hfirst] at hrun
      rw [PatternUnit.first?_append hfirst hclosed]
      exact hunit u rest p q hfirst hclosed p q b s' hrun

theorem runs_advance {f : Unit → PatternReader β} {g : Unit → PatternReader γ} {u rest : List Char}
    (hunit : first? text = some (u, rest)) (h : E.Runs rest (f ()) (g ()) Q) :
  E.Runs text (advance >>= f) (advance >>= g) Q
  := by
  intro hclosed p q b s' hrun
  obtain ⟨_, m, hadvance, hf⟩ := bind_eq_ok.mp hrun
  obtain ⟨hrest, rfl⟩ := (advance_eq_ok hunit).mp hadvance
  have hunit' := PatternUnit.first?_append hunit hclosed E.behind
  rw [bind_of_ok ((advance_eq_ok hunit').mpr ⟨E.closed_behind hrest, rfl⟩)]
  exact h hrest _ _ b s' hf

/-- Takes a unit; at the end of the text reading alone fails. -/
theorem runs_take {f : Option PatternUnit → PatternReader β}
    {g : Option PatternUnit → PatternReader γ} (hnil : Fails (f none))
    (hunit : ∀ u rest position position', first? text = some (u, rest) →
      E.Runs rest (f (some ⟨u, position⟩)) (g (some ⟨u, position'⟩)) Q) :
  E.Runs text (take? >>= f) (take? >>= g) Q
  := by
  simp only [take?, bind_assoc, pure_bind]
  apply runs_peek
  · rintro - _
    exact runs_of_fails (Fails.after (fun _ => hnil) advance)
  · intro u rest position position' hfirst
    exact runs_advance hfirst (hunit u rest position position' hfirst)

/-- Takes the next unit if it is the given character. -/
theorem runs_accept {c : Char} {f : Bool → PatternReader β} {g : Bool → PatternReader γ}
    (hc : c ∉ borders)
    (htrue : ∀ rest, first? text = some ([c], rest) → E.Runs rest (f true) (g true) Q)
    (hfalse : (∀ rest, first? text ≠ some ([c], rest)) → E.Runs text (f false) (g false) Q) :
  E.Runs text (accept c >>= f) (accept c >>= g) Q
  := by
  simp only [accept, bind_assoc]
  apply runs_peek
  · rintro rfl position
    have hother : (PatternUnit.mk [E.border] position).isChar c = false := by
      simpa [PatternUnit.isChar] using E.border_ne hc
    simp only [hother]
    exact hfalse (by rintro _ ⟨⟩)
  · intro u rest position position' hfirst
    simp only [PatternUnit.isChar]
    by_cases hu : u = [c]
    · subst hu
      simp only [beq_self_eq_true, if_true, bind_assoc, pure_bind]
      exact runs_advance hfirst (htrue rest hfirst)
    · simp only [beq_eq_false_iff_ne.mpr hu, Bool.false_eq_true, if_false, pure_bind]
      apply hfalse
      intro rest' hrest'
      rw [hfirst] at hrest'
      cases hrest'
      exact hu rfl

/-! ### Runs of characters -/

/-- At the end of the text nothing is taken, and neither is the border. -/
theorem copies_takeWhile_nil {p : Char → Bool} (hp : borders.any p = false) (n n' : Nat) :
  E.Copies [] Eq (takeWhile p n) (takeWhile p n')
  := by
  intro hclosed position position' a s' hrun
  have halone : takeWhile p n (E.alone.facing position [])
      = .ok ([], E.alone.facing position []) := by
    cases n <;> rfl
  have hwhole : takeWhile p n' (E.whole.facing position' E.behind)
      = .ok ([], E.whole.facing position' E.behind) := by
    cases n' with
    | zero => rfl
    | succ n' =>
        rw [takeWhile, bind_of_ok (peek?_first? position' _ E.whole), E.first?_behind]
        simp [PatternUnit.char?, E.eq_false_of_any hp]
        rfl
  rw [halone] at hrun
  cases hrun
  exact ⟨[], [], position, position', rfl, hwhole, hclosed, .refl, rfl⟩

theorem copies_takeWhile {p : Char → Bool} (hp : borders.any p = false) {n n' : Nat}
    (h : n = n' ∨ PatternUnit.count text ≤ n ∧ PatternUnit.count text ≤ n') :
  E.Copies text Eq (takeWhile p n) (takeWhile p n')
  := by
  induction n generalizing text n' with
  | zero =>
      obtain rfl | ⟨hcount, -⟩ := h
      · exact copies_pure rfl
      · rw [PatternUnit.eq_nil_of_count hcount]
        exact copies_takeWhile_nil hp _ _
  | succ n ih =>
      cases n' with
      | zero =>
          obtain h | ⟨-, hcount⟩ := h
          · cases h
          · rw [PatternUnit.eq_nil_of_count hcount]
            exact copies_takeWhile_nil hp _ _
      | succ n' =>
          rw [takeWhile, takeWhile]
          apply runs_peek
          · rintro rfl position
            simp only [Option.bind_none, Option.bind_some, PatternUnit.char?, E.eq_false_of_any hp]
            exact copies_pure rfl
          · intro u rest position position' hfirst
            have hcount := PatternUnit.count_of_first? hfirst
            simp only [Option.bind_some, PatternUnit.char?]
            split
            · apply runs_ite
              · intro _
                refine runs_advance hfirst ?_
                refine Copies.earlier ?_ (.step .refl hfirst)
                apply (ih (by omega)).bind
                rintro taken _ text' - rfl
                exact copies_pure rfl
              · exact fun _ => copies_pure rfl
            · exact copies_pure rfl

end Units

end Setting

end PatternReader

end AccessControl
