import AccessControl.Pattern.Function
import AccessControl.Proofs.Expr.Alike
import AccessControl.Roles.Relation

/-!
# Functions on like values

The functions of the library read texts, and what else they see of a value like values share:
they answer like arguments alike, `PatternFunction.all_respects`.
-/

namespace AccessControl

open Value (Alike Coincide)

namespace Value

variable {v w : Value}

/-! ### Demands -/

theorem Alike.receiver_eq (h : Alike v w) (method : String) :
  v.receiver method = w.receiver method
  := by
  cases h <;> rfl

/-- Equal parts are keys or hold the same part that is none. -/
theorem Coincide.notKey?_eq (h : Coincide v w) :
  v.notKey? = w.notKey?
  := by
  induction h with
  | refl => rfl
  | number hv hw =>
      have hnumber : ∀ a : Numeric, a.value.notKey? = Option.none := by
        intro a
        cases a <;> rfl
      rw [eq_value_of_number? hv, eq_value_of_number? hw, hnumber, hnumber]
  | cons _ _ ihfirst ihrest =>
      rw [notKey?, notKey?, firstNotKey?, firstNotKey?, ihfirst]
      rw [notKey?, notKey?] at ihrest
      rw [ihrest]

theorem Alike.checkKey_eq (h : Alike v w) :
  v.checkKey = w.checkKey
  := by
  rw [checkKey, checkKey, h.coincide.notKey?_eq]

/-- Like arguments are the same texts, or both have one that is no text. -/
theorem eq_or_firstOther? {vs ws : List Value} (h : List.Forall₂ Alike vs ws) :
  vs = ws ∨ ∃ v w, firstOther? vs = some v ∧ firstOther? ws = some w
  := by
  induction h with
  | nil => exact .inl rfl
  | @cons v w vs ws hfirst _ ih =>
      cases hv : v.text? with
      | none =>
          have hw : w.text? = Option.none := hfirst.text?_eq.symm.trans hv
          right
          use v, w
          simp [firstOther?, hv, hw]
      | some s =>
          obtain rfl := eq_text_of_text? hv
          obtain rfl := hfirst.eq_text
          obtain rfl | ⟨v, w, hv, hw⟩ := ih
          · exact .inl rfl
          · exact .inr ⟨v, w, hv, hw⟩

end Value

/-! ### Parameters -/

theorem Expr.Keyed.zip
    (names : List String) {vs ws : List Value} (h : List.Forall₂ Alike vs ws) :
  Expr.Keyed Alike (names.zip vs) (names.zip ws)
  := by
  induction h generalizing names with
  | nil =>
      rw [List.zip_nil_right]
      exact .nil
  | cons hfirst _ ih =>
      cases names with
      | nil => exact .nil
      | cons name rest => exact .cons ⟨rfl, hfirst⟩ (ih rest)

/-- A call binds like arguments to the same parameters. -/
theorem Signature.bind_parallel
    (s : Signature) {arguments arguments' : List Value}
    (h : List.Forall₂ Alike arguments arguments') :
  Parallel (fun a a' => Expr.Keyed Alike a.given a'.given) (s.bind arguments [])
    (s.bind arguments' [])
  := by
  have hgiven := Expr.Keyed.zip s.ordered h
  have habsent : (fun n => (List.lookup n (s.ordered.zip arguments)).isNone)
      = fun n => (List.lookup n (s.ordered.zip arguments')).isNone := by
    funext n
    have hlookup := hgiven.lookup n
    generalize List.lookup n _ = found at hlookup ⊢
    generalize List.lookup n _ = found' at hlookup ⊢
    cases hlookup <;> rfl
  have hextra : (arguments.drop s.ordered.length).isEmpty
      = (arguments'.drop s.ordered.length).isEmpty := by
    rw [Bool.eq_iff_iff, List.isEmpty_iff_length_eq_zero, List.isEmpty_iff_length_eq_zero,
      List.length_drop, List.length_drop, h.length_eq]
  rw [Signature.bind, Signature.bind, Signature.addNamed, Signature.addNamed]
  simp only [Bind.bind, Except.bind, hextra, habsent]
  split
  · exact .error _ _
  · split
    · exact .error _ _
    · exact .ok hgiven

/-- What is bound to a parameter is like what is bound to it otherwise. -/
theorem Arguments.get_alike
    {a a' : Arguments} (h : Expr.Keyed Alike a.given a'.given) (name : String) :
  Alike (a.get name) (a'.get name)
  := by
  rw [Arguments.get, Arguments.get, Arguments.get?, Arguments.get?]
  have hlookup := h.lookup name
  generalize List.lookup name _ = found at hlookup ⊢
  generalize List.lookup name _ = found' at hlookup ⊢
  cases hlookup with
  | none => exact .refl _
  | some h => exact h

/-- The function of a role relation reads texts only. -/
theorem roleFunction_respects (graph : Option RoleGraph) :
  MatcherFunction.Respects (roleFunction graph)
  := by
  have herror : ∀ {arguments v}, Value.firstOther? arguments = some v →
      ∃ failure, roleFunction graph arguments = .error failure := by
    intro arguments v h
    simp only [roleFunction, h]
    split <;> exact ⟨_, rfl⟩
  intro arguments arguments' h
  obtain rfl | ⟨v, w, hv, hw⟩ := Value.eq_or_firstOther? h
  · apply Parallel.refl Alike.refl
  · obtain ⟨failure, hv⟩ := herror hv
    obtain ⟨failure', hw⟩ := herror hw
    rw [hv, hw]
    exact .error _ _

namespace PatternFunction

variable {v w v' w' : Value}

/-! ### Arguments -/

theorem subject_eq (h : Alike v w) :
  subject v = subject w
  := by
  cases h <;> rfl

theorem expression_eq (h : Alike v w) :
  expression v = expression w
  := by
  unfold expression
  rw [h.checkKey_eq]
  cases h <;> rfl

theorem noPart_eq (h : Alike v w) (head : List Char) :
  noPart v head = noPart w head
  := by
  have hsize : comparableSize v = comparableSize w := by
    cases h with
    | refl => rfl
    | zeros s t => rfl
    | tuple h => rw [comparableSize, comparableSize, h.items.length_eq]
  rw [noPart, noPart, hsize]
  cases h <;> rfl

/-- A text that one of two sequences with equal parts begins with, the other begins with. -/
theorem text_cons_of_items
    {vs ws rest : List Value} {s : String} (h : List.Forall₂ Coincide vs ws)
    (hws : ws = .text s :: rest) :
  ∃ others, vs = .text s :: others
  := by
  subst hws
  obtain ⟨v, others, hfirst, -, rfl⟩ := List.forall₂_cons_right_iff.mp h
  use others
  rw [Value.eq_text_of_text? hfirst.text?_eq]

/-- What is no text is no part of a glob. -/
theorem tupleParts_other {v : Value} (h : v.text? = none) (rest : List Value) :
  ∃ failure, tupleParts (v :: rest) = .error failure
  := by
  cases v with
  | text s => cases h
  | _ => exact ⟨_, rfl⟩

/-- The parts of a glob are texts, which are equal to themselves only. -/
theorem tupleParts_parallel {vs ws : List Value} (h : List.Forall₂ Coincide vs ws) :
  Parallel Eq (tupleParts vs) (tupleParts ws)
  := by
  induction vs using tupleParts.induct generalizing ws with
  | case1 =>
      cases h
      exact .ok rfl
  | case2 rest ih =>
      obtain ⟨w, ws, hfirst, hrest, rfl⟩ := List.forall₂_cons_left_iff.mp h
      obtain ⟨w', ws, hsecond, hothers, rfl⟩ := List.forall₂_cons_left_iff.mp hrest
      obtain rfl := hfirst.eq_text
      obtain rfl := hsecond.eq_text
      rw [tupleParts, tupleParts]
      exact (ih hothers).map fun _ _ => congrArg _
  | case3 rest hstar ih =>
      obtain ⟨w, ws, hfirst, hrest, rfl⟩ := List.forall₂_cons_left_iff.mp h
      obtain rfl := hfirst.eq_text
      rw [tupleParts, tupleParts]
      · exact (ih hrest).map fun _ _ => congrArg _
      · intro others hws
        obtain ⟨others, hvs⟩ := text_cons_of_items hrest hws
        apply hstar others hvs
      · apply hstar
  | case4 rest ih =>
      obtain ⟨w, ws, hfirst, hrest, rfl⟩ := List.forall₂_cons_left_iff.mp h
      obtain rfl := hfirst.eq_text
      rw [tupleParts, tupleParts]
      exact (ih hrest).map fun _ _ => congrArg _
  | case5 rest =>
      obtain ⟨w, ws, hfirst, -, rfl⟩ := List.forall₂_cons_left_iff.mp h
      obtain rfl := hfirst.eq_text
      rw [tupleParts, tupleParts]
      exact .error _ _
  | case6 s rest _ hstar hquestion hbracket ih =>
      obtain ⟨w, ws, hfirst, hrest, rfl⟩ := List.forall₂_cons_left_iff.mp h
      obtain rfl := hfirst.eq_text
      rw [tupleParts, tupleParts]
      · exact (ih hrest).map fun _ _ => congrArg _
      all_goals first | assumption | exact fun _ _ => hstar
  | case7 v rest _ _ _ _ hother =>
      obtain ⟨w, ws, hfirst, -, rfl⟩ := List.forall₂_cons_left_iff.mp h
      have hv : v.text? = none := by
        cases htext : v.text? with
        | none => rfl
        | some s => exact (hother s (Value.eq_text_of_text? htext)).elim
      obtain ⟨failure, hv'⟩ := tupleParts_other hv rest
      obtain ⟨failure', hw'⟩ := tupleParts_other (hfirst.text?_eq.symm.trans hv) ws
      rw [hv', hw']
      exact .error _ _

theorem globOf_parallel (h : Alike v w) :
  Parallel Eq (globOf v) (globOf w)
  := by
  unfold globOf
  rw [h.checkKey_eq]
  apply (Parallel.refl Eq.refl w.checkKey).bind
  rintro _ _ -
  cases h with
  | refl => apply Parallel.refl Eq.refl
  | zeros s t => exact .error _ _
  | tuple h =>
      apply (tupleParts_parallel h.items).bind
      rintro parts _ rfl
      exact .ok rfl

/-! ### Functions -/

theorem keyMatchOn_eq (h : Alike v v') (h' : Alike w w') :
  keyMatchOn v w = keyMatchOn v' w'
  := by
  have hpart := noPart_eq h
  rw [keyMatchOn, keyMatchOn, h'.receiver_eq]
  apply bind_congr
  intro p
  cases h with
  | refl => rfl
  | _ =>
      cases beforeStar? p.toList with
      | none => rfl
      | some head => simp only [hpart]

theorem keyGetOn_eq (h : Alike v v') (h' : Alike w w') :
  keyGetOn v w = keyGetOn v' w'
  := by
  have hpart := noPart_eq h
  rw [keyGetOn, keyGetOn, h'.receiver_eq]
  apply bind_congr
  intro p
  cases h with
  | refl => rfl
  | _ =>
      cases beforeStar? p.toList with
      | none => rfl
      | some head => simp only [hpart]

theorem keyMatch2On_eq (h : Alike v v') (h' : Alike w w') :
  keyMatch2On v w = keyMatch2On v' w'
  := by
  simp only [keyMatch2On, matchOn, h'.receiver_eq, subject_eq h]

theorem keyGet2On_eq {u u' : Value} (h : Alike v v') (h' : Alike w w') (hu : Alike u u') :
  keyGet2On v w u = keyGet2On v' w' u'
  := by
  unfold keyGet2On
  rw [h'.receiver_eq]
  apply bind_congr
  intro p
  rw [matchOn, matchOn, subject_eq h]
  cases hu <;> rfl

theorem keyMatch3On_eq (h : Alike v v') (h' : Alike w w') :
  keyMatch3On v w = keyMatch3On v' w'
  := by
  simp only [keyMatch3On, matchOn, h'.receiver_eq, subject_eq h]

theorem keyMatch4On_eq (h : Alike v v') (h' : Alike w w') :
  keyMatch4On v w = keyMatch4On v' w'
  := by
  simp only [keyMatch4On, matchOn, h'.receiver_eq, subject_eq h]

theorem keyMatch5On_eq (h : Alike v v') (h' : Alike w w') :
  keyMatch5On v w = keyMatch5On v' w'
  := by
  rw [keyMatch5On, keyMatch5On, h.receiver_eq, h'.receiver_eq]

theorem regexMatchOn_eq (h : Alike v v') (h' : Alike w w') :
  regexMatchOn v w = regexMatchOn v' w'
  := by
  rw [regexMatchOn, regexMatchOn, expression_eq h', subject_eq h]

theorem globMatchOn_parallel (h : Alike v v') (h' : Alike w w') :
  Parallel Alike (globMatchOn v w) (globMatchOn v' w')
  := by
  rw [globMatchOn, globMatchOn, subject_eq h]
  apply (globOf_parallel h').bind
  rintro p _ rfl
  apply Parallel.refl Alike.refl

theorem ipMatchOn_eq (h : Alike v v') (h' : Alike w w') :
  ipMatchOn v w = ipMatchOn v' w'
  := by
  rw [ipMatchOn, ipMatchOn, h.receiver_eq, h'.receiver_eq]

/-! ### The table -/

theorem binary_respects
    (name first second : String) {f : Value → Value → Except Failure Value}
    (hf : ∀ {v v' w w'}, Alike v v' → Alike w w' → Parallel Alike (f v w) (f v' w')) :
  MatcherFunction.Respects (binary name first second f)
  := by
  intro arguments arguments' h
  apply (Signature.bind_parallel _ h).bind
  intro a a' ha
  apply hf (Arguments.get_alike ha first) (Arguments.get_alike ha second)

/-- Functions that read the same of like values answer them alike. -/
theorem binary_respects_of_eq
    (name first second : String) {f : Value → Value → Except Failure Value}
    (hf : ∀ {v v' w w'}, Alike v v' → Alike w w' → f v w = f v' w') :
  MatcherFunction.Respects (binary name first second f)
  := by
  apply binary_respects
  intro v v' w w' h h'
  rw [hf h h']
  apply Parallel.refl Alike.refl

/-- The functions of the library answer like arguments alike. -/
theorem all_respects : ∀ entry ∈ all, MatcherFunction.Respects entry.2 := by
  simp only [all, List.forall_mem_cons]
  refine ⟨binary_respects_of_eq _ _ _ keyMatchOn_eq, binary_respects_of_eq _ _ _ keyGetOn_eq,
    binary_respects_of_eq _ _ _ keyMatch2On_eq, ?_, binary_respects_of_eq _ _ _ keyMatch3On_eq,
    binary_respects_of_eq _ _ _ keyMatch4On_eq, binary_respects_of_eq _ _ _ keyMatch5On_eq,
    binary_respects_of_eq _ _ _ regexMatchOn_eq, binary_respects _ _ _ globMatchOn_parallel,
    binary_respects_of_eq _ _ _ ipMatchOn_eq, nofun⟩
  intro arguments arguments' h
  apply (Signature.bind_parallel _ h).bind
  intro a a' ha
  rw [keyGet2On_eq (Arguments.get_alike ha _) (Arguments.get_alike ha _) (Arguments.get_alike ha _)]
  apply Parallel.refl Alike.refl

end PatternFunction

end AccessControl
