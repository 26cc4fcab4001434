import AccessControl.Proofs.Expr.Evaluation
import AccessControl.Proofs.Number.Alike

/-!
# Values that no expression tells apart

Two values are alike if they are the same, zeros of either sign, or tuples with equal parts.
An expression can compare the parts of a tuple and no more, and it compares numbers of both
kinds as numbers, so that like values are answered alike, `Matcher.holds_alike`.  A truth value
equals a number in a host's tuples, where an expression may still tell the two apart.
-/

namespace AccessControl

namespace Value

/-! ### Numbers -/

/-- The number that a value is. -/
def number? : Value → Option Numeric
  | .int n => some (.int n)
  | .float x => some (.float x)
  | _ => Option.none

/-- The number that a value equals. -/
def equalNumber? : Value → Option Numeric
  | .bool b => some (.int (if b then 1 else 0))
  | v => v.number?

theorem eq_value_of_number? {v : Value} {a : Numeric} (h : v.number? = some a) :
  v = a.value
  := by
  cases v <;> cases h <;> rfl

theorem beq_eq_order (m n : Int) :
  (m == n) = (Numeric.order (.int m) (.int n) == some .eq)
  := by
  rw [Bool.eq_iff_iff, beq_iff_eq, beq_iff_eq, Numeric.order, Option.some.injEq,
    Std.compare_eq_iff_eq]

theorem orderInt_swap (n : Int) (x : Binary64) :
  (Binary64.orderInt n x == some .eq) = (Numeric.order (.float x) (.int n) == some .eq)
  := by
  rw [Numeric.order]
  cases Binary64.orderInt n x with
  | none => rfl
  | some o => cases o <;> rfl

/-- A number equals the values that equal the same number. -/
theorem number_beq (a : Numeric) (w : Value) :
  (a.value == w) = w.equalNumber?.any fun b => a.order b == some .eq
  := by
  cases a with
  | int m =>
      cases w with
      | bool b => apply beq_eq_order
      | int n => apply beq_eq_order
      | _ => rfl
  | float x =>
      cases w with
      | bool b => apply orderInt_swap
      | int n => apply orderInt_swap
      | _ => rfl

theorem beq_number (v : Value) (b : Numeric) :
  (v == b.value) = v.equalNumber?.any fun a => a.order b == some .eq
  := by
  cases b with
  | int n =>
      cases v with
      | bool b => apply beq_eq_order
      | int m => apply beq_eq_order
      | float x => apply orderInt_swap
      | _ => rfl
  | float y => cases v <;> rfl

/-! ### Equal parts -/

/-- Two parts of tuples are equal, but no truth value equals a number. -/
inductive Coincide : Value → Value → Prop
  | refl (v : Value) : Coincide v v
  | number {v w : Value} {a b : Numeric} (hv : v.number? = some a) (hw : w.number? = some b)
      (h : a.order b = some .eq) : Coincide v w
  | cons {v w : Value} {vs ws : List Value} (hfirst : Coincide v w)
      (hrest : Coincide (.tuple vs) (.tuple ws)) :
      Coincide (.tuple (v :: vs)) (.tuple (w :: ws))

theorem tuple_beq_cons (v w : Value) (vs ws : List Value) :
  (Value.tuple (v :: vs) == .tuple (w :: ws)) = ((v == w) && (Value.tuple vs == .tuple ws))
  := by
  change equals _ _ = ((sameNaN v w || equals v w) && equals (.tuple vs) (.tuple ws))
  rw [equals, equals, equalsItems]

namespace Coincide

variable {v w : Value}

/-- Equal parts equal the same values, on either side. -/
theorem beq_congr (h : Coincide v w) (u : Value) :
  (v == u) = (w == u) ∧ (u == v) = (u == w)
  := by
  induction h generalizing u with
  | refl => exact ⟨rfl, rfl⟩
  | number hv hw h =>
      obtain rfl := eq_value_of_number? hv
      obtain rfl := eq_value_of_number? hw
      simp only [number_beq, beq_number, (Numeric.order_congr h _).1, (Numeric.order_congr h _).2,
        and_self]
  | cons _ _ ihfirst ihrest =>
      cases u with
      | tuple us =>
          cases us with
          | nil => exact ⟨rfl, rfl⟩
          | cons u us =>
              obtain ⟨hleft, hright⟩ := ihfirst u
              obtain ⟨hlefts, hrights⟩ := ihrest (.tuple us)
              rw [tuple_beq_cons, tuple_beq_cons, tuple_beq_cons, tuple_beq_cons, hleft, hlefts,
                hright, hrights]
              exact ⟨rfl, rfl⟩
      | _ => exact ⟨rfl, rfl⟩

/-- Tuples with equal parts have as many items, each equal to the one in its place. -/
theorem items {vs ws : List Value} (h : Coincide (.tuple vs) (.tuple ws)) :
  List.Forall₂ Coincide vs ws
  := by
  induction vs generalizing ws with
  | nil =>
      cases h with
      | refl => exact .nil
      | number hv => cases hv
  | cons v vs ih =>
      cases h with
      | refl => exact List.forall₂_same.mpr fun u _ => .refl u
      | number hv => cases hv
      | cons hfirst hrest => exact .cons hfirst (ih hrest)

theorem text?_eq (h : Coincide v w) :
  v.text? = w.text?
  := by
  have hnumber : ∀ a : Numeric, a.value.text? = Option.none := by
    intro a
    cases a <;> rfl
  cases h with
  | refl => rfl
  | number hv hw =>
      rw [eq_value_of_number? hv, eq_value_of_number? hw, hnumber, hnumber]
  | cons => rfl

/-- A text is equal to itself only. -/
theorem eq_text {s : String} (h : Coincide (.text s) w) :
  w = .text s
  := by
  cases h with
  | refl => rfl
  | number hv => cases hv

end Coincide

/-! ### Comparison -/

theorem number_matches_text (a : Numeric) (s : String) :
  a.value.matches (.text s) = (numericText? s).any fun b => a.order b == some .eq
  := by
  cases a with
  | int n =>
      rw [Numeric.value, Value.matches]
      cases numericText? s <;> simp only [Option.any]
  | float x =>
      rw [Numeric.value, Value.matches]
      cases numericText? s <;> simp only [Option.any]

theorem text_matches_number (s : String) (b : Numeric) :
  (Value.text s).matches b.value = (numericText? s).any fun a => a.order b == some .eq
  := by
  cases b with
  | int n =>
      rw [Numeric.value, Value.matches]
      cases numericText? s <;> simp only [Option.any]
  | float x =>
      rw [Numeric.value, Value.matches]
      cases numericText? s <;> simp only [Option.any]

/-- A number is compared as it equals, unless it is compared with a text. -/
theorem number_matches (a : Numeric) {w : Value} (hw : w.text? = Option.none) :
  a.value.matches w = (a.value == w)
  := by
  cases w with
  | text s => cases hw
  | _ => cases a <;> rfl

theorem matches_number {v : Value} (hv : v.text? = Option.none) (b : Numeric) :
  v.matches b.value = (v == b.value)
  := by
  cases v with
  | text s => cases hv
  | _ => cases b <;> rfl

theorem tuple_matches (vs : List Value) (w : Value) :
  (Value.tuple vs).matches w = (.tuple vs == w)
  := by
  cases w <;> rfl

theorem matches_tuple (v : Value) (ws : List Value) :
  v.matches (.tuple ws) = (v == .tuple ws)
  := by
  cases v <;> rfl

theorem eq_text_of_text? {v : Value} {s : String} (h : v.text? = some s) :
  v = .text s
  := by
  cases v <;> cases h
  rfl

namespace Coincide

variable {v w : Value}

/-- Expressions compare equal parts with the same values alike, on either side. -/
theorem matches_congr (h : Coincide v w) (u : Value) :
  v.matches u = w.matches u ∧ u.matches v = u.matches w
  := by
  cases h with
  | refl => exact ⟨rfl, rfl⟩
  | number hv hw h =>
      have horder := Numeric.order_congr h
      cases hu : u.text? with
      | some s =>
          obtain rfl := eq_text_of_text? hu
          obtain rfl := eq_value_of_number? hv
          obtain rfl := eq_value_of_number? hw
          simp only [number_matches_text, text_matches_number, (horder _).1, (horder _).2,
            and_self]
      | none =>
          obtain ⟨hleft, hright⟩ := beq_congr (.number hv hw h) u
          obtain rfl := eq_value_of_number? hv
          obtain rfl := eq_value_of_number? hw
          rw [number_matches _ hu, number_matches _ hu, matches_number hu, matches_number hu]
          exact ⟨hleft, hright⟩
  | cons hfirst hrest =>
      rw [tuple_matches, tuple_matches, matches_tuple, matches_tuple]
      apply beq_congr (.cons hfirst hrest)

theorem any_matches {vs ws : List Value} (h : List.Forall₂ Coincide vs ws) (u : Value) :
  vs.any u.matches = ws.any u.matches
  := by
  induction h with
  | nil => rfl
  | cons hfirst _ ih => rw [List.any_cons, List.any_cons, (hfirst.matches_congr u).2, ih]

end Coincide

/-! ### Like values -/

/-- Two values are the same, zeros of either sign, or tuples with equal parts. -/
inductive Alike : Value → Value → Prop
  | refl (v : Value) : Alike v v
  | zeros (s t : Bool) : Alike (.float (.zero s)) (.float (.zero t))
  | tuple {vs ws : List Value} (h : Coincide (.tuple vs) (.tuple ws)) :
      Alike (.tuple vs) (.tuple ws)

namespace Alike

variable {v v' w w' : Value}

/-- Like values are equal parts. -/
theorem coincide (h : Alike v w) :
  Coincide v w
  := by
  cases h with
  | refl => exact .refl v
  | zeros s t => exact .number rfl rfl (by cases s <;> cases t <;> rfl)
  | tuple h => exact h

theorem text?_eq (h : Alike v w) :
  v.text? = w.text?
  := by
  cases h <;> rfl

/-- A text is like itself only. -/
theorem eq_text {s : String} (h : Alike (.text s) w) :
  w = .text s
  := by
  cases h
  rfl

theorem number {a b : Numeric} (h : a.Alike b) :
  Alike a.value b.value
  := by
  cases h with
  | int n => exact .refl _
  | float h =>
      cases h with
      | refl => exact .refl _
      | zeros s t => exact .zeros s t

/-- Tuples of like values are alike. -/
theorem of_items {vs ws : List Value} (h : List.Forall₂ Alike vs ws) :
  Alike (.tuple vs) (.tuple ws)
  := by
  apply Alike.tuple
  induction h with
  | nil => exact .refl _
  | cons hfirst _ ih => exact .cons hfirst.coincide ih

theorem toNumeric (h : Alike v w) :
  Parallel Numeric.Alike v.toNumeric w.toNumeric
  := by
  cases h with
  | refl => apply Parallel.refl Numeric.Alike.refl
  | zeros s t => exact .ok (.float (.zeros s t))
  | tuple h => exact .error _ _

/-- A tuple is no condition. -/
theorem toTruth_tuple (vs : List Value) :
  ∃ failure, (Value.tuple vs).toTruth = .error failure
  := by
  rw [Value.toTruth]
  · cases (Value.tuple vs).inMessage with
    | error failure => exact ⟨failure, rfl⟩
    | ok s => exact ⟨_, rfl⟩
  all_goals nofun

theorem toTruth (h : Alike v w) :
  Parallel Eq v.toTruth w.toTruth
  := by
  cases h with
  | refl => apply Parallel.refl Eq.refl
  | zeros s t => exact .ok rfl
  | @tuple vs ws h =>
      obtain ⟨failure, hv⟩ := toTruth_tuple vs
      obtain ⟨failure', hw⟩ := toTruth_tuple ws
      rw [hv, hw]
      exact .error _ _

theorem matches_eq (h : Alike v v') (h' : Alike w w') :
  v.matches w = v'.matches w'
  := by
  rw [(h.coincide.matches_congr w).1, (h'.coincide.matches_congr v').2]

end Alike

end Value

namespace Expr

open Value (Alike)

/-! ### Operators -/

theorem contains_eq {v v' w w' : Value} (h : Alike v v') (h' : Alike w w') :
  contains v w = contains v' w'
  := by
  have hmatches : v.matches = v'.matches := funext fun u => (h.coincide.matches_congr u).1
  cases h' with
  | refl =>
      cases w with
      | text s => cases h <;> rfl
      | list items => rw [contains, contains, hmatches]
      | tuple items => rw [contains, contains, hmatches]
      | mapping entries => simp only [contains, hmatches]
      | _ => rfl
  | zeros s t => rfl
  | tuple h' => rw [contains, contains, hmatches, Value.Coincide.any_matches h'.items]

theorem ofFault_parallel
    {α β : Type} {R : α → β → Prop} {x : Except EvaluationFault α} {y : Except EvaluationFault β}
    (h : Parallel R x y) :
  Parallel R (ofFault x) (ofFault y)
  := by
  cases h with
  | ok h => exact .ok h
  | error => exact .error _ _

theorem ofNumeric_parallel {x y : Except HostError Numeric} (h : Parallel Numeric.Alike x y) :
  Parallel Alike (ofNumeric x) (ofNumeric y)
  := by
  cases h with
  | ok h => exact .ok (.number h)
  | error => exact .error _ _

theorem arithmetic_parallel
    (op : BinaryOp) (l r l' r' : Value) {a a' b b' : Numeric} (h : a.Alike a') (h' : b.Alike b') :
  Parallel Alike (arithmetic op l r a b) (arithmetic op l' r' a' b')
  := by
  have hzero : ∀ l r : Value, ∃ failure, (do
      let dividend ← l.inMessage
      let divisor ← r.inMessage
      .error (.evaluation (.zeroDivisor dividend op.symbol divisor)) : Except Failure Value)
        = .error failure := by
    intro l r
    cases l.inMessage with
    | error failure => exact ⟨failure, rfl⟩
    | ok s =>
        cases r.inMessage with
        | error failure => exact ⟨failure, rfl⟩
        | ok t => exact ⟨_, rfl⟩
  obtain ⟨failure, hfailure⟩ := hzero l r
  obtain ⟨failure', hfailure'⟩ := hzero l' r'
  have horder := h.order_eq h'
  cases op with
  | lt | le | gt | ge =>
      simp only [arithmetic, horder]
      exact .ok (.refl _)
  | add => apply ofNumeric_parallel (Numeric.Alike.combine _ Binary64.Alike.add h h')
  | sub => apply ofNumeric_parallel (Numeric.Alike.combine _ Binary64.Alike.sub h h')
  | mul => apply ofNumeric_parallel (Numeric.Alike.combine _ Binary64.Alike.mul h h')
  | div =>
      simp only [arithmetic, hfailure, hfailure', h'.isZero]
      split
      case isTrue => exact .error _ _
      case isFalse hne =>
        rw [h'.eq_of_ne_zero (h'.isZero.trans (Bool.eq_false_of_not_eq_true hne))]
        apply ofNumeric_parallel (h.divide _)
  | mod =>
      simp only [arithmetic, hfailure, hfailure', h'.isZero]
      split
      case isTrue => exact .error _ _
      case isFalse => apply ofNumeric_parallel (Numeric.Alike.combine _ Binary64.Alike.floorMod h h')
  | eq | ne | isIn => exact .ok (.refl _)

/-- An operator that does not compare is one on numbers, unless it stands between texts. -/
theorem applyBinary_numbers
    {op : BinaryOp} (hop : op ≠ .eq ∧ op ≠ .ne ∧ op ≠ .isIn) {v w : Value}
    (htexts : ¬∃ s t, v = .text s ∧ w = .text t) :
  applyBinary op v w = (do
    let a ← ofFault v.toNumeric
    let b ← ofFault w.toNumeric
    arithmetic op v w a b)
  := by
  rw [applyBinary]
  · exact hop.1
  · exact hop.2.1
  · exact hop.2.2
  · rintro s t - rfl rfl
    exact htexts ⟨s, t, rfl, rfl⟩

theorem applyBinary_parallel
    (op : BinaryOp) {v v' w w' : Value} (h : Alike v v') (h' : Alike w w') :
  Parallel Alike (applyBinary op v w) (applyBinary op v' w')
  := by
  by_cases htexts : ∃ s t, v = .text s ∧ w = .text t
  · obtain ⟨s, t, rfl, rfl⟩ := htexts
    rw [h.eq_text, h'.eq_text]
    apply Parallel.refl Alike.refl
  have htexts' : ¬∃ s t, v' = .text s ∧ w' = .text t := by
    rintro ⟨s, t, rfl, rfl⟩
    exact htexts ⟨s, t, Value.eq_text_of_text? h.text?_eq, Value.eq_text_of_text? h'.text?_eq⟩
  by_cases hop : op ≠ .eq ∧ op ≠ .ne ∧ op ≠ .isIn
  · rw [applyBinary_numbers hop htexts, applyBinary_numbers hop htexts']
    apply (ofFault_parallel h.toNumeric).bind
    intro a a' ha
    apply (ofFault_parallel h'.toNumeric).bind
    intro b b' hb
    apply arithmetic_parallel _ _ _ _ _ ha hb
  · obtain rfl | rfl | rfl : op = .eq ∨ op = .ne ∨ op = .isIn := by
      simpa only [not_and_or, not_not, ne_eq] using hop
    · rw [applyBinary, applyBinary, h.matches_eq h']
      exact .ok (.refl _)
    · rw [applyBinary, applyBinary, h.matches_eq h']
      exact .ok (.refl _)
    · rw [applyBinary, applyBinary, contains_eq h h']
      apply Parallel.refl Alike.refl

theorem applyUnary_parallel (op : UnaryOp) {v v' : Value} (h : Alike v v') :
  Parallel Alike (applyUnary op v) (applyUnary op v')
  := by
  cases op with
  | not =>
      apply h.toTruth.map
      rintro b _ rfl
      exact .refl _
  | minus =>
      apply (ofFault_parallel h.toNumeric).map
      intro a a' ha
      exact .number ha.neg

/-! ### Fields -/

/-- Like values stand under the same keys. -/
def Keyed {α : Type} (R : α → α → Prop) : List (String × α) → List (String × α) → Prop :=
  List.Forall₂ fun x y => x.1 = y.1 ∧ R x.2 y.2

theorem Keyed.lookup
    {α : Type} {R : α → α → Prop} {xs ys : List (String × α)} (h : Keyed R xs ys) (key : String) :
  Option.Rel R (xs.lookup key) (ys.lookup key)
  := by
  induction h with
  | nil => exact .none
  | @cons x y xs ys hfirst _ ih =>
      obtain ⟨k, a⟩ := x
      obtain ⟨k', b⟩ := y
      obtain ⟨rfl : k = k', hab⟩ := hfirst
      rw [List.lookup_cons, List.lookup_cons]
      cases key == k with
      | true => exact .some hab
      | false => apply ih

/-- A like value has like attributes; only the same values have any. -/
theorem follow_parallel
    (whole : String) {v w : Value} (h : Alike v w) (path : List String) :
  Parallel Alike (follow whole v path) (follow whole w path)
  := by
  cases path with
  | nil =>
      rw [follow, follow]
      exact .ok h
  | cons name rest =>
      cases h with
      | refl => apply Parallel.refl Alike.refl
      | zeros s t => exact .error _ _
      | tuple h => exact .error _ _

theorem lookupField_parallel
    {sections sections' : Sections} (h : Keyed (Keyed Alike) sections sections')
    (scope name : String) (attributes : List String) :
  Parallel Alike (lookupField sections scope name attributes)
    (lookupField sections' scope name attributes)
  := by
  rw [lookupField, lookupField]
  have hscope := h.lookup scope
  generalize sections.lookup scope = found at hscope
  generalize sections'.lookup scope = found' at hscope
  cases hscope with
  | none => exact .error _ _
  | some hbindings =>
      dsimp only
      have hname := Keyed.lookup hbindings name
      generalize List.lookup name _ = value at hname ⊢
      generalize List.lookup name _ = value' at hname ⊢
      cases hname with
      | none => exact .error _ _
      | some hvalue => apply follow_parallel _ hvalue

/-! ### Calls -/

theorem callResult_parallel
    (name : String) {x y : Except Failure Value} (h : Parallel Alike x y) :
  Parallel Alike (callResult name x) (callResult name y)
  := by
  have herror : ∀ failure, ∃ failure', callResult name (.error failure) = .error failure' := by
    intro failure
    rw [callResult.eq_def]
    split <;> exact ⟨_, rfl⟩
  cases h with
  | ok h => exact .ok h
  | error failure failure' =>
      obtain ⟨_, h⟩ := herror failure
      obtain ⟨_, h'⟩ := herror failure'
      rw [h, h']
      exact .error _ _

end Expr

/-- A function answers like arguments alike. -/
def MatcherFunction.Respects (f : MatcherFunction) : Prop :=
  ∀ {arguments arguments' : List Value}, List.Forall₂ Value.Alike arguments arguments' →
    Parallel Value.Alike (f arguments) (f arguments')

namespace Expr

open Value (Alike)

/-! ### Evaluation -/

mutual

/-- Under like bindings an expression has like values, if its functions and the calls of `eval`
have. -/
theorem evaluateIn_parallel
    {sections sections' : Sections} (hsections : Keyed (Keyed Alike) sections sections')
    {functions : Functions}
    (hfunctions : ∀ name f, functions.lookup name = some f → MatcherFunction.Respects f)
    {nested nested' : String → String → Except Failure Value}
    (hnested : ∀ key text, Parallel Alike (nested key text) (nested' key text)) :
  ∀ e, Parallel Alike (evaluateIn sections functions nested e)
    (evaluateIn sections' functions nested' e)
  | .literal l => by
      rw [evaluateIn, evaluateIn]
      exact .ok (.refl _)
  | .field scope name attributes => by
      rw [evaluateIn, evaluateIn]
      apply ofFault_parallel (lookupField_parallel hsections scope name attributes)
  | .identifier n => by
      rw [evaluateIn, evaluateIn]
      exact .error _ _
  | .unary op e => by
      rw [evaluateIn, evaluateIn]
      apply (evaluateIn_parallel hsections hfunctions hnested e).bind
      intro v v' hv
      apply applyUnary_parallel op hv
  | .binary op l r => by
      rw [evaluateIn, evaluateIn]
      apply (evaluateIn_parallel hsections hfunctions hnested l).bind
      intro v v' hv
      apply (evaluateIn_parallel hsections hfunctions hnested r).bind
      intro w w' hw
      apply applyBinary_parallel op hv hw
  | .logical op l r => by
      rw [evaluateIn, evaluateIn]
      apply (evaluateIn_parallel hsections hfunctions hnested l).bind
      intro v v' hv
      apply hv.toTruth.bind
      rintro b _ rfl
      split
      case isTrue => exact .ok (.refl _)
      case isFalse =>
        apply (evaluateIn_parallel hsections hfunctions hnested r).bind
        intro w w' hw
        apply hw.toTruth.bind
        rintro c _ rfl
        exact .ok (.refl _)
  | .tuple items => by
      rw [evaluateIn, evaluateIn]
      apply (evaluateAll_parallel hsections hfunctions hnested items).bind
      intro vs ws hvs
      exact .ok (.of_items hvs)
  | .call name arguments => by
      by_cases hname : name = "eval"
      · subst hname
        match arguments with
        | [argument] =>
            rw [evaluateIn, evaluateIn]
            apply (evaluateIn_parallel hsections hfunctions hnested argument).bind
            intro v v' hv
            cases hv with
            | refl =>
                split
                · apply hnested
                · exact .error _ _
            | zeros s t => exact .error _ _
            | tuple h => exact .error _ _
        | [] | _ :: _ :: _ =>
            rw [evaluateIn, evaluateIn]
            · exact .error _ _
            · rintro _ ⟨⟩
            · rintro _ ⟨⟩
      · rw [evaluateIn, evaluateIn]
        · cases hf : functions.lookup name with
          | none => exact .error _ _
          | some f =>
              apply (evaluateAll_parallel hsections hfunctions hnested arguments).bind
              intro vs ws hvs
              apply callResult_parallel name (hfunctions name f hf hvs)
        · apply hname
        · apply hname

theorem evaluateAll_parallel
    {sections sections' : Sections} (hsections : Keyed (Keyed Alike) sections sections')
    {functions : Functions}
    (hfunctions : ∀ name f, functions.lookup name = some f → MatcherFunction.Respects f)
    {nested nested' : String → String → Except Failure Value}
    (hnested : ∀ key text, Parallel Alike (nested key text) (nested' key text)) :
  ∀ es, Parallel (List.Forall₂ Alike) (evaluateAll sections functions nested es)
    (evaluateAll sections' functions nested' es)
  | [] => by
      rw [evaluateAll, evaluateAll]
      exact .ok .nil
  | e :: es => by
      rw [evaluateAll, evaluateAll]
      apply (evaluateIn_parallel hsections hfunctions hnested e).bind
      intro v v' hv
      apply (evaluateAll_parallel hsections hfunctions hnested es).bind
      intro vs ws hvs
      exact .ok (.cons hv hvs)

end

variable {sections sections' : Sections} {functions : Functions}

theorem evaluateAt_parallel
    (hsections : Keyed (Keyed Alike) sections sections')
    (hfunctions : ∀ name f, functions.lookup name = some f → MatcherFunction.Respects f)
    (room : Nat) (stack : List String) (e : Expr) :
  Parallel Alike (evaluateAt sections functions room stack e)
    (evaluateAt sections' functions room stack e)
  := by
  induction room generalizing stack e with
  | zero =>
      rw [evaluateAt_eq, evaluateAt_eq]
      apply evaluateIn_parallel hsections hfunctions
      intro key text
      rw [evalNested, evalNested]
      split <;> exact .error _ _
  | succ room ih =>
      rw [evaluateAt_eq, evaluateAt_eq]
      apply evaluateIn_parallel hsections hfunctions
      intro key text
      rw [evalNested, evalNested]
      split
      case isTrue => exact .error _ _
      case isFalse =>
        apply (Parallel.refl Eq.refl (parse text)).bind
        rintro tree _ rfl
        apply ih

end Expr

/-- A matcher holds under bindings if it holds under like ones. -/
theorem Matcher.holds_alike
    {sections sections' : Sections}
    (hsections : Expr.Keyed (Expr.Keyed Value.Alike) sections sections')
    {functions : Functions}
    (hfunctions : ∀ name f, functions.lookup name = some f → MatcherFunction.Respects f)
    (matcher : Matcher) :
  Parallel Eq (matcher.holds sections functions) (matcher.holds sections' functions)
  := by
  apply (Expr.evaluateAt_parallel hsections hfunctions _ _ _).bind
  intro v w h
  apply h.toTruth

end AccessControl
