import AccessControl.Proofs.Expr.Evaluation
import AccessControl.Proofs.Failure.Results

/-!
# Inlining the calls of `eval`

The relation `Inlines` between an expression and the expression in which every call
`eval(field)` is replaced by the tree of the field's text, the calls in that tree being
replaced in turn.

Main statement: the two expressions have the same value, or fail with the same failure.
-/

namespace AccessControl

namespace Expr

/-- No part of the expression is a call of `eval`. -/
def EvalFree (e : Expr) : Prop := ∀ arguments, .call "eval" arguments ∉ e.nodes

mutual

/-- `Inlines sections chain e e'` holds when `e'` is `e` with its calls of `eval` replaced,
inside the replacements of the fields whose paths are in `chain`.  A replacement exists for a
call with one field, which has a text for its value, when the text parses, the field is not
in the chain already, and the chain has room for it. -/
inductive Inlines (sections : Sections) : List String → Expr → Expr → Prop where
  | literal {chain : List String} (l : Literal) :
      Inlines sections chain (.literal l) (.literal l)
  | field {chain : List String} (scope name : String) (attributes : List String) :
      Inlines sections chain (.field scope name attributes) (.field scope name attributes)
  | identifier {chain : List String} (text : String) :
      Inlines sections chain (.identifier text) (.identifier text)
  | unary {chain : List String} {op : UnaryOp} {e e' : Expr} (h : Inlines sections chain e e') :
      Inlines sections chain (.unary op e) (.unary op e')
  | binary {chain : List String} {op : BinaryOp} {l l' r r' : Expr}
      (hl : Inlines sections chain l l') (hr : Inlines sections chain r r') :
      Inlines sections chain (.binary op l r) (.binary op l' r')
  | logical {chain : List String} {op : LogicalOp} {l l' r r' : Expr}
      (hl : Inlines sections chain l l') (hr : Inlines sections chain r r') :
      Inlines sections chain (.logical op l r) (.logical op l' r')
  | tuple {chain : List String} {items items' : List Expr}
      (h : InlinesAll sections chain items items') :
      Inlines sections chain (.tuple items) (.tuple items')
  | call {chain : List String} {function : String} {arguments arguments' : List Expr}
      (hname : function ≠ "eval") (h : InlinesAll sections chain arguments arguments') :
      Inlines sections chain (.call function arguments) (.call function arguments')
  | eval {chain : List String} {scope name : String} {attributes : List String} {text : String}
      {e e' : Expr} (hfield : lookupField sections scope name attributes = .ok (.text text))
      (hparse : parse text = .ok e) (hfresh : path scope name attributes ∉ chain)
      (hroom : chain.length < maxEvalDepth)
      (h : Inlines sections (chain ++ [path scope name attributes]) e e') :
      Inlines sections chain (.call "eval" [.field scope name attributes]) e'

/-- The items of a list have their calls of `eval` replaced, one by one. -/
inductive InlinesAll (sections : Sections) : List String → List Expr → List Expr → Prop where
  | nil {chain : List String} : InlinesAll sections chain [] []
  | cons {chain : List String} {e e' : Expr} {es es' : List Expr}
      (h : Inlines sections chain e e') (hs : InlinesAll sections chain es es') :
      InlinesAll sections chain (e :: es) (e' :: es')

end

/-! ### The replacement -/

mutual

/-- An expression has at most one replacement. -/
theorem Inlines.unique
    {sections : Sections} {chain : List String} {e e' e'' : Expr}
    (h : Inlines sections chain e e') (h' : Inlines sections chain e e'') :
  e' = e''
  := by
  match h with
  | .literal _ | .field _ _ _ | .identifier _ =>
      cases h'
      rfl
  | .unary h =>
      cases h' with
      | unary h' => rw [h.unique h']
  | .binary hl hr =>
      cases h' with
      | binary hl' hr' => rw [hl.unique hl', hr.unique hr']
  | .logical hl hr =>
      cases h' with
      | logical hl' hr' => rw [hl.unique hl', hr.unique hr']
  | .tuple h =>
      cases h' with
      | tuple h' => rw [h.unique h']
  | .call hname h =>
      cases h' with
      | call _ h' => rw [h.unique h']
      | eval => exact absurd rfl hname
  | .eval hfield hparse _ _ h =>
      cases h' with
      | call hname _ => exact absurd rfl hname
      | eval hfield' hparse' _ _ h' =>
          cases hfield.symm.trans hfield'
          cases hparse.symm.trans hparse'
          apply h.unique h'

theorem InlinesAll.unique
    {sections : Sections} {chain : List String} {es es' es'' : List Expr}
    (h : InlinesAll sections chain es es')
    (h' : InlinesAll sections chain es es'') :
  es' = es''
  := by
  match h with
  | .nil =>
      cases h'
      rfl
  | .cons h hs =>
      cases h' with
      | cons h' hs' => rw [h.unique h', hs.unique hs']

end

mutual

/-- The replacement has no call of `eval`. -/
theorem Inlines.evalFree
    {sections : Sections} {chain : List String} {e e' : Expr}
    (h : Inlines sections chain e e') :
  e'.EvalFree
  := by
  intro calls hmem
  match h with
  | .literal _ | .field _ _ _ | .identifier _ => simp [nodes] at hmem
  | .unary h =>
      rw [nodes, List.mem_cons] at hmem
      obtain heq | hmem := hmem
      · cases heq
      · apply h.evalFree calls hmem
  | .binary hl hr | .logical hl hr =>
      rw [nodes, List.mem_cons, List.mem_append] at hmem
      obtain heq | hmem | hmem := hmem
      · cases heq
      · apply hl.evalFree calls hmem
      · apply hr.evalFree calls hmem
  | .tuple h =>
      rw [nodes, List.mem_cons] at hmem
      obtain heq | hmem := hmem
      · cases heq
      · apply h.evalFree calls hmem
  | .call hname h =>
      rw [nodes, List.mem_cons] at hmem
      obtain heq | hmem := hmem
      · cases heq
        apply hname rfl
      · apply h.evalFree calls hmem
  | .eval _ _ _ _ h => apply h.evalFree calls hmem

theorem InlinesAll.evalFree
    {sections : Sections} {chain : List String} {es es' : List Expr}
    (h : InlinesAll sections chain es es') (calls : List Expr) :
  .call "eval" calls ∉ nodesOf es'
  := by
  intro hmem
  match h with
  | .nil => simp [nodesOf] at hmem
  | .cons h hs =>
      rw [nodesOf, List.mem_append] at hmem
      obtain hmem | hmem := hmem
      · apply h.evalFree calls hmem
      · apply hs.evalFree calls hmem

end

/-! ### Values -/

variable {sections : Sections} {functions : Functions}

/-- A call of `eval` with a field that is not being evaluated gives the value of its tree. -/
theorem evalNested_of_parse
    {room : Nat} {chain : List String} {key text : String} {e : Expr} (hfresh : key ∉ chain) (hparse : parse text = .ok e) :
  evalNested sections functions (room + 1) chain key text
    = evaluateAt sections functions room (chain ++ [key]) e
  := by
  have hcontains : chain.contains key = false := by simpa using hfresh
  rw [evalNested, hcontains, hparse]
  rfl

/-- A call of `eval` with a field that has a text gives what the nested calls give for the
text. -/
theorem evaluateIn_eval
    {nested : String → String → Except Failure Value} {scope name : String}
    {attributes : List String} {text : String}
    (hfield : lookupField sections scope name attributes = .ok (.text text)) :
  evaluateIn sections functions nested (.call "eval" [.field scope name attributes])
    = nested (path scope name attributes) text
  := by
  rw [evaluateIn, evaluateIn, hfield]
  rfl

mutual

/-- With room for the calls that the chain leaves, an expression has the value of its
replacement. -/
theorem Inlines.evaluateIn_eq
    {sections : Sections} {functions : Functions} {chain : List String} {e e' : Expr}
    (h : Inlines sections chain e e') (nested : String → String → Except Failure Value) :
  evaluateIn sections functions
      (evalNested sections functions (maxEvalDepth - chain.length) chain) e
    = evaluateIn sections functions nested e'
  := by
  match h with
  | .literal _ | .field _ _ _ | .identifier _ => rw [evaluateIn, evaluateIn]
  | .unary h => rw [evaluateIn, evaluateIn, h.evaluateIn_eq nested]
  | .binary hl hr | .logical hl hr =>
      rw [evaluateIn, evaluateIn, hl.evaluateIn_eq nested, hr.evaluateIn_eq nested]
  | .tuple h => rw [evaluateIn, evaluateIn, h.evaluateAll_eq nested]
  | .call hname h =>
      rw [evaluateIn, evaluateIn, h.evaluateAll_eq nested]
      · apply hname
      · apply hname
  | @Inlines.eval _ _ scope name attributes _ _ _ hfield hparse hfresh hroom h =>
      have hdepth : maxEvalDepth - chain.length
          = maxEvalDepth - (chain ++ [path scope name attributes]).length + 1 := by
        rw [List.length_append, List.length_singleton]
        omega
      rw [evaluateIn_eval hfield, hdepth, evalNested_of_parse hfresh hparse, evaluateAt_eq]
      apply h.evaluateIn_eq nested

theorem InlinesAll.evaluateAll_eq
    {sections : Sections} {functions : Functions} {chain : List String} {es es' : List Expr}
    (h : InlinesAll sections chain es es') (nested : String → String → Except Failure Value) :
  evaluateAll sections functions
      (evalNested sections functions (maxEvalDepth - chain.length) chain) es
    = evaluateAll sections functions nested es'
  := by
  match h with
  | .nil => rw [evaluateAll, evaluateAll]
  | .cons h hs => rw [evaluateAll, evaluateAll, h.evaluateIn_eq nested, hs.evaluateAll_eq nested]

end

/-- **Inlining.**  The tree in which every call `eval(field)` is replaced by the tree of the
field's text, the calls there being replaced in turn, has no calls of `eval`; and with any
functions it has the value of the expression, or fails with the same failure. -/
theorem evaluate_inlined
    {e e' : Expr} (h : Inlines sections [] e e') :
  e'.EvalFree ∧
    ∀ functions, e.evaluate sections functions = e'.evaluate sections functions
  := by
  constructor
  · apply h.evalFree
  · intro functions
    rw [evaluate, evaluateAt_eq, evaluate, evaluateAt_eq]
    apply h.evaluateIn_eq

/-- Bindings of a policy row whose rule calls the condition on the age, too. -/
def ruleSections : Sections :=
  [("r", [("sub", .text "alice"), ("age", .int 20)]),
   ("p", [("rule", .text "eval(p.adult) && r.sub == 'alice'"), ("adult", .text "r.age >= 18")])]

/-- The condition on the age. -/
def adult : Expr := .binary .ge (.field "r" "age" []) (.literal (.int 18))

/-- The matcher of the rule and the condition beside it. -/
def ruleCalls : Expr :=
  .logical .and (.call "eval" [.field "p" "rule" []]) (.call "eval" [.field "p" "adult" []])

/-- The matcher with its rule and its condition written out. -/
def ruleInlined : Expr :=
  .logical .and
    (.logical .and adult (.binary .eq (.field "r" "sub" []) (.literal (.text "alice")))) adult

/-- The tokens of the condition. -/
def adultTokens : List Token :=
  [⟨.name, "r", 0⟩, ⟨.dot, ".", 1⟩, ⟨.name, "age", 2⟩, ⟨.operator, ">=", 6⟩, ⟨.number, "18", 9⟩,
   ⟨.endOfText, "", 11⟩]

theorem parse_adult :
  parse "r.age >= 18" = .ok adult
  := by
  have htokens : tokenize "r.age >= 18" = .ok adultTokens := by
    apply ok_of_toOption
    rw [tokenize, String.toList_ofList]
    decide +kernel
  exact parse_of_tokens htokens rfl

/-- The tokens of the rule. -/
def ruleTokens : List Token :=
  [⟨.name, "eval", 0⟩, ⟨.opening, "(", 4⟩, ⟨.name, "p", 5⟩, ⟨.dot, ".", 6⟩, ⟨.name, "adult", 7⟩,
   ⟨.closing, ")", 12⟩, ⟨.and, "&&", 14⟩, ⟨.name, "r", 17⟩, ⟨.dot, ".", 18⟩, ⟨.name, "sub", 19⟩,
   ⟨.operator, "==", 23⟩, ⟨.text, "alice", 26⟩, ⟨.endOfText, "", 33⟩]

theorem parse_rule :
  parse "eval(p.adult) && r.sub == 'alice'"
    = .ok (.logical .and (.call "eval" [.field "p" "adult" []])
        (.binary .eq (.field "r" "sub" []) (.literal (.text "alice"))))
  := by
  have htokens : tokenize "eval(p.adult) && r.sub == 'alice'" = .ok ruleTokens := by
    apply ok_of_toOption
    rw [tokenize, String.toList_ofList]
    decide +kernel
  exact parse_of_tokens htokens rfl

theorem inlines_adult
    {chain : List String} (hfresh : "p.adult" ∉ chain) (hroom : chain.length < maxEvalDepth) :
  Inlines ruleSections chain (.call "eval" [.field "p" "adult" []]) adult
  := .eval rfl parse_adult hfresh hroom (.binary (.field ..) (.literal _))

theorem inlines_ruleCalls :
  Inlines ruleSections [] ruleCalls ruleInlined
  := by
  apply Inlines.logical
  · apply Inlines.eval rfl parse_rule (by decide) (by decide)
    apply Inlines.logical (inlines_adult (by decide) (by decide))
    apply Inlines.binary (.field ..) (.literal _)
  · apply inlines_adult (by decide) (by decide)

/-- The call of a condition inside a rule does not hinder the same call beside the rule. -/
theorem evaluate_ruleCalls :
  Inlines ruleSections [] ruleCalls ruleInlined ∧ ruleInlined.EvalFree ∧
    ∀ functions, ruleCalls.evaluate ruleSections functions
      = ruleInlined.evaluate ruleSections functions
  := ⟨inlines_ruleCalls, evaluate_inlined inlines_ruleCalls⟩

end Expr

end AccessControl
