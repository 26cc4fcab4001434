import AccessControl.Expr.Evaluation

/-!
# Values of expressions

How the value of an expression comes from the values of its parts.
-/

namespace AccessControl

theorem Value.matches_text (s t : String) :
  Value.matches (.text s) (.text t) = (s == t)
  := by
  rw [Value.matches.eq_def]
  rfl

namespace Expr

variable {sections : Sections} {functions : Functions}
  {nested : String → String → Except Failure Value}

/-- Two texts are compared as they are. -/
theorem evaluateIn_eq
    {l r : Expr} {s t : String} (hl : evaluateIn sections functions nested l = .ok (.text s))
    (hr : evaluateIn sections functions nested r = .ok (.text t)) :
  evaluateIn sections functions nested (.binary .eq l r) = .ok (.bool (s == t))
  := by
  rw [evaluateIn, hl, hr]
  simp only [bind, Except.bind, applyBinary, Value.matches_text]

theorem evaluateIn_and
    {l r : Expr} {b c : Bool} (hl : evaluateIn sections functions nested l = .ok (.bool b))
    (hr : evaluateIn sections functions nested r = .ok (.bool c)) :
  evaluateIn sections functions nested (.logical .and l r) = .ok (.bool (b && c))
  := by
  rw [evaluateIn, hl]
  cases b with
  | false => rfl
  | true =>
      rw [hr]
      rfl

/-- A call gives what its function gives on the values of the arguments. -/
theorem evaluateIn_call
    {name : String} (hname : name ≠ "eval") {f : MatcherFunction}
    (hf : functions.lookup name = some f) {arguments : List Expr} {vs : List Value}
    (harguments : evaluateAll sections functions nested arguments = .ok vs) {v : Value}
    (hv : f vs = .ok v) :
  evaluateIn sections functions nested (.call name arguments) = .ok v
  := by
  rw [evaluateIn, hf]
  · simp only [harguments, bind, Except.bind, hv]
    rfl
  · apply hname

/-! ### Calls of `eval` -/

/-- What a call of `eval` gives inside the calls known by `stack`, with room for `room` more. -/
def evalNested (sections : Sections) (functions : Functions) (room : Nat) (stack : List String)
    (key text : String) : Except Failure Value :=
  if stack.contains key then .error (.evaluation (.cyclicEval (stack ++ [key])))
  else
    match room with
    | 0 => .error (.evaluation .deepEval)
    | room + 1 => do
      let tree ← parse text
      evaluateAt sections functions room (stack ++ [key]) tree

theorem evaluateAt_eq
    (room : Nat) (stack : List String) (e : Expr) :
  evaluateAt sections functions room stack e
    = evaluateIn sections functions (evalNested sections functions room stack) e
  := by
  rw [evaluateAt]
  rfl

end Expr

end AccessControl
