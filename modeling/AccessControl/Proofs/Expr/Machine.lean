import AccessControl.Proofs.Expr.Evaluation
import Mathlib.Logic.Function.Iterate

/-!
# The steps of an evaluation

Evaluation as a machine with a stack: `Machine.step` goes into an expression or comes back with a
value or a failure, and nothing in it limits the number of steps.  A call of `eval` is active while
its text is evaluated, which is after its argument was; a call that would make more than sixteen
active is refused.

Main statement: from every expression the machine comes to an end, with the value or the failure of
`evaluate`, and no more than sixteen calls are ever active.
-/

namespace AccessControl

namespace Expr

namespace Machine

/-- What the values of several parts are for: a tuple, or a call of a function. -/
inductive Purpose where
  | tuple
  | call (name : String) (f : MatcherFunction)

/-- What comes of the values. -/
def Purpose.finish : Purpose → List Value → Except Failure Value
  | .tuple, vs => .ok (.tuple vs)
  | .call name f, vs => callResult name (f vs)

/-- What is done when the value of a part of an expression is known. -/
inductive Frame where
  | unary (op : UnaryOp)
  | left (op : BinaryOp) (r : Expr)
  | right (op : BinaryOp) (v : Value)
  | condition (op : LogicalOp) (r : Expr)
  | truth
  | items (purpose : Purpose) (done : List Value) (rest : List Expr)
  | argument (e : Expr)
  | active (key : String)

/-- What the machine is at: an expression, a text that `eval` is called with, or a result. -/
inductive Control where
  | run (e : Expr)
  | read (text : String)
  | back (result : Except Failure Value)

/-- The machine, with the frames of the expressions that it is inside of, the innermost first. -/
structure State where
  control : Control
  frames : List Frame

/-- The key of an active call of `eval`. -/
def Frame.key? : Frame → Option String
  | .active key => some key
  | _ => none

/-- The keys of the active calls of `eval`, the outermost first. -/
def keys (k : List Frame) : List String := (k.filterMap Frame.key?).reverse

/-- The keys of the calls of `eval` that are active in a state. -/
def State.active (s : State) : List String := keys s.frames

/-! ### Steps -/

/-- Evaluates the rest of several parts, one after the other. -/
def collect (purpose : Purpose) (done : List Value) : List Expr → List Frame → State
  | [], k => ⟨.back (purpose.finish done), k⟩
  | e :: es, k => ⟨.run e, .items purpose done es :: k⟩

/-- Goes into an expression. -/
def enter (sections : Sections) (functions : Functions) : Expr → List Frame → State
  | .literal l, k => ⟨.back (.ok l.value), k⟩
  | .field scope name attributes, k =>
    ⟨.back (ofFault (lookupField sections scope name attributes)), k⟩
  | .identifier n, k => ⟨.back (.error (.evaluation (.unknownName n))), k⟩
  | .unary op e, k => ⟨.run e, .unary op :: k⟩
  | .binary op l r, k => ⟨.run l, .left op r :: k⟩
  | .logical op l r, k => ⟨.run l, .condition op r :: k⟩
  | .tuple items, k => collect .tuple [] items k
  | .call "eval" arguments, k =>
    match arguments with
    | [argument] => ⟨.run argument, .argument argument :: k⟩
    | arguments => ⟨.back (.error (.evaluation (.evalArity arguments.length))), k⟩
  | .call name arguments, k =>
    match functions.lookup name with
    | none => ⟨.back (.error (.evaluation (.unknownFunction name))), k⟩
    | some f => collect (.call name f) [] arguments k

/-- Takes up the text of a call of `eval`, unless the call is a cycle or too deep. -/
def activate (key text : String) (k : List Frame) : State :=
  if (keys k).contains key then
    ⟨.back (.error (.evaluation (.cyclicEval (keys k ++ [key])))), k⟩
  else if maxEvalDepth ≤ (keys k).length then ⟨.back (.error (.evaluation .deepEval)), k⟩
  else ⟨.read text, .active key :: k⟩

/-- Comes back to a frame with a value. -/
def resume (v : Value) : Frame → List Frame → State
  | .unary op, k => ⟨.back (applyUnary op v), k⟩
  | .left op r, k => ⟨.run r, .right op v :: k⟩
  | .right op w, k => ⟨.back (applyBinary op w v), k⟩
  | .condition op r, k =>
    match v.toTruth with
    | .error e => ⟨.back (.error e), k⟩
    | .ok b => if b == (op == .or) then ⟨.back (.ok (.bool b)), k⟩ else ⟨.run r, .truth :: k⟩
  | .truth, k => ⟨.back (v.toTruth.map .bool), k⟩
  | .items purpose done rest, k => collect purpose (done ++ [v]) rest k
  | .argument e, k =>
    match v with
    | .text text => activate (evalKey e text) text k
    | v => ⟨.back (.error (.evaluation (.evalKind v.kind))), k⟩
  | .active _, k => ⟨.back (.ok v), k⟩

/-- One step; a result that is left with no frame is final. -/
def step (sections : Sections) (functions : Functions) : State → State
  | ⟨.run e, k⟩ => enter sections functions e k
  | ⟨.read text, k⟩ =>
    match parse text with
    | .error e => ⟨.back (.error e), k⟩
    | .ok tree => ⟨.run tree, k⟩
  | ⟨.back r, []⟩ => ⟨.back r, []⟩
  | ⟨.back (.ok v), frame :: k⟩ => resume v frame k
  | ⟨.back (.error e), _ :: k⟩ => ⟨.back (.error e), k⟩

/-- The state at the start of an evaluation. -/
def start (e : Expr) : State := ⟨.run e, []⟩

/-! ### Active calls -/

theorem keys_active (key : String) (k : List Frame) :
  keys (.active key :: k) = keys k ++ [key]
  := by
  have hkey : (Frame.active key).key? = some key := rfl
  rw [keys, List.filterMap_cons_some hkey, List.reverse_cons]
  rfl

theorem keys_cons {frame : Frame} (h : frame.key? = none) (k : List Frame) :
  keys (frame :: k) = keys k
  := by
  rw [keys, List.filterMap_cons_none h]
  rfl

/-- No more calls are active than may be. -/
def Bounded (s : State) : Prop := s.active.length ≤ maxEvalDepth

section Bounds

variable {k : List Frame} (hk : (keys k).length ≤ maxEvalDepth)

include hk

theorem bounded_collect (purpose : Purpose) (done : List Value) (es : List Expr) :
  Bounded (collect purpose done es k)
  := by
  cases es with
  | nil => exact hk
  | cons e es => exact hk

theorem bounded_activate (key text : String) :
  Bounded (activate key text k)
  := by
  rw [activate]
  split
  · exact hk
  · split
    · exact hk
    · rw [Bounded, State.active, keys_active, List.length_append, List.length_singleton]
      omega

theorem bounded_enter (sections : Sections) (functions : Functions) (e : Expr) :
  Bounded (enter sections functions e k)
  := by
  unfold enter
  split
  case h_7 => exact bounded_collect hk _ _ _
  case h_8 => split <;> exact hk
  case h_9 =>
    split
    · exact hk
    · exact bounded_collect hk _ _ _
  all_goals exact hk

theorem bounded_resume (v : Value) (frame : Frame) :
  Bounded (resume v frame k)
  := by
  cases frame with
  | condition op r =>
      rw [resume]
      split
      · exact hk
      · split <;> exact hk
  | items purpose done rest => exact bounded_collect hk _ _ _
  | argument e =>
      cases v with
      | text text => exact bounded_activate hk _ _
      | _ => exact hk
  | unary op | left op r | right op w | truth | active key => exact hk

end Bounds

/-- A frame that is left takes no key in. -/
theorem length_keys_le (frame : Frame) (k : List Frame) :
  (keys k).length ≤ (keys (frame :: k)).length
  := by
  cases hkey : frame.key? with
  | none => exact Nat.le_of_eq (congrArg List.length (keys_cons hkey k)).symm
  | some key =>
      cases frame <;> cases hkey
      rw [keys_active, List.length_append]
      omega

/-- A step keeps to the bound. -/
theorem Bounded.step {s : State} (h : Bounded s) (sections : Sections) (functions : Functions) :
  Bounded (step sections functions s)
  := by
  unfold Machine.step
  split
  case h_1 e k => exact bounded_enter h sections functions e
  case h_2 text k => split <;> exact h
  case h_3 r => exact h
  case h_4 v frame k => exact bounded_resume (Nat.le_trans (length_keys_le frame k) h) v frame
  case h_5 e frame k => exact Nat.le_trans (length_keys_le frame k) h

/-- Any number of steps keeps to the bound. -/
theorem Bounded.iterate {s : State} (h : Bounded s) (sections : Sections) (functions : Functions)
    (n : Nat) :
  Bounded ((Machine.step sections functions)^[n] s)
  := by
  induction n generalizing s with
  | zero => exact h
  | succ n ih => exact ih (h.step sections functions)

/-! ### The end -/

section Reaches

variable {sections : Sections} {functions : Functions}

/-- Some number of steps leads from one state to the other. -/
def Reaches (sections : Sections) (functions : Functions) (s s' : State) : Prop :=
  ∃ n, (step sections functions)^[n] s = s'

theorem Reaches.refl (s : State) :
  Reaches sections functions s s
  := ⟨0, rfl⟩

theorem Reaches.head {s s' : State} (h : Reaches sections functions (step sections functions s) s') :
  Reaches sections functions s s'
  := by
  obtain ⟨n, h⟩ := h
  exact ⟨n + 1, h⟩

theorem Reaches.trans {s s' s'' : State} (h : Reaches sections functions s s')
    (h' : Reaches sections functions s' s'') :
  Reaches sections functions s s''
  := by
  obtain ⟨m, rfl⟩ := h
  obtain ⟨n, rfl⟩ := h'
  exact ⟨n + m, Function.iterate_add_apply _ n m s⟩

/-- A result comes back through a frame: a value goes on to what the frame does with it, and a
failure is passed on. -/
theorem Reaches.bind {s : State} {frame : Frame} {k : List Frame} {r : Except Failure Value}
    {f : Value → Except Failure Value} (h : Reaches sections functions s ⟨.back r, frame :: k⟩)
    (hf : ∀ v, Reaches sections functions (resume v frame k) ⟨.back (f v), k⟩) :
  Reaches sections functions s ⟨.back (r >>= f), k⟩
  := by
  apply h.trans
  cases r with
  | error e => exact .head (.refl _)
  | ok v => exact .head (hf v)

end Reaches

section Arrival

variable {sections : Sections} {functions : Functions}
  {nested : String → String → Except Failure Value} {stack : List String}

/-- With the calls known by `stack` active, the texts of further calls come to the results that
`nested` gives. -/
def Nests (sections : Sections) (functions : Functions)
    (nested : String → String → Except Failure Value) (stack : List String) : Prop :=
  ∀ key text k, keys k = stack →
    Reaches sections functions (activate key text k) ⟨.back (nested key text), k⟩

mutual

/-- An expression comes to its result when the texts that `eval` is called with do. -/
theorem reaches_evaluateIn (hnested : Nests sections functions nested stack) (e : Expr)
    {k : List Frame} (hk : keys k = stack) :
  Reaches sections functions ⟨.run e, k⟩ ⟨.back (evaluateIn sections functions nested e), k⟩
  := by
  apply Reaches.head
  match e with
  | .literal _ | .field _ _ _ | .identifier _ =>
      rw [evaluateIn]
      exact .refl _
  | .unary op e =>
      rw [evaluateIn]
      apply (reaches_evaluateIn hnested e ((keys_cons rfl k).trans hk)).bind
      exact fun v => .refl _
  | .binary op l r =>
      rw [evaluateIn]
      apply (reaches_evaluateIn hnested l ((keys_cons rfl k).trans hk)).bind
      intro v
      apply (reaches_evaluateIn hnested r ((keys_cons rfl k).trans hk)).bind
      exact fun w => .refl _
  | .logical op l r =>
      rw [evaluateIn]
      apply (reaches_evaluateIn hnested l ((keys_cons rfl k).trans hk)).bind
      intro v
      rw [resume]
      -- the right operand is gone into only when the left one does not decide
      cases v.toTruth with
      | error e => exact .refl _
      | ok b =>
          change Reaches sections functions (if _ then _ else _) ⟨.back (if _ then _ else _), k⟩
          by_cases hb : (b == (op == .or)) = true
          · rw [if_pos hb, if_pos hb]
            exact .refl _
          · rw [if_neg hb, if_neg hb]
            apply (reaches_evaluateIn hnested r ((keys_cons rfl k).trans hk)).bind
            intro w
            rw [resume]
            cases w.toTruth with
            | error e => exact .refl _
            | ok c => exact .refl _
  | .tuple items =>
      rw [evaluateIn]
      exact reaches_evaluateAll hnested .tuple [] items hk
  | .call name arguments =>
      by_cases hname : name = "eval"
      · subst hname
        match arguments with
        | [] => exact .refl _
        | [argument] =>
            rw [evaluateIn]
            apply (reaches_evaluateIn hnested argument ((keys_cons rfl k).trans hk)).bind
            intro v
            cases v with
            | text text => exact hnested _ text k hk
            | _ => exact .refl _
        | _ :: _ :: _ => exact .refl _
      · rw [step, enter, evaluateIn]
        · cases functions.lookup name with
          | none => exact .refl _
          | some f => exact reaches_evaluateAll hnested (.call name f) [] arguments hk
        · exact hname
        · exact hname

/-- The parts that are left come to their values, and these to what the parts are for. -/
theorem reaches_evaluateAll (hnested : Nests sections functions nested stack) (purpose : Purpose)
    (done : List Value) (es : List Expr) {k : List Frame} (hk : keys k = stack) :
  Reaches sections functions (collect purpose done es k)
    ⟨.back (evaluateAll sections functions nested es >>= fun vs => purpose.finish (done ++ vs)), k⟩
  := by
  match es with
  | [] =>
      rw [evaluateAll]
      dsimp only [Bind.bind, Except.bind]
      rw [List.append_nil]
      exact .refl _
  | e :: es =>
      rw [evaluateAll, bind_assoc]
      apply (reaches_evaluateIn hnested e ((keys_cons rfl k).trans hk)).bind
      intro v
      have hrest := reaches_evaluateAll hnested purpose (done ++ [v]) es hk
      simp only [List.append_assoc, List.singleton_append] at hrest
      simp only [bind_assoc, pure_bind]
      exact hrest

end

/-- A result comes back from an active call as it is. -/
theorem Reaches.leave {s : State} {k : List Frame} {r : Except Failure Value} (key : String)
    (h : Reaches sections functions s ⟨.back r, .active key :: k⟩) :
  Reaches sections functions s ⟨.back r, k⟩
  := by
  apply h.trans
  cases r with
  | error e => exact .head (.refl _)
  | ok v => exact .head (.refl _)

/-- The text of a call comes to its result: the room left for further calls is what is missing
to the bound. -/
theorem nests_evalNested {room : Nat} (hroom : stack.length + room = maxEvalDepth) :
  Nests sections functions (evalNested sections functions room stack) stack
  := by
  -- the induction is on the room: a text brings a new tree of any size, but takes a place
  induction room generalizing stack with
  | zero =>
      intro key text k hk
      rw [activate, evalNested, hk, if_pos (show maxEvalDepth ≤ stack.length by omega)]
      split <;> exact .refl _
  | succ room ih =>
      intro key text k hk
      rw [activate, evalNested, hk, if_neg (show ¬ maxEvalDepth ≤ stack.length by omega)]
      split
      · exact .refl _
      · apply Reaches.leave key
        apply Reaches.head
        rw [step]
        cases parse text with
        | error e => exact .refl _
        | ok tree =>
            have hlength : (stack ++ [key]).length + room = maxEvalDepth := by
              rw [List.length_append, List.length_singleton]
              omega
            have hkeys : keys (.active key :: k) = stack ++ [key] := by rw [keys_active, hk]
            have htree := reaches_evaluateIn (ih hlength) tree hkeys
            rw [← evaluateAt_eq] at htree
            exact htree

end Arrival

end Machine

/-- **Evaluation ends.**  Whatever the bindings and the functions are, the machine comes to an end
from every expression, with the value or the failure of `evaluate`, and on its way no more than
sixteen calls of `eval` are active at once. -/
theorem evaluate_ends (sections : Sections) (functions : Functions) (e : Expr) :
  (∃ n, ∀ m, n ≤ m → (Machine.step sections functions)^[m] (Machine.start e)
      = ⟨.back (evaluate sections functions e), []⟩) ∧
    ∀ n, ((Machine.step sections functions)^[n] (Machine.start e)).active.length ≤ maxEvalDepth
  := by
  constructor
  · have hnests : Machine.Nests sections functions
        (evalNested sections functions maxEvalDepth []) [] :=
      Machine.nests_evalNested (Nat.zero_add _)
    obtain ⟨n, hn⟩ := Machine.reaches_evaluateIn (k := []) hnests e rfl
    refine ⟨n, ?_⟩
    intro m hm
    obtain ⟨more, rfl⟩ := Nat.exists_eq_add_of_le' hm
    rw [Function.iterate_add_apply, evaluate, evaluateAt_eq, Machine.start, hn]
    exact Function.iterate_fixed rfl more
  · exact (show Machine.Bounded (Machine.start e) from Nat.zero_le _).iterate sections functions

/-- The text of a call of `eval` may be computed on the way; the call is active from then on. -/
example : ((Machine.step [] [])^[7] (Machine.start (.call "eval"
      [.binary .add (.literal (.text "1 +")) (.literal (.text " 1"))]))).active = ["1 + 1"]
  := by decide

end Expr

end AccessControl
