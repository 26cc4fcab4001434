import AccessControl.Expr.Coercion
import AccessControl.Expr.Parser

/-!
# Evaluation

The value of an expression under the bindings of its sections and a table of
functions.  A call `eval(…)` parses the text of its argument and evaluates the tree
with the same bindings; such calls are nested at most sixteen deep, and an argument
met again inside its own evaluation is a cycle.
-/

namespace AccessControl

/-- A function that expressions call. -/
abbrev MatcherFunction := List Value → Except Failure Value

/-- Functions by name. -/
abbrev Functions := List (String × MatcherFunction)

/-- The bindings of a section: values by field. -/
abbrev Bindings := List (String × Value)

/-- Bindings by section. -/
abbrev Sections := List (String × Bindings)

namespace Expr

/-- The most calls of `eval` that are active at once. -/
def maxEvalDepth : Nat := 16

/-! ### Fields -/

/-- The attribute of a value that has attributes. -/
def attribute? (name : String) : Value → Option Value
  | .entity attributes => attributes.lookup name
  | .selection request policy effect matcher =>
    if name = "r_type" then some request
    else if name = "p_type" then some policy
    else if name = "e_type" then some effect
    else if name = "m_type" then some matcher
    else none
  | _ => none

/-- Follows a path of keys and attributes from a value; `path` is the whole
reference. -/
def follow (path : String) : Value → List String → Except EvaluationFault Value
  | v, [] => .ok v
  | .mapping entries, key :: rest =>
    match entries.lookup key with
    | some v => follow path v rest
    | none => .error (.noKey key path)
  | v, name :: rest =>
    match attribute? name v with
    | some w => follow path w rest
    | none => .error (.noAttribute name path)

/-- The value of a field reference. -/
def lookupField (sections : Sections) (scope name : String) (attributes : List String) :
    Except EvaluationFault Value :=
  match sections.lookup scope with
  | none => .error (.unknownSection scope (path scope name attributes))
  | some bindings =>
    match bindings.lookup name with
    | none => .error (.unresolvable (path scope name attributes))
    | some v => follow (path scope name attributes) v attributes

/-! ### Operators -/

/-- Membership in a sequence or among the keys of a mapping, or of a text in a text. -/
def contains (v : Value) : Value → Except EvaluationFault Bool
  | .tuple items | .list items => .ok (items.any v.matches)
  | .mapping entries => .ok (entries.any fun (key, _) => v.matches (.text key))
  | .text s =>
    match v with
    | .text t => .ok (occursIn t.toList s.toList)
    | _ => .error (.notContainer (Value.text s).kind)
  | w => .error (.notContainer w.kind)

/-- A number computed by the host's arithmetic. -/
def ofNumeric : Except HostError Numeric → Except Failure Value
  | .ok n => .ok n.value
  | .error e => .error (.host e)

/-- An operator on numbers; `left` and `right` are the operands as they were given. -/
def arithmetic (op : BinaryOp) (left right : Value) (a b : Numeric) : Except Failure Value :=
  let zeroDivisor : Except Failure Value := do
    let dividend ← left.inMessage
    let divisor ← right.inMessage
    .error (.evaluation (.zeroDivisor dividend op.symbol divisor))
  match op with
  | .lt => .ok (.bool (Numeric.order a b == some .lt))
  | .le => .ok (.bool (Numeric.order a b == some .lt || Numeric.order a b == some .eq))
  | .gt => .ok (.bool (Numeric.order a b == some .gt))
  | .ge => .ok (.bool (Numeric.order a b == some .gt || Numeric.order a b == some .eq))
  | .add => ofNumeric (Numeric.combine (· + ·) Binary64.add a b)
  | .sub => ofNumeric (Numeric.combine (· - ·) Binary64.sub a b)
  | .mul => ofNumeric (Numeric.combine (· * ·) Binary64.mul a b)
  | .div => if b.isZero then zeroDivisor else ofNumeric (Numeric.divide a b)
  | .mod =>
    if b.isZero then zeroDivisor else ofNumeric (Numeric.combine Int.fmod Binary64.floorMod a b)
  | .eq | .ne | .isIn => .ok .none

/-- A fault of evaluation as a failure. -/
def ofFault {α : Type} : Except EvaluationFault α → Except Failure α
  | .ok a => .ok a
  | .error fault => .error (.evaluation fault)

/-- The value of an operator between two values. -/
def applyBinary (op : BinaryOp) (left right : Value) : Except Failure Value :=
  match op, left, right with
  | .eq, v, w => .ok (.bool (v.matches w))
  | .ne, v, w => .ok (.bool (!v.matches w))
  | .isIn, v, w => (ofFault (contains v w)).map .bool
  | .add, .text s, .text t => .ok (.text (s ++ t))
  | op, v, w => do
    let a ← ofFault v.toNumeric
    let b ← ofFault w.toNumeric
    arithmetic op v w a b

/-- The value of an operator before a value. -/
def applyUnary (op : UnaryOp) (v : Value) : Except Failure Value :=
  match op with
  | .not => v.toTruth.map fun b => .bool !b
  | .minus => (ofFault v.toNumeric).map fun n => n.neg.value

/-! ### Calls -/

/-- The result of a function called under `name`: an error about the kind or the
contents of a value becomes a failure of the evaluation, any other failure is kept. -/
def callResult (name : String) : Except Failure Value → Except Failure Value
  | .error (.host ⟨.type, message⟩) => .error (.evaluation (.callFailed name ⟨.type, message⟩))
  | .error (.host ⟨.value, message⟩) => .error (.evaluation (.callFailed name ⟨.value, message⟩))
  | .error (.host ⟨.decoding, message⟩) =>
    .error (.evaluation (.callFailed name ⟨.decoding, message⟩))
  | result => result

/-- What an argument of `eval` is known by: its path if it is a field, else its text. -/
def evalKey (argument : Expr) (text : String) : String :=
  match argument with
  | .field scope name attributes => path scope name attributes
  | _ => text

mutual

/-- The value of an expression; `nested` gives the value of a text that `eval` is
called with, from its key and the text. -/
def evaluateIn (sections : Sections) (functions : Functions)
    (nested : String → String → Except Failure Value) : Expr → Except Failure Value
  | .literal l => .ok l.value
  | .field scope name attributes => ofFault (lookupField sections scope name attributes)
  | .identifier n => .error (.evaluation (.unknownName n))
  | .unary op e => do
    let v ← evaluateIn sections functions nested e
    applyUnary op v
  | .binary op l r => do
    let v ← evaluateIn sections functions nested l
    let w ← evaluateIn sections functions nested r
    applyBinary op v w
  | .logical op l r => do
    let v ← evaluateIn sections functions nested l
    let b ← v.toTruth
    if b == (op == .or) then return .bool b
    let w ← evaluateIn sections functions nested r
    let c ← w.toTruth
    return .bool c
  | .tuple items => do
    let vs ← evaluateAll sections functions nested items
    return .tuple vs
  | .call "eval" arguments =>
    match arguments with
    | [argument] => do
      let v ← evaluateIn sections functions nested argument
      match v with
      | .text text => nested (evalKey argument text) text
      | v => .error (.evaluation (.evalKind v.kind))
    | arguments => .error (.evaluation (.evalArity arguments.length))
  | .call name arguments =>
    match functions.lookup name with
    | none => .error (.evaluation (.unknownFunction name))
    | some f => do
      let vs ← evaluateAll sections functions nested arguments
      callResult name (f vs)

def evaluateAll (sections : Sections) (functions : Functions)
    (nested : String → String → Except Failure Value) : List Expr → Except Failure (List Value)
  | [] => .ok []
  | e :: es => do
    let v ← evaluateIn sections functions nested e
    let vs ← evaluateAll sections functions nested es
    return v :: vs

end

/-- The value of an expression inside the calls of `eval` known by `stack`, with room
for `room` more. -/
def evaluateAt (sections : Sections) (functions : Functions) :
    Nat → List String → Expr → Except Failure Value
  | room, stack, e =>
    evaluateIn sections functions (fun key text =>
      if stack.contains key then .error (.evaluation (.cyclicEval (stack ++ [key])))
      else
        match room with
        | 0 => .error (.evaluation .deepEval)
        | room + 1 => do
          let tree ← parse text
          evaluateAt sections functions room (stack ++ [key]) tree) e

/-- The value of an expression. -/
def evaluate (sections : Sections) (functions : Functions) (e : Expr) : Except Failure Value :=
  evaluateAt sections functions maxEvalDepth [] e

end Expr

/-- A matcher: its text and the tree that the text is parsed to. -/
structure Matcher where
  text : String
  tree : Expr

namespace Matcher

/-- The matcher of a text. -/
def ofText (text : String) : Except Failure Matcher := do
  let tree ← Expr.parse text
  return ⟨text, tree⟩

/-- The matcher holds under the bindings; its value must be a condition. -/
def holds (matcher : Matcher) (sections : Sections) (functions : Functions) :
    Except Failure Bool := do
  let v ← matcher.tree.evaluate sections functions
  v.toTruth

/-- The text of a matcher as messages show it. -/
def shown (matcher : Matcher) : String := "Matcher(" ++ quoted matcher.text ++ ")"

end Matcher

end AccessControl
