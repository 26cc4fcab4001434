import AccessControl.Expr.Token
import AccessControl.Expr.Tree
import AccessControl.Number.Numeral
import AccessControl.Text.Identifier

/-!
# Parsing expressions

From tokens to trees.  The levels of precedence, loosest first, are `||`, `&&`, one
comparison or `in`, `+ -`, `* / %`, the prefixes `! -`, and primaries.  Each level is
a parser built from the parser of the next one; a primary contains whole expressions
again.
-/

namespace AccessControl

/-- Why a list of tokens is no expression. -/
inductive ParseFault where
  | grammar (fault : GrammarFault) (position : Nat)
  | numeral (error : NumeralError)
  deriving DecidableEq

/-- A parser takes tokens off the front of a list. -/
abbrev Parser (α : Type) := List Token → Except ParseFault (α × List Token)

namespace Parser

/-- The kind of the next token. -/
def nextKind : List Token → TokenKind
  | [] => .endOfText
  | t :: _ => t.kind

/-- The position of the next token. -/
def nextPosition : List Token → Nat
  | [] => 0
  | t :: _ => t.position

/-- The text of the next token, or none at the end. -/
def nextText? : List Token → Option String
  | [] => none
  | t :: _ => if t.kind = .endOfText then none else some t.text

/-- A fault at the next token. -/
def fail {α : Type} (fault : GrammarFault) (ts : List Token) : Except ParseFault (α × List Token) :=
  .error (.grammar fault (nextPosition ts))

/-- Takes a closing parenthesis, expected as `what` says. -/
def close (what : String) : Parser Unit
  | [] => fail (.expected what none) []
  | t :: ts =>
    if t.kind = .closing then .ok ((), ts)
    else fail (.expected what (nextText? (t :: ts))) (t :: ts)

/-! ### Levels -/

/-- Operands joined from the left by the operators that `op?` recognises, after a first
operand `left`. -/
def chainFrom (op? : Token → Option (Expr → Expr → Expr)) (operand : Parser Expr) :
    Nat → Expr → Parser Expr
  | 0, left, ts => .ok (left, ts)
  | _ + 1, left, [] => .ok (left, [])
  | fuel + 1, left, t :: ts =>
    match op? t with
    | none => .ok (left, t :: ts)
    | some join =>
      match operand ts with
      | .error e => .error e
      | .ok (right, rest) => chainFrom op? operand fuel (join left right) rest

/-- Operands joined from the left. -/
def chain (op? : Token → Option (Expr → Expr → Expr)) (operand : Parser Expr) : Parser Expr :=
  fun ts =>
    match operand ts with
    | .error e => .error e
    | .ok (left, rest) => chainFrom op? operand rest.length left rest

/-- One operand, or two joined by an operator. -/
def atMostOne (op? : Token → Option (Expr → Expr → Expr)) (operand : Parser Expr) : Parser Expr :=
  fun ts =>
    match operand ts with
    | .error e => .error e
    | .ok (left, []) => .ok (left, [])
    | .ok (left, t :: rest) =>
      match op? t with
      | none => .ok (left, t :: rest)
      | some join =>
        match operand rest with
        | .error e => .error e
        | .ok (right, rest) => .ok (join left right, rest)

/-- The operator `||`. -/
def orOp? (t : Token) : Option (Expr → Expr → Expr) :=
  if t.kind = .or then some (.logical .or) else none

/-- The operator `&&`. -/
def andOp? (t : Token) : Option (Expr → Expr → Expr) :=
  if t.kind = .and then some (.logical .and) else none

/-- The operator of the given spelling among some operators. -/
def spelled? (ops : List BinaryOp) (t : Token) : Option (Expr → Expr → Expr) :=
  if t.kind = .operator then (ops.find? (·.symbol == t.text)).map .binary else none

/-- The comparisons and `in`. -/
def comparisonOp? (t : Token) : Option (Expr → Expr → Expr) :=
  if t.kind = .isIn then some (.binary .isIn)
  else spelled? [.eq, .ne, .lt, .le, .gt, .ge] t

/-- The operators `+` and `-`. -/
def sumOp? (t : Token) : Option (Expr → Expr → Expr) := spelled? [.add, .sub] t

/-- The operators `*`, `/` and `%`. -/
def productOp? (t : Token) : Option (Expr → Expr → Expr) := spelled? [.mul, .div, .mod] t

/-- The operator that a token stands for before an operand. -/
def prefixOp? (t : Token) : Option UnaryOp :=
  if t.kind = .not then some .not
  else if t.kind = .operator ∧ t.text = "-" then some .minus
  else none

/-- A primary with any number of prefixes, of which `fuel` are taken. -/
def prefixed (primary : Parser Expr) : Nat → Parser Expr
  | 0, ts => primary ts
  | _ + 1, [] => primary []
  | fuel + 1, t :: ts =>
    match prefixOp? t with
    | none => primary (t :: ts)
    | some op =>
      match prefixed primary fuel ts with
      | .error e => .error e
      | .ok (e, rest) => .ok (.unary op e, rest)

/-! ### Primaries -/

/-- The constant written by a number token. -/
def numberLiteral (text : String) : Except NumeralError Literal :=
  if text.toList.contains '.' then (readFloat text).map .float
  else (readInt text).map fun n => .int n.toNat

/-- The items after commas, of which `fuel` are taken. -/
def moreItems (item : Parser Expr) : Nat → Parser (List Expr)
  | 0, ts => .ok ([], ts)
  | _ + 1, [] => .ok ([], [])
  | fuel + 1, t :: ts =>
    if t.kind = .comma then
      match item ts with
      | .error e => .error e
      | .ok (e, rest) =>
        match moreItems item fuel rest with
        | .error e => .error e
        | .ok (es, rest) => .ok (e :: es, rest)
    else .ok ([], t :: ts)

/-- One item or more with commas between them. -/
def items (item : Parser Expr) : Parser (List Expr) := fun ts =>
  match item ts with
  | .error e => .error e
  | .ok (e, rest) =>
    match moreItems item rest.length rest with
    | .error e => .error e
    | .ok (es, rest) => .ok (e :: es, rest)

/-- What follows an opening parenthesis: a tuple, or one expression on its own. -/
def group (inner : Parser Expr) : Parser Expr := fun ts =>
  if nextKind ts = .closing then .ok (.tuple [], ts.drop 1)
  else
    match items inner ts with
    | .error e => .error e
    | .ok ([e], rest) => (close "Expected ')'" rest).map fun (_, rest) => (e, rest)
    | .ok (es, rest) =>
      (close "Expected ')' after tuple" rest).map fun (_, rest) => (.tuple es, rest)

/-- What follows the opening parenthesis of a call. -/
def arguments (inner : Parser Expr) (function : String) : Parser Expr := fun ts =>
  if nextKind ts = .closing then .ok (.call function [], ts.drop 1)
  else
    match items inner ts with
    | .error e => .error e
    | .ok (es, rest) =>
      (close ("Expected ')' to close call to " ++ function ++ "()") rest).map
        fun (_, rest) => (.call function es, rest)

/-- The names after the dots of a path. -/
def pathNames : Parser (List String)
  | ⟨.dot, _, _⟩ :: t :: rest =>
    if isIdentifier t.text then (pathNames rest).map fun (names, rest) => (t.text :: names, rest)
    else fail .expectedName (t :: rest)
  | ts => .ok ([], ts)

/-- What follows a name that is not called: a path, or nothing. -/
def reference (head : String) : Parser Expr := fun ts =>
  match pathNames ts with
  | .error e => .error e
  | .ok (names, rest) =>
    if nextKind rest = .opening then
      fail (.methodCall (".".intercalate (head :: names))) rest
    else
      match names with
      | [] => .ok (.identifier head, rest)
      | name :: attributes => .ok (.field head name attributes, rest)

/-- A primary, whose parts in parentheses are read by `inner`. -/
def primary (inner : Parser Expr) : Parser Expr
  | [] => fail (.expectedValue none) []
  | t :: ts =>
    match t.kind with
    | .number =>
      match numberLiteral t.text with
      | .ok l => .ok (.literal l, ts)
      | .error e => .error (.numeral e)
    | .text => .ok (.literal (.text t.text), ts)
    | .isTrue => .ok (.literal (.bool true), ts)
    | .isFalse => .ok (.literal (.bool false), ts)
    | .opening => group inner ts
    | .name =>
      if nextKind ts = .opening then arguments inner t.text (ts.drop 1) else reference t.text ts
    | _ => fail (.expectedValue (nextText? (t :: ts))) (t :: ts)

/-- The levels of precedence over the parser of parenthesised parts. -/
def levels (inner : Parser Expr) : Parser Expr :=
  chain orOp? (chain andOp? (atMostOne comparisonOp? (chain sumOp? (chain productOp?
    fun ts => prefixed (primary inner) ts.length ts))))

/-- An expression whose parentheses are nested at most `depth` deep. -/
def expression : Nat → Parser Expr
  | 0 => fail .empty
  | depth + 1 => levels (expression depth)

/-- The tree of a list of tokens. -/
def wholeExpression (ts : List Token) : Except ParseFault Expr :=
  if nextKind ts = .endOfText then .error (.grammar .empty 0)
  else
    match expression (ts.length + 1) ts with
    | .error e => .error e
    | .ok (e, rest) =>
      match nextText? rest with
      | none => .ok e
      | some text => .error (.grammar (.unexpectedToken text) (nextPosition rest))

end Parser

/-- The failure of parsing `source`. -/
def ParseFault.failure (source : String) : ParseFault → Failure
  | .grammar fault position => .grammar fault source position
  | .numeral error => .ofHost .value error.message

/-- The tree of an expression's text. -/
def Expr.parse (source : String) : Except Failure Expr :=
  match tokenize source with
  | .error e => .error e
  | .ok tokens =>
    match Parser.wholeExpression tokens with
    | .ok e => .ok e
    | .error fault => .error (fault.failure source)

/-- A text is parsed through its tokens. -/
theorem Expr.parse_of_tokens {source : String} {tokens : List Token} {e : Expr}
    (htokens : tokenize source = .ok tokens) (h : Parser.wholeExpression tokens = .ok e) :
  Expr.parse source = .ok e
  := by
  rw [Expr.parse, htokens]
  simp only [h]

end AccessControl
