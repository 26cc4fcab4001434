import AccessControl.Value.Basic

/-!
# Expression trees

The syntax trees of matcher expressions: literals, references to the fields of a
definition, calls, tuples and operators.
-/

namespace AccessControl

/-- The operators between two operands that are both evaluated. -/
inductive BinaryOp where
  | eq
  | ne
  | lt
  | le
  | gt
  | ge
  | isIn
  | add
  | sub
  | mul
  | div
  | mod
  deriving DecidableEq, Inhabited

/-- The spelling of an operator. -/
def BinaryOp.symbol : BinaryOp → String
  | .eq => "=="
  | .ne => "!="
  | .lt => "<"
  | .le => "<="
  | .gt => ">"
  | .ge => ">="
  | .isIn => "in"
  | .add => "+"
  | .sub => "-"
  | .mul => "*"
  | .div => "/"
  | .mod => "%"

/-- The operators that evaluate their right operand only when it matters. -/
inductive LogicalOp where
  | and
  | or
  deriving DecidableEq, Inhabited

/-- The spelling of a logical operator. -/
def LogicalOp.symbol : LogicalOp → String
  | .and => "&&"
  | .or => "||"

/-- The operators before an operand. -/
inductive UnaryOp where
  | not
  | minus
  deriving DecidableEq, Inhabited

/-- The spelling of an operator before an operand. -/
def UnaryOp.symbol : UnaryOp → String
  | .not => "!"
  | .minus => "-"

/-- A constant of an expression. -/
inductive Literal where
  | int (n : Nat)
  | float (x : Binary64)
  | text (s : String)
  | bool (b : Bool)
  deriving DecidableEq, Inhabited

/-- The value of a constant. -/
def Literal.value : Literal → Value
  | .int n => .int n
  | .float x => .float x
  | .text s => .text s
  | .bool b => .bool b

/-- An expression.  `field scope name attributes` is the reference
`scope.name.attribute…`. -/
inductive Expr where
  | literal (l : Literal)
  | field (scope name : String) (attributes : List String)
  | identifier (text : String)
  | unary (op : UnaryOp) (operand : Expr)
  | binary (op : BinaryOp) (left right : Expr)
  | logical (op : LogicalOp) (left right : Expr)
  | call (function : String) (arguments : List Expr)
  | tuple (items : List Expr)
  deriving Inhabited

namespace Expr

/-- The text of a field reference. -/
def path (scope name : String) (attributes : List String) : String :=
  ".".intercalate (scope :: name :: attributes)

mutual

/-- An expression and all expressions in it, each before its parts. -/
def nodes : Expr → List Expr
  | .unary op e => .unary op e :: nodes e
  | .binary op l r => .binary op l r :: (nodes l ++ nodes r)
  | .logical op l r => .logical op l r :: (nodes l ++ nodes r)
  | .call f es => .call f es :: nodesOf es
  | .tuple es => .tuple es :: nodesOf es
  | .literal l => [.literal l]
  | .field s n as => [.field s n as]
  | .identifier n => [.identifier n]

def nodesOf : List Expr → List Expr
  | [] => []
  | e :: es => nodes e ++ nodesOf es

end

/-- The label of an expression's kind, with the path of a field reference. -/
def label : Expr → String
  | .literal _ => "Literal"
  | .field s n as => "FieldRef:" ++ path s n as
  | .identifier _ => "Name"
  | .unary .. => "Unary"
  | .binary .. => "Binary"
  | .logical .. => "Logical"
  | .call .. => "Call"
  | .tuple _ => "TupleExpr"

end Expr

end AccessControl
