import LayerStencil.Template.Segment

/-! # Conditions

A condition is an expression over the fields in scope: literals, quoted strings with fields in them,
lists, comparisons and the connectives. This module holds the expressions, the operands they
evaluate to, and the failures of reading and evaluating one.
-/

namespace LayerStencil

/-- The comparisons of conditions. -/
inductive CompareOp where
  | eq
  | ne
  | lt
  | le
  | gt
  | ge
  | isIn
  | notIn
deriving DecidableEq, Repr, Inhabited

/-- The written form of a comparison. -/
def CompareOp.symbol : CompareOp → String
  | eq => "=="
  | ne => "!="
  | lt => "<"
  | le => "<="
  | gt => ">"
  | ge => ">="
  | isIn => "in"
  | notIn => "not in"

/-- A condition as a tree. -/
inductive Expr where
  | literal (v : Value)
  /-- A quoted string, in which fields are replaced when it is evaluated. -/
  | text (raw : List Char)
  | field (name : String)
  | list (items : List Expr)
  | not (e : Expr)
  | and (a b : Expr)
  | or (a b : Expr)
  | compare (op : CompareOp) (a b : Expr)
deriving Repr, Inhabited

/-- What an expression evaluates to. -/
inductive Operand where
  | scalar (v : Value)
  | list (vs : List Value)
deriving DecidableEq, Repr

/-- The types that messages tell apart. -/
inductive OperandType where
  | str
  | bool
  | int
  | list
deriving DecidableEq, Repr

/-- The name of a type in messages. -/
def OperandType.name : OperandType → String
  | str => "string"
  | bool => "bool"
  | int => "int"
  | list => "list"

/-- The type of an operand. -/
def Operand.type : Operand → OperandType
  | scalar (.str _) => .str
  | scalar (.bool _) => .bool
  | scalar (.int _) => .int
  | list _ => .list

/-- The parts of a condition that ask for operands of certain types. -/
inductive Operation where
  | compare (op : CompareOp)
  | not
  | and
  | or
  | list
deriving DecidableEq, Repr

/-- The written form of an operation in messages. -/
def Operation.symbol : Operation → String
  | compare op => op.symbol
  | not => "not"
  | and => "and"
  | or => "or"
  | list => "[]"

/-- Why a condition has no truth value in a scope. -/
inductive EvalError where
  | unbound (name : String)
  /-- A quoted string whose fields cannot be replaced. -/
  | text (cause : SubstituteError)
  | operands (op : Operation) (lhs rhs : OperandType)
  /-- The whole condition came to something that is no truth value. -/
  | notTruth (result : Operand)
deriving DecidableEq, Repr

end LayerStencil
