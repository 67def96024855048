import LayerStencil.Condition.Parse
import LayerStencil.Text.Quoted

/-! # Truth of conditions

A condition is evaluated in a scope from left to right; `and` and `or` look at their right side only
if the left side does not decide. Comparisons are typed, with two exceptions: truth values compare
as the numbers 0 and 1, and equality of a text with another value compares printed forms.
-/

namespace LayerStencil

/-! ### Comparing values -/

/-- The number that a truth value counts as. -/
def bit (b : Bool) : Int := if b then 1 else 0

/-- Equality of values, by number for truth values and numbers, else by printed form. -/
def Value.looseEq : Value → Value → Bool
  | .str a, .str b => a = b
  | .int a, .int b => a = b
  | .bool a, .bool b => a = b
  | .bool a, .int b => bit a = b
  | .int a, .bool b => a = bit b
  | a, b => a.render = b.render

/-- The number of a value that has one. -/
def Value.number? : Value → Option Int
  | .int n => some n
  | .bool b => some (bit b)
  | .str _ => none

/-- The order of two texts, by code points from the left. -/
def textOrder (a b : String) : Ordering :=
  if a < b then .lt else if a = b then .eq else .gt

/-- The order of two numbers. -/
def numberOrder (a b : Int) : Ordering :=
  if a < b then .lt else if a = b then .eq else .gt

/-- The order of two values: texts among themselves, and numbers with truth values. -/
def Value.order? : Value → Value → Option Ordering
  | .str a, .str b => some (textOrder a b)
  | a, b =>
    match a.number?, b.number? with
    | some m, some n => some (numberOrder m n)
    | _, _ => none

/-- The order of two operands, which lists do not have. -/
def Operand.order? : Operand → Operand → Option Ordering
  | .scalar a, .scalar b => a.order? b
  | _, _ => none

/-- Are the lists of equal length, with equal values at equal places? -/
def looseEqAll : List Value → List Value → Bool
  | [], [] => true
  | a :: as, b :: bs => a.looseEq b && looseEqAll as bs
  | _, _ => false

/-- Is the first operand an element of the second, or a text that occurs in it? -/
def Operand.isIn? : Operand → Operand → Option Bool
  | .scalar a, .list vs => some (vs.any a.looseEq)
  | .scalar (.str a), .scalar (.str b) => some (Text.occursIn a.toList b.toList)
  | _, _ => none

/-- What a comparison says of two operands, if they have types that it compares. -/
def CompareOp.apply? (op : CompareOp) (a b : Operand) : Option Bool :=
  match op with
  | eq =>
    match a, b with
    | .scalar a, .scalar b => some (a.looseEq b)
    | .list as, .list bs => some (looseEqAll as bs)
    | _, _ => none
  | ne =>
    match a, b with
    | .scalar a, .scalar b => some !a.looseEq b
    | _, _ => none
  | lt => (a.order? b).map fun o => o = .lt
  | le => (a.order? b).map fun o => o ≠ .gt
  | gt => (a.order? b).map fun o => o = .gt
  | ge => (a.order? b).map fun o => o ≠ .lt
  | isIn => a.isIn? b
  | notIn => (a.isIn? b).map (! ·)

/-- What a comparison says of two operands, or which types it cannot compare. -/
def CompareOp.apply (op : CompareOp) (a b : Operand) : Except EvalError Bool :=
  match op.apply? a b with
  | some v => .ok v
  | none => .error (.operands (.compare op) a.type b.type)

/-! ### Evaluating -/

/-- The truth value of an operand of a connective. -/
def Operand.truth (op : Operation) : Operand → Except EvalError Bool
  | .scalar v =>
    match v.truth? with
    | some b => .ok b
    | none => .error (.operands op (Operand.scalar v).type .bool)
  | .list _ => .error (.operands op .list .bool)

mutual

/-- The operand that an expression comes to in a scope. -/
def Expr.eval (values : Values) : Expr → Except EvalError Operand
  | .literal v => .ok (.scalar v)
  | .text raw =>
    match Segment.substitute values raw with
    | .ok s => .ok (.scalar (.str (String.ofList s)))
    | .error cause => .error (.text cause)
  | .field name =>
    match values.get? name with
    | some v => .ok (.scalar v)
    | none => .error (.unbound name)
  | .list items => do
    let vs ← Expr.evalItems values items
    return .list vs
  | .not e => do
    let v ← e.eval values
    let b ← v.truth .not
    return .scalar (.bool !b)
  | .and a b => do
    let v ← a.eval values
    if ← v.truth .and then
      let w ← b.eval values
      let c ← w.truth .and
      return .scalar (.bool c)
    else
      return .scalar (.bool false)
  | .or a b => do
    let v ← a.eval values
    if ← v.truth .or then
      return .scalar (.bool true)
    else
      let w ← b.eval values
      let c ← w.truth .or
      return .scalar (.bool c)
  | .compare op a b => do
    let v ← a.eval values
    let w ← b.eval values
    let c ← op.apply v w
    return .scalar (.bool c)

/-- The values that the elements of a list come to; a list is no element. -/
def Expr.evalItems (values : Values) : List Expr → Except EvalError (List Value)
  | [] => .ok []
  | e :: es => do
    match ← e.eval values with
    | .scalar v =>
      let vs ← Expr.evalItems values es
      return v :: vs
    | .list _ => .error (.operands .list .list .list)

end

/-- Does a condition hold in a scope? -/
def Condition.evaluate (c : Condition) (values : Values) : Except EvalError Bool := do
  match ← c.expr.eval values with
  | .scalar v =>
    match v.truth? with
    | some b => return b
    | none => .error (.notTruth (.scalar v))
  | .list vs => .error (.notTruth (.list vs))

/-! ### Messages -/

/-- An operand in a message: its type and quoted text, or how many elements it has. -/
def Operand.shown : Operand → String
  | .scalar v => v.typeName ++ " " ++ Text.quoted v.render
  | .list vs => "a list of " ++ Text.decimal vs.length ++ " items"

/-- The message of a failed evaluation. -/
def EvalError.message : EvalError → String
  | unbound name => "unbound placeholder \x7b" ++ name ++ "\x7d"
  | text cause => cause.message
  | operands op lhs rhs =>
    "cannot apply `" ++ op.symbol ++ "` to " ++ lhs.name ++ " and " ++ rhs.name
  | notTruth result => "condition produced " ++ result.shown ++ ", expected a boolean"

/-- The name that is missing in the scope, if that is why the evaluation failed. -/
def EvalError.unbound? : EvalError → Option String
  | unbound name => some name
  | text (.unbound name) => some name
  | _ => none

end LayerStencil
