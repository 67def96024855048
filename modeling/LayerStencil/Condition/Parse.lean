import LayerStencil.Condition.Token

/-! # Reading conditions

Conditions are read by descent over their tokens, from the loosest connective to the tightest:
`or`, `and`, `not`, one comparison, and the operands. `or` and `and` group to the left, `not` binds
looser than a comparison, and comparisons do not chain. Every reading reports what it leaves and
that this is shorter than what it began with, so the descent ends.
-/

namespace LayerStencil

/-- A reading of tokens: a value, and what is left, which is shorter than `n`. -/
abbrev Reading (α : Type) (n : Nat) := Option (α × { rest : List Token // rest.length < n })

/-- A reading also leaves less than any larger bound. -/
def Reading.widen {α : Type} {m n : Nat} (h : m ≤ n) : Reading α m → Reading α n
  | none => none
  | some (a, ⟨rest, lt⟩) => some (a, ⟨rest, Nat.lt_of_lt_of_le lt h⟩)

namespace Expr

/-- The comparison that starts a list of tokens, and what follows it. -/
def comparison? (ts : List Token) : Reading CompareOp ts.length :=
  match ts with
  | .compare op :: rest => some (op, ⟨rest, by simp⟩)
  | .isIn :: rest => some (.isIn, ⟨rest, by simp⟩)
  | .not :: .isIn :: rest => some (.notIn, ⟨rest, by simp only [List.length_cons]; omega⟩)
  | _ => none

/-- A closing parenthesis at the start of a list of tokens. -/
def parenEnd? (ts : List Token) : Reading Unit ts.length :=
  match ts with
  | .closeParen :: rest => some ((), ⟨rest, by simp⟩)
  | _ => none

/-- The end of a list at the start of a list of tokens: a closing bracket, perhaps after a comma. -/
def listEnd? (ts : List Token) : Reading Unit ts.length :=
  match ts with
  | .closeBracket :: rest => some ((), ⟨rest, by simp⟩)
  | .comma :: .closeBracket :: rest => some ((), ⟨rest, by simp only [List.length_cons]; omega⟩)
  | _ => none

mutual

/-- One or more conjunctions with `or` between them. -/
def disjunction (ts : List Token) : Reading Expr ts.length :=
  match conjunction ts with
  | none => none
  | some (a, ⟨rest, h⟩) => (moreDisjuncts a rest).widen h
termination_by 8 * ts.length + 6

/-- The disjunction that begins with `a` and goes on in `ts`. -/
def moreDisjuncts (a : Expr) (ts : List Token) : Reading Expr (ts.length + 1) :=
  match ts with
  | .or :: r =>
    match conjunction r with
    | none => none
    | some (b, ⟨rest, h⟩) =>
      (moreDisjuncts (.or a b) rest).widen (by simp only [List.length_cons]; omega)
  | ts => some (a, ⟨ts, Nat.lt_succ_self _⟩)
termination_by 8 * ts.length + 5
decreasing_by all_goals (simp only [List.length_cons]; omega)

/-- One or more negations with `and` between them. -/
def conjunction (ts : List Token) : Reading Expr ts.length :=
  match negation ts with
  | none => none
  | some (a, ⟨rest, h⟩) => (moreConjuncts a rest).widen h
termination_by 8 * ts.length + 4

/-- The conjunction that begins with `a` and goes on in `ts`. -/
def moreConjuncts (a : Expr) (ts : List Token) : Reading Expr (ts.length + 1) :=
  match ts with
  | .and :: r =>
    match negation r with
    | none => none
    | some (b, ⟨rest, h⟩) =>
      (moreConjuncts (.and a b) rest).widen (by simp only [List.length_cons]; omega)
  | ts => some (a, ⟨ts, Nat.lt_succ_self _⟩)
termination_by 8 * ts.length + 3
decreasing_by all_goals (simp only [List.length_cons]; omega)

/-- Any number of `not` before a comparison. -/
def negation (ts : List Token) : Reading Expr ts.length :=
  match ts with
  | .not :: r =>
    match negation r with
    | none => none
    | some (e, ⟨rest, h⟩) => some (.not e, ⟨rest, by simp only [List.length_cons]; omega⟩)
  | ts => comparison ts
termination_by 8 * ts.length + 2
decreasing_by
  · simp only [List.length_cons]; omega
  · omega

/-- An operand, or two with a comparison between them. -/
def comparison (ts : List Token) : Reading Expr ts.length :=
  match operand ts with
  | none => none
  | some (a, ⟨rest, h⟩) =>
    match comparison? rest with
    | none => some (a, ⟨rest, h⟩)
    | some (op, ⟨rest', h'⟩) =>
      match operand rest' with
      | none => none
      | some (b, ⟨rest'', h''⟩) => some (.compare op a b, ⟨rest'', by omega⟩)
termination_by 8 * ts.length + 1
decreasing_by all_goals omega

/-- A condition in parentheses, a list, a literal, a string or a field. -/
def operand (ts : List Token) : Reading Expr ts.length :=
  match ts with
  | .openParen :: r =>
    match disjunction r with
    | none => none
    | some (e, ⟨rest, h⟩) =>
      match parenEnd? rest with
      | none => none
      | some (_, ⟨rest', h'⟩) => some (e, ⟨rest', by simp only [List.length_cons]; omega⟩)
  | .openBracket :: r =>
    match listEnd? r with
    | some (_, ⟨rest, h⟩) => some (.list [], ⟨rest, by simp only [List.length_cons]; omega⟩)
    | none =>
      match items r with
      | none => none
      | some (es, ⟨rest, h⟩) => some (.list es, ⟨rest, by simp only [List.length_cons]; omega⟩)
  | .literal v :: r => some (.literal v, ⟨r, by simp⟩)
  | .text raw :: r => some (.text raw, ⟨r, by simp⟩)
  | .field name :: r => some (.field name, ⟨r, by simp⟩)
  | _ => none
termination_by 8 * ts.length
decreasing_by all_goals (simp only [List.length_cons]; omega)

/-- One or more conditions with commas between them and perhaps one more comma, up to the closing
bracket. -/
def items (ts : List Token) : Reading (List Expr) ts.length :=
  match disjunction ts with
  | none => none
  | some (e, ⟨rest, h⟩) =>
    match listEnd? rest with
    | some (_, ⟨rest', h'⟩) => some ([e], ⟨rest', by omega⟩)
    | none =>
      match rest, h with
      | .comma :: r, h =>
        match items r with
        | none => none
        | some (es, ⟨rest', h'⟩) =>
          some (e :: es, ⟨rest', by simp only [List.length_cons] at h; omega⟩)
      | _, _ => none
termination_by 8 * ts.length + 7
decreasing_by
  · omega
  · simp only [List.length_cons] at h; omega

end

/-- The condition that a sequence of tokens spells, if it spells one. -/
def ofTokens? (ts : List Token) : Option Expr :=
  match disjunction ts with
  | some (e, ⟨[], _⟩) => some e
  | _ => none

/-- The condition that a text spells, if it spells one. -/
def parse? (cs : List Char) : Option Expr := (Token.scan? cs).bind ofTokens?

end Expr

/-- A condition as it stands in a stencil: its text and the tree read from it. -/
structure Condition where
  text : List Char
  expr : Expr
deriving Repr, Inhabited

/-- The condition that a text spells, with the text. -/
def Condition.parse? (text : List Char) : Option Condition :=
  (Expr.parse? text).map fun expr => ⟨text, expr⟩

end LayerStencil
