import LayerStencil.Proofs.Template.Scoping

/-! # Shapes of conditions

Whether operands have the types that a comparison or a connective asks for can often be read off the
condition, whatever values its fields have: equality compares any two values, membership in a list
any value with the list, and both give truth values.

* `Expr.HasShape`: the expression has a shape for that reason.
* `Expr.eval_comesTo`: it then comes to an operand of its shape, or fails for a reason other than
  the types of operands.
* `Condition.evaluate_not_isOfTypes`: a condition of the shape of a truth value never fails because
  of types.
* `Template.exists_expand`: a well scoped template with such conditions only expands. -/

namespace LayerStencil

/-- What an expression can come to in all scopes alike. -/
inductive Shape where
  /-- Any value. -/
  | scalar
  /-- A truth value. -/
  | truth
  /-- A list of values. -/
  | list

/-- The operand has the shape. -/
inductive Operand.HasShape : Operand → Shape → Prop
  | scalar (v : Value) : HasShape (.scalar v) .scalar
  | truth (b : Bool) : HasShape (.scalar (.bool b)) .truth
  | list (vs : List Value) : HasShape (.list vs) .list

/-- Equality and inequality. -/
def CompareOp.IsEquality (op : CompareOp) : Prop := op = eq ∨ op = ne

/-- Membership and its negation. -/
def CompareOp.IsMembership (op : CompareOp) : Prop := op = isIn ∨ op = notIn

/-- The expression has the shape by the way it is built. -/
inductive Expr.HasShape : Expr → Shape → Prop
  | literal (v : Value) : HasShape (.literal v) .scalar
  | text (raw : List Char) : HasShape (.text raw) .scalar
  | field (name : String) : HasShape (.field name) .scalar
  | list {items : List Expr} (h : ∀ e ∈ items, HasShape e .scalar) : HasShape (.list items) .list
  | bool (b : Bool) : HasShape (.literal (.bool b)) .truth
  | not {e : Expr} (h : HasShape e .truth) : HasShape (.not e) .truth
  | and {a b : Expr} (ha : HasShape a .truth) (hb : HasShape b .truth) : HasShape (.and a b) .truth
  | or {a b : Expr} (ha : HasShape a .truth) (hb : HasShape b .truth) : HasShape (.or a b) .truth
  | equality {op : CompareOp} {a b : Expr} (hop : op.IsEquality) (ha : HasShape a .scalar)
      (hb : HasShape b .scalar) : HasShape (.compare op a b) .truth
  | membership {op : CompareOp} {a b : Expr} (hop : op.IsMembership) (ha : HasShape a .scalar)
      (hb : HasShape b .list) : HasShape (.compare op a b) .truth

/-- The evaluation gives an operand of the shape, or fails for a reason other than types. -/
def ComesTo (s : Shape) (x : Except EvalError Operand) : Prop :=
  FailsOnly (fun e => ¬ e.IsOfTypes) x ∧ ∀ v, x = .ok v → v.HasShape s

theorem ComesTo.ok {s : Shape} {v : Operand} (h : v.HasShape s) : ComesTo s (.ok v) :=
  ⟨FailsOnly.ok v, by rintro _ ⟨⟩; exact h⟩

theorem ComesTo.error {s : Shape} {e : EvalError} (h : ¬ e.IsOfTypes) : ComesTo s (.error e) :=
  ⟨FailsOnly.error h, nofun⟩

/-- A step after an evaluation, for every operand of its shape. -/
theorem ComesTo.bind {s t : Shape} {x : Except EvalError Operand}
    {f : Operand → Except EvalError Operand} (hx : ComesTo s x)
    (hf : ∀ v, v.HasShape s → ComesTo t (f v)) : ComesTo t (x >>= f) := by
  obtain ⟨hfails, hshape⟩ := hx
  cases x with
  | error e => exact ComesTo.error (hfails e rfl)
  | ok v => exact hf v (hshape v rfl)

theorem CompareOp.apply_equality {op : CompareOp} (hop : op.IsEquality) (v w : Value) :
    ∃ b, op.apply (.scalar v) (.scalar w) = .ok b := by
  rcases hop with rfl | rfl <;> exact ⟨_, rfl⟩

theorem CompareOp.apply_membership {op : CompareOp} (hop : op.IsMembership) (v : Value)
    (ws : List Value) : ∃ b, op.apply (.scalar v) (.list ws) = .ok b := by
  rcases hop with rfl | rfl <;> exact ⟨_, rfl⟩

section Eval
variable (values : Values)

theorem Expr.evalItems_comesTo : ∀ {items : List Expr},
    (∀ e ∈ items, ComesTo .scalar (e.eval values)) →
      FailsOnly (fun e => ¬ e.IsOfTypes) (Expr.evalItems values items)
  | [], _ => FailsOnly.ok _
  | e :: items, h => by
    obtain ⟨hfails, hshape⟩ := h e List.mem_cons_self
    rw [Expr.evalItems]
    refine hfails.bind fun v hv => ?_
    cases hshape v hv with
    | scalar v =>
      have hitems := Expr.evalItems_comesTo fun e he => h e (List.mem_cons_of_mem _ he)
      exact hitems.bind fun vs _ => FailsOnly.ok _

/-- **Shapes are sound**: an expression comes to an operand of its shape, unless a field is missing
or a string has no segments. -/
theorem Expr.eval_comesTo {e : Expr} {s : Shape} (h : e.HasShape s) :
    ComesTo s (e.eval values) := by
  induction h with
  | literal v => exact ComesTo.ok (.scalar v)
  | text raw =>
    rw [Expr.eval]
    split
    · exact ComesTo.ok (.scalar _)
    · exact ComesTo.error not_false
  | field name =>
    rw [Expr.eval]
    split
    · exact ComesTo.ok (.scalar _)
    · exact ComesTo.error not_false
  | list _ ih =>
    rw [Expr.eval]
    have hitems := Expr.evalItems_comesTo values ih
    refine ⟨hitems.bind fun vs _ => FailsOnly.ok _, fun v hv => ?_⟩
    obtain ⟨vs, -, hv⟩ := exists_of_bind_eq_ok hv
    cases hv
    exact .list vs
  | bool b => exact ComesTo.ok (.truth b)
  | not _ ih =>
    rw [Expr.eval]
    refine ih.bind fun v hv => ?_
    cases hv with
    | truth b => exact ComesTo.ok (.truth _)
  | and _ _ iha ihb =>
    rw [Expr.eval]
    refine iha.bind fun v hv => ?_
    cases hv with
    | truth b =>
      cases b with
      | false => exact ComesTo.ok (.truth _)
      | true =>
        refine ihb.bind fun w hw => ?_
        cases hw with
        | truth c => exact ComesTo.ok (.truth _)
  | or _ _ iha ihb =>
    rw [Expr.eval]
    refine iha.bind fun v hv => ?_
    cases hv with
    | truth b =>
      cases b with
      | true => exact ComesTo.ok (.truth _)
      | false =>
        refine ihb.bind fun w hw => ?_
        cases hw with
        | truth c => exact ComesTo.ok (.truth _)
  | equality hop _ _ iha ihb =>
    rw [Expr.eval]
    refine iha.bind fun v hv => ihb.bind fun w hw => ?_
    cases hv with
    | scalar v =>
      cases hw with
      | scalar w =>
        obtain ⟨b, hb⟩ := CompareOp.apply_equality hop v w
        rw [hb]
        exact ComesTo.ok (.truth b)
  | membership hop _ _ iha ihb =>
    rw [Expr.eval]
    refine iha.bind fun v hv => ihb.bind fun w hw => ?_
    cases hv with
    | scalar v =>
      cases hw with
      | list ws =>
        obtain ⟨b, hb⟩ := CompareOp.apply_membership hop v ws
        rw [hb]
        exact ComesTo.ok (.truth b)

theorem Condition.evaluate_not_isOfTypes {c : Condition} (h : c.expr.HasShape .truth) :
    FailsOnly (fun e => ¬ e.IsOfTypes) (c.evaluate values) := by
  obtain ⟨hfails, hshape⟩ := Expr.eval_comesTo values h
  refine hfails.bind fun v hv => ?_
  cases hshape v hv with
  | truth b => exact FailsOnly.ok _

end Eval

/-- **A well scoped template expands over every model** if all its conditions have the shape of a
truth value. -/
theorem Template.exists_expand (m : Model) {t : Template} (hscoped : t.WellScoped)
    (hshape : ∀ control ∈ t.walk, ∀ c, control.condition = some c → c.expr.HasShape .truth) :
    ∃ events, t.expand m = .ok events := by
  have hreports : ∀ control ∈ t.walk, control.ReportsOnly fun _ => False := by
    intro control hcontrol c hc values cause hcause htypes
    exact Condition.evaluate_not_isOfTypes values (hshape control hcontrol c hc) cause hcause htypes
  have hfails := expandBody_failsOnly_of m t.text [] [] rfl 0 _ t.controls hscoped hreports
  cases hexpand : t.expand m with
  | ok events => exact ⟨events, rfl⟩
  | error e => exact (hfails e hexpand).elim

end LayerStencil
