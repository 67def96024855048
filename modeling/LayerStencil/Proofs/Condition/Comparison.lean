import LayerStencil.Proofs.Failure
import LayerStencil.Condition.Eval
import Mathlib.Data.String.Basic
import Mathlib.Data.Sum.Order

/-! # Laws of comparisons

Equality and order of values are decided apart and convert their operands in different ways, and
each comparison has its own list of types. Where two values have an order, both go by their *rank*,
the text of a text value and the number of a truth value or a number; so what holds of texts and of
numbers holds of values of mixed types.

* `Expr.Negates`: one expression comes to the opposite of what another one comes to.
* `Expr.negates_compare_iff`: `not in` negates `in`, and `!=` negates `==` unless both operands are
  lists. Lists have an equality and no inequality: `Expr.not_negates_of_lists`.
* `Value.order?_eq_some_lt_iff` and the lemmas after it: the order of values is that of their ranks.
* `CompareOp.holds_lt` and the lemmas after it: what each comparison says of two ranks.
* `Value.order_laws`: equality and the four comparisons by order agree. -/

namespace LayerStencil

/-! ### Negated comparisons -/

namespace Expr

/-- In the scope, the expressions come to opposite truth values or both to none. -/
def Negates (values : Values) (e e' : Expr) : Prop :=
  (∀ v, e.eval values = .ok (.scalar (.bool v)) ↔ e'.eval values = .ok (.scalar (.bool !v))) ∧
  (Fails (e.eval values) ↔ Fails (e'.eval values))

variable {values : Values} {a b : Expr} {op op' : CompareOp}

theorem eval_compare {v w : Operand} (ha : a.eval values = .ok v) (hb : b.eval values = .ok w) :
    (Expr.compare op a b).eval values = (op.apply v w).map fun c => .scalar (.bool c) := by
  rw [eval, ha, ok_bind, hb, ok_bind]
  cases op.apply v w <;> rfl

/-- Without a value of both operands there is nothing to compare. -/
theorem fails_compare (op : CompareOp) (h : Fails (a.eval values) ∨ Fails (b.eval values)) :
    Fails ((Expr.compare op a b).eval values) := by
  rw [eval]
  rcases h with ha | hb
  · exact ha.bind
  · exact Fails.after _ fun _ _ => hb.bind

/-- Comparisons that say the opposite of all operands that two expressions come to. -/
theorem negates_of_opposite (h : ∀ v w said, a.eval values = .ok v → b.eval values = .ok w →
    op'.apply? v w = said → op.apply? v w = said.map (! ·)) :
    Negates values (.compare op a b) (.compare op' a b) := by
  have hfail (hab : Fails (a.eval values) ∨ Fails (b.eval values)) :
      Negates values (.compare op a b) (.compare op' a b) := by
    obtain ⟨e, he⟩ := fails_compare op hab
    obtain ⟨e', he'⟩ := fails_compare op' hab
    refine ⟨fun v => ?_, iff_of_true ⟨e, he⟩ ⟨e', he'⟩⟩
    rw [he, he']
    exact iff_of_false nofun nofun
  cases ha : a.eval values with
  | error e => exact hfail (.inl ⟨e, ha⟩)
  | ok v =>
    cases hb : b.eval values with
    | error e => exact hfail (.inr ⟨e, hb⟩)
    | ok w =>
      rw [Negates, eval_compare ha hb, eval_compare ha hb, CompareOp.apply, CompareOp.apply]
      cases hop' : op'.apply? v w with
      | none =>
        rw [h v w none ha hb hop']
        exact ⟨fun _ => iff_of_false nofun nofun, iff_of_true ⟨_, rfl⟩ ⟨_, rfl⟩⟩
      | some c =>
        rw [h v w (some c) ha hb hop']
        refine ⟨fun v => ?_, iff_of_false nofun nofun⟩
        cases c <;> cases v <;> simp [Except.map]

/-- **Which comparisons are negated.** On any two expressions, `not in` says the opposite of `in`,
and `!=` says the opposite of `==` if and only if they do not both come to lists. -/
theorem negates_compare_iff (values : Values) (a b : Expr) :
    Negates values (.compare .notIn a b) (.compare .isIn a b) ∧
    (Negates values (.compare .ne a b) (.compare .eq a b) ↔
      ¬ ((∃ vs, a.eval values = .ok (.list vs)) ∧ ∃ ws, b.eval values = .ok (.list ws))) := by
  refine ⟨negates_of_opposite ?_, fun h => ?_, fun h => ?_⟩
  · rintro v w _ - - rfl
    rfl
  · rintro ⟨⟨vs, ha⟩, ws, hb⟩
    -- Equality decides on two lists, and the inequality has no case for them.
    obtain ⟨e, he⟩ := h.2.mp ⟨_, eval_compare ha hb⟩
    rw [eval_compare ha hb] at he
    cases he
  · refine negates_of_opposite ?_
    rintro v w _ ha hb rfl
    cases v with
    | scalar v => cases w <;> rfl
    | list vs =>
      cases w with
      | scalar w => rfl
      | list ws => exact absurd ⟨⟨vs, ha⟩, ws, hb⟩ h

/-- **An inequality that is not the negation of the equality**: two different lists are not equal,
and whether they differ is no question that has an answer. -/
theorem not_negates_of_lists :
    let one := Expr.list [.literal (.int 1)]
    let two := Expr.list [.literal (.int 2)]
    Condition.parse? "[1] != [2]".toList =
      some ⟨"[1] != [2]".toList, .compare .ne one two⟩ ∧
    (Expr.compare .eq one two).eval .empty = .ok (.scalar (.bool false)) ∧
    (Expr.compare .ne one two).eval .empty = .error (.operands (.compare .ne) .list .list) ∧
    ¬ Negates .empty (.compare .ne one two) (.compare .eq one two) := by
  intro one two
  refine ⟨by cbv, rfl, rfl, fun h => ?_⟩
  have hne := (h.1 true).mpr rfl
  cases hne

end Expr

/-! ### The order of values -/

namespace Value

/-- What a value is compared by: the text of a text value, and else its number. -/
def rank : Value → String ⊕ Int
  | str s => .inl s
  | bool b => .inr (bit b)
  | int n => .inr n

/-- Both values are texts, or both have numbers. -/
def Comparable (a b : Value) : Prop := a.rank.isLeft = b.rank.isLeft

theorem order?_eq (a b : Value) : a.order? b =
    match a.rank, b.rank with
    | .inl s, .inl t => some (compare s t)
    | .inr m, .inr n => some (compare m n)
    | _, _ => none := by
  cases a <;> cases b <;> rfl

section Rank
variable {a b : Value}

theorem order?_eq_none_iff : a.order? b = none ↔ ¬ Comparable a b := by
  rw [order?_eq, Comparable]
  cases a.rank <;> cases b.rank <;> simp

theorem order?_eq_some_lt_iff : a.order? b = some .lt ↔ a.rank < b.rank := by
  rw [order?_eq]
  cases a.rank <;> cases b.rank <;> simp [compare_lt_iff_lt]

theorem order?_eq_some_eq_iff : a.order? b = some .eq ↔ a.rank = b.rank := by
  rw [order?_eq]
  cases a.rank <;> cases b.rank <;> simp

theorem order?_eq_some_gt_iff : a.order? b = some .gt ↔ b.rank < a.rank := by
  rw [order?_eq]
  cases a.rank <;> cases b.rank <;> simp [compare_gt_iff_gt]

theorem bit_inj : ∀ {b b' : Bool}, bit b = bit b' ↔ b = b' := by decide

/-- Comparable values are equal, whatever their types, if their ranks are. -/
theorem looseEq_iff (h : Comparable a b) : a.looseEq b = true ↔ a.rank = b.rank := by
  cases a <;> cases b <;> simp_all [Comparable, looseEq, rank, bit_inj]

theorem Comparable.symm (h : Comparable a b) : Comparable b a := Eq.symm h

theorem Comparable.exists_order (h : Comparable a b) : ∃ o, a.order? b = some o := by
  rw [← Option.ne_none_iff_exists', Ne, order?_eq_none_iff, not_not]
  exact h

/-- Ranks of comparable values lie in one linear order. -/
theorem Comparable.trichotomy (h : Comparable a b) :
    a.rank < b.rank ∨ a.rank = b.rank ∨ b.rank < a.rank := by
  obtain ⟨o, ho⟩ := h.exists_order
  cases o with
  | lt => exact .inl (order?_eq_some_lt_iff.mp ho)
  | eq => exact .inr (.inl (order?_eq_some_eq_iff.mp ho))
  | gt => exact .inr (.inr (order?_eq_some_gt_iff.mp ho))

end Rank

end Value

/-! ### What comparisons say of values -/

namespace CompareOp

/-- The comparison says yes of the two values. -/
def Holds (op : CompareOp) (a b : Value) : Prop := op.apply (.scalar a) (.scalar b) = .ok true

/-- The comparison says yes or no of the two values. -/
def Decides (op : CompareOp) (a b : Value) : Prop :=
  ∃ v, op.apply (.scalar a) (.scalar b) = .ok v

/-- The comparison does not compare values of these types. -/
def Rejects (op : CompareOp) (a b : Value) : Prop :=
  op.apply (.scalar a) (.scalar b) =
    .error (.operands (.compare op) (Operand.scalar a).type (Operand.scalar b).type)

/-- The comparisons that go by the order of values. -/
def byOrder : List CompareOp := [.lt, .le, .gt, .ge]

theorem holds_iff {op : CompareOp} {a b : Value} :
    op.Holds a b ↔ op.apply? (.scalar a) (.scalar b) = some true := by
  rw [Holds, apply]
  cases op.apply? (.scalar a) (.scalar b) <;> simp

/-- A comparison by order looks at nothing but the order of the values. -/
theorem exists_apply?_eq {op : CompareOp} (h : op ∈ byOrder) : ∃ test : Ordering → Bool,
    ∀ a b : Value, op.apply? (.scalar a) (.scalar b) = (a.order? b).map test := by
  simp only [byOrder, List.mem_cons, List.not_mem_nil, or_false] at h
  rcases h with rfl | rfl | rfl | rfl <;> exact ⟨_, fun _ _ => rfl⟩

section Holds
variable {op : CompareOp} {a b : Value}

theorem decides_of_comparable (hop : op ∈ byOrder) (h : a.Comparable b) : op.Decides a b := by
  obtain ⟨test, htest⟩ := exists_apply?_eq hop
  obtain ⟨o, ho⟩ := h.exists_order
  exact ⟨test o, by rw [apply, htest, ho]; rfl⟩

theorem rejects_of_not_comparable (hop : op ∈ byOrder) (h : ¬ a.Comparable b) :
    op.Rejects a b := by
  obtain ⟨test, htest⟩ := exists_apply?_eq hop
  rw [Rejects, apply, htest, Value.order?_eq_none_iff.mpr h]
  rfl

theorem comparable_of_decides (hop : op ∈ byOrder) (h : op.Decides a b) : a.Comparable b := by
  by_contra hnot
  obtain ⟨v, hv⟩ := h
  rw [rejects_of_not_comparable hop hnot] at hv
  cases hv

theorem holds_lt : lt.Holds a b ↔ a.rank < b.rank := by
  rw [holds_iff, ← Value.order?_eq_some_lt_iff, CompareOp.apply?, Operand.order?]
  cases a.order? b <;> simp

theorem holds_gt : gt.Holds a b ↔ b.rank < a.rank := by
  rw [holds_iff, ← Value.order?_eq_some_gt_iff, CompareOp.apply?, Operand.order?]
  cases a.order? b <;> simp

theorem holds_le : le.Holds a b ↔ a.rank ≤ b.rank := by
  rw [le_iff_lt_or_eq, holds_iff, ← Value.order?_eq_some_lt_iff, ← Value.order?_eq_some_eq_iff,
    CompareOp.apply?, Operand.order?]
  rcases a.order? b with _ | _ | _ | _ <;> simp

theorem holds_ge : ge.Holds a b ↔ b.rank ≤ a.rank := by
  rw [le_iff_lt_or_eq, eq_comm, holds_iff, ← Value.order?_eq_some_gt_iff,
    ← Value.order?_eq_some_eq_iff, CompareOp.apply?, Operand.order?]
  rcases a.order? b with _ | _ | _ | _ <;> simp

theorem holds_eq (h : a.Comparable b) : eq.Holds a b ↔ a.rank = b.rank := by
  rw [holds_iff, ← Value.looseEq_iff h, CompareOp.apply?, Option.some.injEq]

end Holds

end CompareOp

namespace Value

open CompareOp

/-- **Equality and order agree** on texts, truth values and numbers, in any mixture. The comparisons
by order all decide about two values, and about the same values the other way round, or all reject
them. Where they decide, just one of `<`, `==` and `>` holds, `<=` and `>=` are `<` or `==` and `>`
or `==`, and `<` is `>` the other way round. And `<=` is transitive. -/
theorem order_laws (a b c : Value) :
    ((∀ op ∈ byOrder, op.Decides a b ∧ op.Decides b a) ∨
      ∀ op ∈ byOrder, op.Rejects a b ∧ op.Rejects b a) ∧
    ((∀ op ∈ byOrder, op.Decides a b) →
      ((lt.Holds a b ∧ ¬ eq.Holds a b ∧ ¬ gt.Holds a b) ∨
        (¬ lt.Holds a b ∧ eq.Holds a b ∧ ¬ gt.Holds a b) ∨
        (¬ lt.Holds a b ∧ ¬ eq.Holds a b ∧ gt.Holds a b)) ∧
      (le.Holds a b ↔ lt.Holds a b ∨ eq.Holds a b) ∧
      (ge.Holds a b ↔ gt.Holds a b ∨ eq.Holds a b) ∧
      (lt.Holds a b ↔ gt.Holds b a)) ∧
    (le.Holds a b → le.Holds b c → le.Holds a c) := by
  refine ⟨?_, fun hdecides => ?_, fun hab hbc => ?_⟩
  · by_cases h : a.Comparable b
    · exact .inl fun op hop => ⟨decides_of_comparable hop h, decides_of_comparable hop h.symm⟩
    · exact .inr fun op hop =>
        ⟨rejects_of_not_comparable hop h, rejects_of_not_comparable hop fun h' => h h'.symm⟩
  · have h : a.Comparable b := by
      have hlt : lt ∈ byOrder := by decide
      exact comparable_of_decides hlt (hdecides lt hlt)
    rw [holds_lt, holds_gt, holds_gt, holds_le, holds_ge, holds_eq h]
    refine ⟨?_, le_iff_lt_or_eq, by rw [le_iff_lt_or_eq, eq_comm], Iff.rfl⟩
    rcases h.trichotomy with hlt | heq | hgt
    · exact .inl ⟨hlt, hlt.ne, hlt.asymm⟩
    · exact .inr (.inl ⟨heq.not_lt, heq, heq.not_gt⟩)
    · exact .inr (.inr ⟨hgt.asymm, hgt.ne', hgt⟩)
  · rw [holds_le] at hab hbc ⊢
    exact hab.trans hbc

/-- A truth value, the number that it counts as, and a greater number. -/
theorem order_laws_mixed :
    (∀ op ∈ byOrder, op.Decides (.bool true) (.int 1)) ∧
    (le.Holds (.bool true) (.int 1) ∧ le.Holds (.int 1) (.int 7)) ∧
    (le.Holds (.bool true) (.int 1) ↔
      lt.Holds (.bool true) (.int 1) ∨ eq.Holds (.bool true) (.int 1)) ∧
    le.Holds (.bool true) (.int 7) := by
  have hdecides : ∀ op ∈ byOrder, op.Decides (.bool true) (.int 1) :=
    fun op hop => decides_of_comparable hop rfl
  have hle : le.Holds (.bool true) (.int 1) := rfl
  have hle' : le.Holds (.int 1) (.int 7) := rfl
  obtain ⟨-, hlaws, htrans⟩ := order_laws (.bool true) (.int 1) (.int 7)
  exact ⟨hdecides, ⟨hle, hle'⟩, (hlaws hdecides).2.1, htrans hle hle'⟩

end Value

end LayerStencil
