import LayerStencil.Proofs.Failure
import LayerStencil.Proofs.Segment.RoundTrip
import LayerStencil.Condition.Eval

/-! # Unbound names in conditions

Evaluation reads the fields of a condition from left to right. It reads them all, except those on
the right of an `and` or an `or` whose left side decides.

* `Expr.Mentions`: a name stands somewhere in an expression, as a field or in a quoted string.
* `Expr.Reads`: it stands in a place that evaluation in a scope comes to.
* `Expr.fails_of_reads`: a name that is read but not bound makes the evaluation fail.
* `Expr.eval_congr`: evaluation depends on no other names than those it reads.
* `Condition.evaluate_unbound` is what both say of a name that is not bound. A name to which
  evaluation does not come may be misspelt: `Condition.evaluate_unbound_of_decided`. -/

namespace LayerStencil

/-! ### Fields of a text -/

namespace Segment

variable {values values' : Values}

theorem fillAll_fails {name : String} (hname : values.get? name = none) :
    ∀ {segs : List Segment}, field name ∈ segs → Fails (fillAll values segs)
  | s :: segs, h => by
    rw [fillAll]
    cases hhead : fill values s with
    | error e => exact ⟨e, rfl⟩
    | ok head =>
      have hrest : field name ∈ segs := by
        rcases List.mem_cons.mp h with rfl | hrest
        · rw [fill, hname] at hhead; cases hhead
        · exact hrest
      obtain ⟨e, he⟩ := fillAll_fails hname hrest
      exact ⟨e, by rw [he]⟩

theorem fillAll_congr : ∀ {segs : List Segment},
    (∀ name, field name ∈ segs → values'.get? name = values.get? name) →
      fillAll values' segs = fillAll values segs
  | [], _ => rfl
  | s :: segs, h => by
    have hhead : fill values' s = fill values s := by
      cases s with
      | text s => rfl
      | field name => simp only [fill, h name List.mem_cons_self]
    have hrest := fillAll_congr fun name hname => h name (List.mem_cons_of_mem s hname)
    rw [fillAll, fillAll, hhead, hrest]

theorem substitute_fails {name : String} (hname : values.get? name = none) {cs : List Char}
    (h : field name ∈ (scan cs).1) : Fails (substitute values cs) := by
  rw [substitute_eq_substituteSegments, substituteSegments]
  cases hsegs : segments cs with
  | error e => exact ⟨_, rfl⟩
  | ok segs =>
    rw [segments_eq_ok_iff.mp hsegs] at h
    exact fillAll_fails hname h

theorem substitute_congr {cs : List Char}
    (h : ∀ name, field name ∈ (scan cs).1 → values'.get? name = values.get? name) :
    substitute values' cs = substitute values cs := by
  rw [substitute_eq_substituteSegments, substitute_eq_substituteSegments, substituteSegments,
    substituteSegments]
  cases hsegs : segments cs with
  | error e => rfl
  | ok segs =>
    rw [segments_eq_ok_iff.mp hsegs] at h
    exact fillAll_congr h

end Segment

/-! ### Names in an expression -/

namespace Expr

/-- A name stands in an expression, on the right of a connective only where its left side lets the
evaluation go on. -/
inductive Occurs (goesOn : Operation → Expr → Prop) (name : String) : Expr → Prop
  | field : Occurs goesOn name (.field name)
  /-- In the first segments of a quoted string, as far as it can be read. -/
  | text {raw : List Char} (h : .field name ∈ (Segment.scan raw).1) : Occurs goesOn name (.text raw)
  | list {items : List Expr} {e : Expr} (he : e ∈ items) (h : Occurs goesOn name e) :
      Occurs goesOn name (.list items)
  | not {e : Expr} (h : Occurs goesOn name e) : Occurs goesOn name (.not e)
  | andLeft {a b : Expr} (h : Occurs goesOn name a) : Occurs goesOn name (.and a b)
  | andRight {a b : Expr} (ha : goesOn .and a) (h : Occurs goesOn name b) :
      Occurs goesOn name (.and a b)
  | orLeft {a b : Expr} (h : Occurs goesOn name a) : Occurs goesOn name (.or a b)
  | orRight {a b : Expr} (ha : goesOn .or a) (h : Occurs goesOn name b) :
      Occurs goesOn name (.or a b)
  | compareLeft {op : CompareOp} {a b : Expr} (h : Occurs goesOn name a) :
      Occurs goesOn name (.compare op a b)
  | compareRight {op : CompareOp} {a b : Expr} (h : Occurs goesOn name b) :
      Occurs goesOn name (.compare op a b)

theorem Occurs.eq_of_field {goesOn : Operation → Expr → Prop} {name other : String}
    (h : Occurs goesOn name (.field other)) : other = name := by
  cases h; rfl

/-- The name stands somewhere in the expression. -/
def Mentions (name : String) (e : Expr) : Prop := Occurs (fun _ _ => True) name e

/-- The left side of a connective has a truth value that does not decide. -/
def LeavesOpen (values : Values) (op : Operation) (a : Expr) : Prop :=
  ∃ v, a.eval values = .ok v ∧ v.truth op = .ok (decide (op = .and))

/-- The name stands where evaluation in the scope comes to. -/
def Reads (values : Values) (name : String) (e : Expr) : Prop :=
  Occurs (LeavesOpen values) name e

variable {values values' : Values}

theorem evalItems_fails {e : Expr} (h : Fails (e.eval values)) :
    ∀ {items : List Expr}, e ∈ items → Fails (evalItems values items)
  | d :: items, hmem => by
    rw [evalItems]
    rcases List.mem_cons.mp hmem with rfl | hmem
    · exact h.bind
    · refine Fails.after _ fun v _ => ?_
      cases v with
      | scalar v => exact (evalItems_fails h hmem).bind
      | list vs => exact ⟨_, rfl⟩

/-- **A name that is read and not bound** makes the evaluation fail. -/
theorem fails_of_reads {name : String} (hname : values.get? name = none) {e : Expr}
    (h : e.Reads values name) : Fails (e.eval values) := by
  induction h with
  | field => exact ⟨.unbound name, by rw [eval, hname]⟩
  | text h =>
    obtain ⟨e, he⟩ := Segment.substitute_fails hname h
    exact ⟨.text e, by rw [eval, he]⟩
  | list he _ ih => rw [eval]; exact (evalItems_fails ih he).bind
  | not _ ih => rw [eval]; exact ih.bind
  | andLeft _ ih => rw [eval]; exact ih.bind
  | orLeft _ ih => rw [eval]; exact ih.bind
  | compareLeft _ ih => rw [eval]; exact ih.bind
  | compareRight _ ih => rw [eval]; exact Fails.after _ fun _ _ => ih.bind
  | andRight ha _ ih =>
    obtain ⟨v, hv, htruth⟩ := ha
    rw [eval, hv, ok_bind, htruth, ok_bind]
    exact ih.bind
  | orRight ha _ ih =>
    obtain ⟨v, hv, htruth⟩ := ha
    rw [eval, hv, ok_bind, htruth, ok_bind]
    exact ih.bind

mutual

/-- **Evaluation depends only on the names it reads.** -/
theorem eval_congr : ∀ (e : Expr),
    (∀ name, e.Reads values name → values'.get? name = values.get? name) →
      e.eval values' = e.eval values
  | .literal v, _ => by rw [eval, eval]
  | .text raw, h => by
    rw [eval, eval, Segment.substitute_congr fun name hname => h name (.text hname)]
  | .field name, h => by rw [eval, eval, h name .field]
  | .list items, h => by
    rw [eval, eval, evalItems_congr items fun e he name hname => h name (.list he hname)]
  | .not e, h => by rw [eval, eval, eval_congr e fun name hname => h name (.not hname)]
  | .compare op a b, h => by
    rw [eval, eval, eval_congr a fun name hname => h name (.compareLeft hname),
      eval_congr b fun name hname => h name (.compareRight hname)]
  | .and a b, h => by
    rw [eval, eval, eval_congr a fun name hname => h name (.andLeft hname)]
    -- The right side is the same as well wherever the left side does not decide.
    cases hv : a.eval values with
    | error e => rfl
    | ok v =>
      cases htruth : v.truth .and with
      | error e => rw [ok_bind, ok_bind, htruth]; rfl
      | ok c =>
        rw [ok_bind, ok_bind, htruth, ok_bind, ok_bind]
        cases c with
        | false => rfl
        | true => rw [eval_congr b fun name hname => h name (.andRight ⟨v, hv, htruth⟩ hname)]
  | .or a b, h => by
    rw [eval, eval, eval_congr a fun name hname => h name (.orLeft hname)]
    cases hv : a.eval values with
    | error e => rfl
    | ok v =>
      cases htruth : v.truth .or with
      | error e => rw [ok_bind, ok_bind, htruth]; rfl
      | ok c =>
        rw [ok_bind, ok_bind, htruth, ok_bind, ok_bind]
        cases c with
        | true => rfl
        | false => rw [eval_congr b fun name hname => h name (.orRight ⟨v, hv, htruth⟩ hname)]

theorem evalItems_congr : ∀ (items : List Expr),
    (∀ e ∈ items, ∀ name, e.Reads values name → values'.get? name = values.get? name) →
      evalItems values' items = evalItems values items
  | [], _ => by rw [evalItems, evalItems]
  | e :: items, h => by
    rw [evalItems, evalItems, eval_congr e (h e List.mem_cons_self),
      evalItems_congr items fun d hd => h d (List.mem_cons_of_mem _ hd)]

end

end Expr

/-! ### Names in a condition -/

namespace Condition

/-- **An unbound name** makes a condition fail if evaluation reads it. If not, the condition does
whatever it would do if the name were bound. -/
theorem evaluate_unbound (c : Condition) {values : Values} {name : String}
    (hname : values.get? name = none) :
    (c.expr.Reads values name → Fails (c.evaluate values)) ∧
    (¬ c.expr.Reads values name →
      ∀ v, c.evaluate (values.insert name v) = c.evaluate values) := by
  refine ⟨fun h => (Expr.fails_of_reads hname h).bind, fun h v => ?_⟩
  have hsame : c.expr.eval (values.insert name v) = c.expr.eval values := by
    refine Expr.eval_congr c.expr fun other hother => ?_
    rw [Dict.get?_insert, if_neg]
    rintro rfl
    exact h hother
  rw [evaluate, evaluate, hsame]

/-- A condition in which a connective guards a quoted string. -/
def guarded : Condition where
  text := "{y} and '{x}' == 'a'".toList
  expr := .and (.field "y") (.compare .eq (.text "{x}".toList) (.text "a".toList))

/-- A scope with a truth value and nothing else. -/
def guardScope (b : Bool) : Values := .ofList [("y", .bool b)]

/-- Only where the left side holds does the unbound name matter. -/
theorem evaluate_unbound_guarded : parse? guarded.text = some guarded ∧
    (∀ b, (guardScope b).get? "x" = none) ∧ Fails (guarded.evaluate (guardScope true)) ∧
    ∀ v, guarded.evaluate ((guardScope false).insert "x" v) =
      guarded.evaluate (guardScope false) := by
  have hparse : parse? guarded.text = some guarded := by cbv
  have hname (b : Bool) : (guardScope b).get? "x" = none := rfl
  refine ⟨hparse, hname, (evaluate_unbound guarded (hname true)).1 ?_,
    (evaluate_unbound guarded (hname false)).2 ?_⟩
  · have hnext : Segment.next? "{x}".toList = some (.field "x", []) := by decide
    have hfield : .field "x" ∈ (Segment.scan "{x}".toList).1 := by
      rw [Segment.scan_of_next? hnext]
      exact List.mem_cons_self
    exact .andRight ⟨_, rfl, rfl⟩ (.compareLeft (.text hfield))
  · intro h
    cases h with
    | andLeft h => exact absurd h.eq_of_field (by decide)
    | andRight ha _ =>
      obtain ⟨v, hv, htruth⟩ := ha
      cases hv
      cases htruth

/-- A condition that its left side decides. -/
def decided : Condition where
  text := "False and {x}".toList
  expr := .and (.literal (.bool false)) (.field "x")

/-- **An unbound name that is never noticed**: it stands in a condition that has a truth value. -/
theorem evaluate_unbound_of_decided : parse? decided.text = some decided ∧
    decided.expr.Mentions "x" ∧ (Dict.empty : Values).get? "x" = none ∧
    decided.evaluate Dict.empty = .ok false :=
  ⟨by cbv, .andRight trivial .field, rfl, rfl⟩

end Condition

end LayerStencil
