import LayerStencil.Proofs.Failure
import LayerStencil.Proofs.Segment.RoundTrip
import LayerStencil.Template.Expansion
import Mathlib.Order.Basic

/-! # Static scoping

Which fields a place of a template may use can be read off the controls around it: each adds the
vocabulary of its kind, a conditional part adds nothing, and a loop over parts needs a loop over
their owners around it. `Template.WellScoped` checks a template against this, without a model.

* `Scope.Fits`: the items visited around a place are of the kinds of the controls around it. Every
  item of a domain keeps this up (`fits_of_mem_domain`).
* `exists_domain`, `Segment.substitute_eq_ok`, `Expr.eval_failsOnly`: in a fitting scope, what is
  well scoped has a domain, a text and, operands of wrong types aside, a value.
* `Template.expand_of_wellScoped`: a well scoped template fails for no other reason in any model. -/

namespace LayerStencil

/-! ### What the controls around a place provide -/

/-- The kind of the items of a loop; a conditional part has none. -/
def ControlKind.kind? : ControlKind → Option Kind
  | cond => none
  | each kind => some kind

/-- The names of the fields that a control adds for its body. -/
def ControlKind.vocabulary (control : ControlKind) : List String :=
  (control.kind?.map Kind.vocabulary).getD []

/-- The names of all fields that the controls around a place provide. -/
def namesInside (around : List ControlKind) : List String :=
  around.flatMap ControlKind.vocabulary

/-- The kinds whose items own items of a scoped kind. -/
def Kind.owners : Kind → List Kind
  | parameter => [command]
  | member => [struct]
  | choice => [union]
  | option => [enum, bitmask]
  | _ => []

/-- A loop over a scoped kind has a loop over a kind of owners around it. -/
def ControlKind.HasOwner (around : List ControlKind) : ControlKind → Prop
  | cond => True
  | each kind => kind.isScoped → ∃ owner ∈ kind.owners, each owner ∈ around

/-! ### Well scoped templates -/

/-- The text has segments, and its fields are among the names. -/
def Segment.UsesOnly (names : List String) (cs : List Char) : Prop :=
  ∃ segs, segments cs = .ok segs ∧ ∀ name, field name ∈ segs → name ∈ names

mutual

/-- The fields of the expression, bare or inside its strings, are among the names, and its strings
have segments. -/
def Expr.UsesOnly (names : List String) : Expr → Prop
  | .literal _ => True
  | .text raw => Segment.UsesOnly names raw
  | .field name => name ∈ names
  | .list items => Expr.AllUseOnly names items
  | .not e => e.UsesOnly names
  | .and a b => a.UsesOnly names ∧ b.UsesOnly names
  | .or a b => a.UsesOnly names ∧ b.UsesOnly names
  | .compare _ a b => a.UsesOnly names ∧ b.UsesOnly names

/-- The fields of all expressions of a list are among the names. -/
def Expr.AllUseOnly (names : List String) : List Expr → Prop
  | [] => True
  | e :: es => e.UsesOnly names ∧ Expr.AllUseOnly names es

end

mutual

/-- A control in a text, inside the controls `around`, innermost first: its loop has an owner, and
its condition and body use only what the controls provide. -/
def Control.WellScoped (text : List Char) (around : List ControlKind) : Control → Prop
  | .node kind condition opening closing _ children =>
    kind.HasOwner around ∧
    (∀ c, condition = some c → c.expr.UsesOnly (namesInside (kind :: around))) ∧
    Control.BodyWellScoped text (kind :: around) opening.stop closing.start children

/-- The text from `start` up to `stop` inside the controls `around`, with the controls in it. -/
def Control.BodyWellScoped (text : List Char) (around : List ControlKind) (start stop : Nat) :
    List Control → Prop
  | [] => Segment.UsesOnly (namesInside around) (Text.slice text start stop)
  | c :: cs =>
    Segment.UsesOnly (namesInside around) (Text.slice text start c.opening.start) ∧
    c.WellScoped text around ∧ Control.BodyWellScoped text around c.closing.stop stop cs

end

/-- Every place of the template uses only the fields that the controls around it provide, and every
loop over parts is inside a loop over their owners. -/
def Template.WellScoped (t : Template) : Prop :=
  Control.BodyWellScoped t.text [] 0 t.text.length t.controls

/-! ### Scopes that fit -/

/-- The items of the scope are of the kinds of the controls. -/
def Scope.Fits (scope : Scope) (around : List ControlKind) : Prop :=
  scope.map Item.kind? = around.map ControlKind.kind?

variable {m : Model} {scope : Scope} {around : List ControlKind}

theorem Scope.Fits.vocabulary_eq (h : scope.Fits around) :
    scope.flatMap Item.vocabulary = namesInside around := by
  have hitems : scope.flatMap Item.vocabulary =
      (scope.map Item.kind?).flatMap fun kind => (kind.map Kind.vocabulary).getD [] := by
    rw [List.flatMap_map]; rfl
  have hkinds : namesInside around =
      (around.map ControlKind.kind?).flatMap fun kind => (kind.map Kind.vocabulary).getD [] := by
    rw [List.flatMap_map]; rfl
  rw [hitems, hkinds, h]

/-- **Names in scope**: what the controls around a place provide has a value there. -/
theorem Scope.Fits.get?_values_ne_none (h : scope.Fits around) {name : String}
    (hname : name ∈ namesInside around) : scope.values.get? name ≠ none := by
  rw [← h.vocabulary_eq] at hname
  obtain ⟨item, hitem, hmem⟩ := List.mem_flatMap.mp hname
  exact fun hnone => Scope.get?_values_eq_none_iff.mp hnone item hitem hmem

theorem Scope.Fits.exists_item (h : scope.Fits around) {kind : Kind} (hmem : .each kind ∈ around) :
    ∃ item ∈ scope, item.kind? = some kind := by
  have hkind : some kind ∈ scope.map Item.kind? := by
    rw [h]; exact List.mem_map.mpr ⟨_, hmem, rfl⟩
  exact List.mem_map.mp hkind

theorem Item.parts?_isSome {item : Item} {kind owner : Kind} (howner : owner ∈ kind.owners)
    (hitem : item.kind? = some owner) : (item.parts? kind).isSome := by
  cases kind <;> simp only [Kind.owners, List.not_mem_nil, List.mem_cons, or_false] at howner
  case option => rcases howner with rfl | rfl <;> cases item <;> cases hitem <;> rfl
  all_goals subst howner; cases item <;> cases hitem; rfl

theorem Item.kind?_of_mem_parts? {item part : Item} {kind : Kind} {parts : List Item}
    (h : item.parts? kind = some parts) (hpart : part ∈ parts) : part.kind? = some kind := by
  unfold Item.parts? at h
  split at h <;> cases h <;> obtain ⟨x, -, rfl⟩ := List.mem_map.mp hpart <;> rfl

theorem Model.kind?_of_mem_items {kind : Kind} {item : Item} (h : item ∈ m.items kind) :
    item.kind? = some kind := by
  unfold Model.items at h
  split at h <;> first | (obtain ⟨x, -, rfl⟩ := List.mem_map.mp h; rfl) | cases h

theorem exists_domain (h : scope.Fits around) {kind : ControlKind} (howner : kind.HasOwner around) :
    ∃ items, m.domain scope kind = .ok items := by
  cases kind with
  | cond => exact ⟨_, rfl⟩
  | each kind =>
    rw [Model.domain]
    split_ifs with hscoped
    · obtain ⟨owner, howner, hmem⟩ := howner hscoped
      obtain ⟨item, hitem, hkind⟩ := h.exists_item hmem
      cases hfind : scope.findSome? (Item.parts? kind) with
      | none =>
        have := Item.parts?_isSome howner hkind
        rw [List.findSome?_eq_none_iff.mp hfind item hitem] at this
        cases this
      | some items => exact ⟨items, rfl⟩
    · exact ⟨_, rfl⟩

theorem fits_of_mem_domain (h : scope.Fits around) {kind : ControlKind} {items : List Item}
    (hdomain : m.domain scope kind = .ok items) {item : Item} (hitem : item ∈ items) :
    Scope.Fits (item :: scope) (kind :: around) := by
  have hkind : item.kind? = kind.kind? := by
    cases kind with
    | cond =>
      cases hdomain
      rw [List.mem_singleton.mp hitem]; rfl
    | each kind =>
      rw [Model.domain] at hdomain
      split_ifs at hdomain with hscoped
      · split at hdomain
        · rename_i hfind
          cases hdomain
          obtain ⟨owner, -, hparts⟩ := List.exists_of_findSome?_eq_some hfind
          exact Item.kind?_of_mem_parts? hparts hitem
        · cases hdomain
      · cases hdomain
        exact Model.kind?_of_mem_items hitem
  unfold Scope.Fits at h ⊢
  rw [List.map_cons, List.map_cons, h, hkind]

/-! ### What fails, and what does not -/

/-- The failures that depend on the types of values. -/
def EvalError.IsOfTypes : EvalError → Prop
  | operands _ _ _ => True
  | notTruth _ => True
  | _ => False

theorem Segment.substitute_eq_ok {names : List String} {values : Values}
    (hvalues : ∀ name ∈ names, values.get? name ≠ none) {cs : List Char}
    (h : Segment.UsesOnly names cs) : ∃ out, Segment.substitute values cs = .ok out := by
  obtain ⟨segs, hsegs, hfields⟩ := h
  rw [substitute_eq_substituteSegments, substituteSegments, hsegs]
  have hfill : fillAll values segs =
      .ok (segs.flatMap (meaning fun name => (values.get? name).getD default)) := by
    refine fillAll_eq_ok fun name hname => ?_
    obtain ⟨value, hvalue⟩ := Option.ne_none_iff_exists'.mp (hvalues name (hfields name hname))
    rw [hvalue]; rfl
  exact ⟨_, hfill⟩

theorem Operand.truth_failsOnly (op : Operation) (v : Operand) :
    FailsOnly EvalError.IsOfTypes (v.truth op) := by
  unfold Operand.truth
  split
  · split
    · exact FailsOnly.ok _
    · exact FailsOnly.error trivial
  · exact FailsOnly.error trivial

theorem CompareOp.apply_failsOnly (op : CompareOp) (v w : Operand) :
    FailsOnly EvalError.IsOfTypes (op.apply v w) := by
  unfold CompareOp.apply
  split
  · exact FailsOnly.ok _
  · exact FailsOnly.error trivial

section Eval
variable {names : List String} {values : Values}

mutual

theorem Expr.eval_failsOnly (hvalues : ∀ name ∈ names, values.get? name ≠ none) :
    ∀ e : Expr, e.UsesOnly names → FailsOnly EvalError.IsOfTypes (e.eval values)
  | .literal v, _ => FailsOnly.ok _
  | .text raw, h => by
    obtain ⟨out, hout⟩ := Segment.substitute_eq_ok hvalues h
    rw [Expr.eval, hout]
    exact FailsOnly.ok _
  | .field name, h => by
    obtain ⟨value, hvalue⟩ := Option.ne_none_iff_exists'.mp (hvalues name h)
    rw [Expr.eval, hvalue]
    exact FailsOnly.ok _
  | .list items, h => by
    rw [Expr.eval]
    exact (Expr.evalItems_failsOnly hvalues items h).bind fun vs _ => FailsOnly.ok _
  | .not e, h => by
    rw [Expr.eval]
    refine (Expr.eval_failsOnly hvalues e h).bind fun v _ => ?_
    exact (v.truth_failsOnly .not).bind fun b _ => FailsOnly.ok _
  | .and a b, h => by
    rw [Expr.eval]
    refine (Expr.eval_failsOnly hvalues a h.1).bind fun v _ => ?_
    refine (v.truth_failsOnly .and).bind fun decided _ => ?_
    split
    · refine (Expr.eval_failsOnly hvalues b h.2).bind fun w _ => ?_
      exact (w.truth_failsOnly .and).bind fun c _ => FailsOnly.ok _
    · exact FailsOnly.ok _
  | .or a b, h => by
    rw [Expr.eval]
    refine (Expr.eval_failsOnly hvalues a h.1).bind fun v _ => ?_
    refine (v.truth_failsOnly .or).bind fun decided _ => ?_
    split
    · exact FailsOnly.ok _
    · refine (Expr.eval_failsOnly hvalues b h.2).bind fun w _ => ?_
      exact (w.truth_failsOnly .or).bind fun c _ => FailsOnly.ok _
  | .compare op a b, h => by
    rw [Expr.eval]
    refine (Expr.eval_failsOnly hvalues a h.1).bind fun v _ => ?_
    refine (Expr.eval_failsOnly hvalues b h.2).bind fun w _ => ?_
    exact (op.apply_failsOnly v w).bind fun c _ => FailsOnly.ok _

theorem Expr.evalItems_failsOnly (hvalues : ∀ name ∈ names, values.get? name ≠ none) :
    ∀ es : List Expr, Expr.AllUseOnly names es →
      FailsOnly EvalError.IsOfTypes (Expr.evalItems values es)
  | [], _ => FailsOnly.ok _
  | e :: es, h => by
    rw [Expr.evalItems]
    refine (Expr.eval_failsOnly hvalues e h.1).bind fun v _ => ?_
    cases v with
    | scalar v => exact (Expr.evalItems_failsOnly hvalues es h.2).bind fun vs _ => FailsOnly.ok _
    | list vs => exact FailsOnly.error trivial

end

theorem Condition.evaluate_failsOnly (hvalues : ∀ name ∈ names, values.get? name ≠ none)
    {c : Condition} (h : c.expr.UsesOnly names) :
    FailsOnly EvalError.IsOfTypes (c.evaluate values) := by
  refine (Expr.eval_failsOnly hvalues c.expr h).bind fun v _ => ?_
  cases v with
  | scalar v =>
    dsimp only
    split
    · exact FailsOnly.ok _
    · exact FailsOnly.error trivial
  | list vs => exact FailsOnly.error trivial

end Eval

/-! ### Expansion -/

/-- The condition of one of the controls has failed, for a reason that depends on the types of
values. -/
def ExpandError.IsOfCondition (controls : List Control) (e : ExpandError) : Prop :=
  ∃ control ∈ controls, ∃ c, control.condition = some c ∧
    ∃ cause, e = .condition c.text cause control.line ∧ cause.IsOfTypes

/-- What is reported where the condition of the control fails because of types satisfies `P`. -/
def Control.ReportsOnly (P : ExpandError → Prop) (control : Control) : Prop :=
  ∀ c, control.condition = some c → ∀ values cause, c.evaluate values = .error cause →
    cause.IsOfTypes → P (.condition c.text cause control.line)

theorem Control.reportsOnly_isOfCondition {controls : List Control} {control : Control}
    (h : control ∈ controls) : control.ReportsOnly (ExpandError.IsOfCondition controls) :=
  fun c hc _ cause _ htypes => ⟨control, h, c, hc, cause, rfl, htypes⟩

namespace Template

theorem fill_failsOnly (P : ExpandError → Prop) (h : scope.Fits around) {text : List Char}
    {start stop : Nat}
    (huses : Segment.UsesOnly (namesInside around) (Text.slice text start stop)) :
    FailsOnly P (fill text scope.values start stop) := by
  obtain ⟨out, hout⟩ := Segment.substitute_eq_ok (fun _ => h.get?_values_ne_none) huses
  rw [fill, hout]
  exact FailsOnly.ok _

theorem keeps_failsOnly {P : ExpandError → Prop} (h : scope.Fits around) {control : Control}
    (hreports : control.ReportsOnly P)
    (huses : ∀ c, control.condition = some c → c.expr.UsesOnly (namesInside around)) :
    FailsOnly P (keeps control.condition control.line scope.values) := by
  unfold keeps
  split
  · exact FailsOnly.ok _
  · rename_i c hc
    have hfails := Condition.evaluate_failsOnly (fun _ => h.get?_values_ne_none) (huses c hc)
    split
    · exact FailsOnly.ok _
    · rename_i e he
      have htypes := hfails e he
      have hbound : e.unbound? = none := by
        cases e with
        | operands op lhs rhs => rfl
        | notTruth result => rfl
        | unbound name => exact htypes.elim
        | text cause => exact htypes.elim
      rw [hbound]
      exact FailsOnly.error (hreports c hc _ e he htypes)

theorem visitAll_failsOnly {P : ExpandError → Prop}
    {visit : Item → Except ExpandError (Option (List Event))} :
    ∀ {items : List Item}, (∀ item ∈ items, FailsOnly P (visit item)) →
      FailsOnly P (visitAll visit items)
  | [], _ => FailsOnly.ok _
  | item :: items, h => by
    rw [visitAll]
    refine (h item (by simp)).bind fun here _ => ?_
    refine (visitAll_failsOnly fun i hi => h i (by simp [hi])).bind fun there _ => ?_
    cases here <;> exact FailsOnly.ok _

mutual

theorem expandControl_failsOnly_of {P : ExpandError → Prop} (m : Model) (text : List Char)
    (scope : Scope) (around : List ControlKind) (h : scope.Fits around) : ∀ c : Control,
      c.WellScoped text around → (∀ control ∈ c.walk, control.ReportsOnly P) →
        FailsOnly P (expandControl m text scope c)
  | .node kind condition opening closing line children, hscoped, hreports => by
    rw [Control.WellScoped] at hscoped
    obtain ⟨howner, hcondition, hbody⟩ := hscoped
    rw [Control.walk, List.forall_mem_cons] at hreports
    obtain ⟨hself, hinside⟩ := hreports
    obtain ⟨items, hitems⟩ := exists_domain (m := m) h howner
    rw [expandControl, hitems]
    refine (visitAll_failsOnly fun item hitem => ?_).bind fun _ _ => FailsOnly.ok _
    have hfits := fits_of_mem_domain h hitems hitem
    refine (keeps_failsOnly hfits hself hcondition).bind fun keep _ => ?_
    split
    · have hchildren := expandBody_failsOnly_of m text _ _ hfits _ _ children hbody hinside
      exact hchildren.bind fun _ _ => FailsOnly.ok _
    · exact FailsOnly.ok _

theorem expandBody_failsOnly_of {P : ExpandError → Prop} (m : Model) (text : List Char)
    (scope : Scope) (around : List ControlKind) (h : scope.Fits around) (start stop : Nat) :
    ∀ cs : List Control, Control.BodyWellScoped text around start stop cs →
      (∀ control ∈ Control.walkAll cs, control.ReportsOnly P) →
        FailsOnly P (expandBody m text scope scope.values start stop cs)
  | [], hscoped, _ => by
    rw [Control.BodyWellScoped] at hscoped
    rw [expandBody]
    exact (fill_failsOnly _ h hscoped).bind fun _ _ => FailsOnly.ok _
  | c :: cs, hscoped, hreports => by
    rw [Control.BodyWellScoped] at hscoped
    obtain ⟨htext, hhere, hrest⟩ := hscoped
    rw [Control.walkAll, List.forall_mem_append] at hreports
    obtain ⟨hc, hcs⟩ := hreports
    rw [expandBody]
    refine (fill_failsOnly _ h htext).bind fun _ _ => ?_
    refine (expandControl_failsOnly_of m text scope around h c hhere hc).bind fun _ _ => ?_
    refine (expandBody_failsOnly_of m text scope around h _ stop cs hrest hcs).bind fun _ _ => ?_
    exact FailsOnly.ok _

end

theorem expandBody_failsOnly (m : Model) (text : List Char) (scope : Scope)
    (around : List ControlKind) (h : scope.Fits around) (start stop : Nat) (cs : List Control)
    (hscoped : Control.BodyWellScoped text around start stop cs) :
    FailsOnly (ExpandError.IsOfCondition (Control.walkAll cs))
      (expandBody m text scope scope.values start stop cs) :=
  expandBody_failsOnly_of m text scope around h start stop cs hscoped
    fun _ => Control.reportsOnly_isOfCondition

/-- **Static scoping is sound.** A well scoped template expands over every model, unless the
condition of one of its controls finds operands of wrong types or comes to something that is no
truth value. -/
theorem expand_of_wellScoped (m : Model) {t : Template} (h : t.WellScoped) :
    (∃ events, t.expand m = .ok events) ∨
      ∃ control ∈ t.walk, ∃ c, control.condition = some c ∧
        ∃ cause, t.expand m = .error (.condition c.text cause control.line) ∧
          ((∃ op lhs rhs, cause = .operands op lhs rhs) ∨ ∃ result, cause = .notTruth result) := by
  have hfails := expandBody_failsOnly m t.text [] [] rfl 0 _ t.controls h
  cases hexpand : t.expand m with
  | ok events => exact Or.inl ⟨events, rfl⟩
  | error e =>
    obtain ⟨control, hmem, c, hc, cause, rfl, htypes⟩ := hfails e hexpand
    refine Or.inr ⟨control, hmem, c, hc, cause, rfl, ?_⟩
    cases cause with
    | operands op lhs rhs => exact Or.inl ⟨op, lhs, rhs, rfl⟩
    | notTruth result => exact Or.inr ⟨result, rfl⟩
    | unbound name => exact htypes.elim
    | text cause => exact htypes.elim

/-- A struct with one member. -/
def soleMember : Struct := { (default : Struct) with members := [default] }

/-- A loop over the members of structs, with fields of both in its condition, over a model with one
struct that has a member. -/
theorem expand_members_of_wellScoped : ∃ t,
    Template.parse ("@foreach struct\n@foreach member where({memIndex} in '{sctName}')\n" ++
      "{memName}\n@end member\n@end struct\n").toList = .ok t ∧ t.WellScoped ∧
    ((∃ events, t.expand { Model.empty with structs := [soleMember] } = .ok events) ∨
      ∃ control ∈ t.walk, ∃ c, control.condition = some c ∧ ∃ cause,
        t.expand { Model.empty with structs := [soleMember] } =
          .error (.condition c.text cause control.line) ∧
        ((∃ op lhs rhs, cause = .operands op lhs rhs) ∨ ∃ result, cause = .notTruth result)) := by
  refine ⟨⟨("@foreach struct\n@foreach member where({memIndex} in '{sctName}')\n" ++
    "{memName}\n@end member\n@end struct\n").toList,
    [.node (.each .struct) none ⟨0, 16, 0, .opens "struct" none⟩ ⟨87, 99, 87, .closes "struct"⟩ 1
      [.node (.each .member) (some ⟨"{memIndex} in '{sctName}'".toList,
          .compare .isIn (.field "memIndex") (.text "{sctName}".toList)⟩)
        ⟨16, 65, 16, .opens "member" (some "{memIndex} in '{sctName}'".toList)⟩
        ⟨75, 87, 75, .closes "member"⟩ 2 []]]⟩, by cbv, ?_⟩
  have howner : ControlKind.HasOwner [.each .struct] (.each .member) :=
    fun _ => ⟨.struct, by decide, by decide⟩
  have hstruct : ControlKind.HasOwner [] (.each .struct) := fun h => absurd h (by decide)
  have hblank : Segment.segments [] = .ok [] := by cbv
  have hname : Segment.segments "{sctName}".toList = .ok [.field "sctName"] := by cbv
  have hbody : Segment.segments "{memName}\n".toList =
      .ok [.field "memName", .text ['\n']] := by cbv
  refine (fun h => ⟨h, expand_of_wellScoped _ h⟩) ?_
  simp only [Template.WellScoped, Control.BodyWellScoped, Control.WellScoped, Segment.UsesOnly]
  refine ⟨⟨[], hblank, by simp⟩, ⟨hstruct, by simp, ⟨[], hblank, by simp⟩,
    ⟨howner, ?_, _, hbody, ?_⟩, [], hblank, by simp⟩, [], hblank, by simp⟩
  · rintro _ ⟨⟩
    have hindex : "memIndex" ∈ namesInside [.each .member, .each .struct] := by decide
    exact ⟨hindex, _, hname, by simp; decide⟩
  · simp; decide

end Template

end LayerStencil
