import LayerStencil.Proofs.Failure
import LayerStencil.Template.Expansion

/-! # Transparent frames

A conditional part visits the sentinel, which has no fields and owns no parts. So the frames that it
adds to a scope are transparent: wherever they stand in a scope, a control expands to the same
events or to the same error.

* `Scope.Framed`: a scope with sentinels inserted anywhere.
* `Scope.Framed.values_eq`, `Scope.Framed.domain_eq`: sentinels change neither the values in scope
  nor the items that a control visits.
* `Template.expand_framed`: they do not change what a control expands to; and what stands in a
  conditional part is expanded in the scope around it. -/

namespace LayerStencil

namespace Scope

/-- The second scope is the first one with sentinels inserted, any number of them anywhere. -/
inductive Framed : Scope → Scope → Prop
  | nil : Framed [] []
  | item (item : Item) {scope wide : Scope} (h : Framed scope wide) :
      Framed (item :: scope) (item :: wide)
  | sentinel {scope wide : Scope} (h : Framed scope wide) : Framed scope (.sentinel :: wide)

theorem Framed.refl : ∀ scope : Scope, Framed scope scope
  | [] => .nil
  | first :: scope => .item first (Framed.refl scope)

variable {scope wide : Scope}

theorem values_sentinel (scope : Scope) : values (.sentinel :: scope) = scope.values := rfl

theorem Framed.values_eq (h : Framed scope wide) : wide.values = scope.values := by
  induction h with
  | nil => rfl
  | item item _ ih => rw [values, values, ih]
  | sentinel _ ih => rw [values_sentinel, ih]

theorem Framed.findSome?_parts? (h : Framed scope wide) (kind : Kind) :
    wide.findSome? (Item.parts? kind) = scope.findSome? (Item.parts? kind) := by
  induction h with
  | nil => rfl
  | item item _ ih => rw [List.findSome?_cons, List.findSome?_cons, ih]
  | sentinel _ ih =>
    have hnone : Item.parts? kind .sentinel = none := by cases kind <;> rfl
    rw [List.findSome?_cons, hnone, ih]

theorem Framed.domain_eq (h : Framed scope wide) (m : Model) (kind : ControlKind) :
    m.domain wide kind = m.domain scope kind := by
  cases kind with
  | cond => rfl
  | each kind => rw [Model.domain, Model.domain, h.findSome?_parts?]

end Scope

namespace Template

variable (m : Model) (text : List Char)

mutual

theorem expandControl_framed : ∀ (c : Control) {scope wide : Scope}, scope.Framed wide →
    expandControl m text wide c = expandControl m text scope c
  | .node kind condition opening closing line children, scope, wide, h => by
    have hvalues : ∀ item : Item, Scope.values (item :: wide) = Scope.values (item :: scope) :=
      fun item => (h.item item).values_eq
    have hbody : ∀ (item : Item) (values : Values),
        expandBody m text (item :: wide) values opening.stop closing.start children =
          expandBody m text (item :: scope) values opening.stop closing.start children :=
      fun item values => expandBody_framed children values _ _ (h.item item)
    rw [expandControl, expandControl, h.domain_eq]
    simp only [hvalues, hbody]

theorem expandBody_framed : ∀ (cs : List Control) (values : Values) (start stop : Nat)
    {scope wide : Scope}, scope.Framed wide →
      expandBody m text wide values start stop cs = expandBody m text scope values start stop cs
  | [], values, start, stop, scope, wide, _ => by rw [expandBody, expandBody]
  | c :: cs, values, start, stop, scope, wide, h => by
    rw [expandBody, expandBody, expandControl_framed c h, expandBody_framed cs _ _ _ h]

end

/-- A conditional part in any scope: its condition is evaluated, and its body expanded, in that
scope itself. -/
theorem expandControl_cond (scope : Scope) (condition : Option Condition)
    (opening closing : Marker) (line : Nat) (children : List Control) :
    expandControl m text scope (.node .cond condition opening closing line children) =
      keeps condition line scope.values >>= fun keep =>
        if keep then
          expandBody m text scope scope.values opening.stop closing.start children >>= fun body =>
            .ok (body ++ [.tally ⟨opening.start, .cond, line, 1, 1⟩])
        else .ok [.tally ⟨opening.start, .cond, line, 1, 0⟩] := by
  have hframed : Scope.Framed scope (.sentinel :: scope) := .sentinel (.refl scope)
  rw [expandControl]
  simp only [Model.domain, visitAll, Scope.values_sentinel,
    expandBody_framed m text _ _ _ _ hframed]
  cases keeps condition line scope.values with
  | error e => rfl
  | ok keep =>
    cases keep with
    | false => rfl
    | true =>
      simp only [ok_bind, if_true]
      cases expandBody m text scope scope.values opening.stop closing.start children with
      | error e => rfl
      | ok body =>
        show Except.ok ((body ++ []) ++ _) = _
        rw [List.append_nil]
        rfl

/-- **Conditional parts are transparent.** Sentinels in a scope do not change what a control expands
to, be it events or an error; and a conditional part evaluates its condition and expands everything
in it as it stands in the scope around it. -/
theorem expand_framed {scope wide : Scope} (h : scope.Framed wide) :
    (∀ c, expandControl m text wide c = expandControl m text scope c) ∧
    ∀ condition opening closing line children,
      expandControl m text wide (.node .cond condition opening closing line children) =
        keeps condition line scope.values >>= fun keep =>
          if keep then
            expandBody m text scope scope.values opening.stop closing.start children >>= fun body =>
              .ok (body ++ [.tally ⟨opening.start, .cond, line, 1, 1⟩])
          else .ok [.tally ⟨opening.start, .cond, line, 1, 0⟩] := by
  refine ⟨fun c => expandControl_framed m text c h, fun _ _ _ _ _ => ?_⟩
  rw [expandControl_framed m text _ h, expandControl_cond]

/-- A struct with one member. -/
def pool : Item := .struct { (default : Struct) with
  name := "VkPool"
  members := [{ (default : Member) with
    declaration := { (default : Declaration) with name := "size" } }] }

/-- A loop over members with a conditional part inside it, and the text in which it stands. -/
def memberLoop : List Char × Control :=
  ("@foreach member\n@if(True)\nint\n@end if\n@end member\n".toList,
    .node (.each .member) none ⟨0, 16, 0, .opens "member" none⟩ ⟨38, 50, 38, .closes "member"⟩ 1
      [.node .cond (some ⟨"True".toList, .literal (.bool true)⟩)
        ⟨16, 26, 16, .opens "if" (some "True".toList)⟩ ⟨30, 38, 30, .closes "if"⟩ 2 []])

/-- Sentinels around the struct whose members are visited. -/
theorem expand_framed_members : Scope.Framed [pool] [.sentinel, pool, .sentinel, .sentinel] ∧
    expandControl Model.empty memberLoop.1 [.sentinel, pool, .sentinel, .sentinel] memberLoop.2 =
      expandControl Model.empty memberLoop.1 [pool] memberLoop.2 ∧
    expandControl Model.empty memberLoop.1 [pool] memberLoop.2 =
      .ok [.text [], .text "int\n".toList, .tally ⟨16, .cond, 2, 1, 1⟩, .text [],
        .tally ⟨0, .each .member, 1, 1, 1⟩] := by
  have hframed : Scope.Framed [pool] [.sentinel, pool, .sentinel, .sentinel] :=
    .sentinel (.item pool (.sentinel (.sentinel .nil)))
  exact ⟨hframed, (expand_framed Model.empty memberLoop.1 hframed).1 memberLoop.2, rfl⟩

end Template

end LayerStencil
