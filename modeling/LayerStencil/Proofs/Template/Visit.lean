import LayerStencil.Proofs.Failure
import LayerStencil.Template.Expansion

/-! # What an expansion has done

A control that expands visits the items of its domain in order. It drops an item for which its
condition does not hold, and it expands its body for one that it keeps; in the end it reports how
many items it has visited and kept. Expanding a text fills a stretch, expands the control behind it
and goes on behind the control.

* `visitAll_induction`: what holds before the first item and is kept by each visit holds in the end.
* `exists_of_expandControl`, `exists_of_expandBody_cons`: what a control and a text that expand have
  done. -/

namespace LayerStencil.Template

/-- What holds of no visit and is kept by every visit of an item, whether the item is kept or not,
holds of the visit of all items. -/
theorem visitAll_induction {visit : Item → Except ExpandError (Option (List Event))}
    {P : Nat → Nat → List Event → Prop} (hnil : P 0 0 [])
    (hstep : ∀ item k n events, P k n events →
      (visit item = .ok none → P (k + 1) n events) ∧
      ∀ body, visit item = .ok (some body) → P (k + 1) (n + 1) (body ++ events)) :
    ∀ {items : List Item} {n : Nat} {events : List Event},
      visitAll visit items = .ok (n, events) → P items.length n events
  | [], _, _, h => by cases h; exact hnil
  | item :: items, n, events, h => by
    rw [visitAll] at h
    obtain ⟨here, hhere, h⟩ := exists_of_bind_eq_ok h
    obtain ⟨⟨n', rest⟩, hrest, h⟩ := exists_of_bind_eq_ok h
    have ih := visitAll_induction hnil hstep hrest
    cases here with
    | none => cases h; exact (hstep item _ _ _ ih).1 hhere
    | some body => cases h; exact (hstep item _ _ _ ih).2 body hhere

variable {m : Model} {text : List Char} {scope : Scope}

/-- **What a control that expands has done**: what holds before it visits an item, and stays true if
it drops one and if it expands its body for one, holds when it reports the visit of its domain. -/
theorem exists_of_expandControl {kind : ControlKind} {condition : Option Condition}
    {opening closing : Marker} {line : Nat} {children : List Control} {events : List Event}
    (h : expandControl m text scope (.node kind condition opening closing line children) =
      .ok events)
    {P : Nat → Nat → List Event → Prop} (hnil : P 0 0 [])
    (hdrop : ∀ (item : Item) k n es,
      keeps condition line (Scope.values (item :: scope)) = .ok false → P k n es → P (k + 1) n es)
    (hkeep : ∀ (item : Item) k n es body,
      expandBody m text (item :: scope) (Scope.values (item :: scope)) opening.stop closing.start
        children = .ok body →
      P k n es → P (k + 1) (n + 1) (guarded (m.guardFor? item) body ++ es)) :
    ∃ items n visited, m.domain scope kind = .ok items ∧ P items.length n visited ∧
      events = visited ++ [.tally ⟨opening.start, kind, line, items.length, n⟩] := by
  rw [expandControl] at h
  cases hdomain : m.domain scope kind with
  | error kind => rw [hdomain] at h; cases h
  | ok items =>
    rw [hdomain] at h
    obtain ⟨⟨n, visited⟩, hvisit, h⟩ := exists_of_bind_eq_ok h
    cases h
    refine ⟨items, n, visited, rfl, visitAll_induction hnil (fun item k n es hP => ?_) hvisit, rfl⟩
    constructor
    · intro hitem
      obtain ⟨keep, hkeeps, hitem⟩ := exists_of_bind_eq_ok hitem
      cases keep with
      | false => exact hdrop item k n es hkeeps hP
      | true =>
        obtain ⟨body, -, hitem⟩ := exists_of_bind_eq_ok hitem
        cases hitem
    · intro here hitem
      obtain ⟨keep, -, hitem⟩ := exists_of_bind_eq_ok hitem
      cases keep with
      | false => cases hitem
      | true =>
        obtain ⟨body, hbody, hitem⟩ := exists_of_bind_eq_ok hitem
        cases hitem
        exact hkeep item k n es body hbody hP

theorem exists_of_expandBody_nil {values : Values} {start stop : Nat} {events : List Event}
    (h : expandBody m text scope values start stop [] = .ok events) :
    ∃ s, fill text values start stop = .ok s ∧ events = [.text s] := by
  rw [expandBody] at h
  obtain ⟨s, hs, h⟩ := exists_of_bind_eq_ok h
  cases h
  exact ⟨s, hs, rfl⟩

theorem exists_of_expandBody_cons {values : Values} {start stop : Nat} {c : Control}
    {cs : List Control} {events : List Event}
    (h : expandBody m text scope values start stop (c :: cs) = .ok events) :
    ∃ s inner rest, fill text values start c.opening.start = .ok s ∧
      expandControl m text scope c = .ok inner ∧
      expandBody m text scope values c.closing.stop stop cs = .ok rest ∧
      events = .text s :: (inner ++ rest) := by
  rw [expandBody] at h
  obtain ⟨s, hs, h⟩ := exists_of_bind_eq_ok h
  obtain ⟨inner, hinner, h⟩ := exists_of_bind_eq_ok h
  obtain ⟨rest, hrest, h⟩ := exists_of_bind_eq_ok h
  cases h
  exact ⟨s, inner, rest, hs, hinner, hrest, rfl⟩

end LayerStencil.Template
