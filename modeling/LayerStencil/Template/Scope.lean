import LayerStencil.Model.Basic

/-! # Scopes

The scope of a place in a template is the list of the items that the loops around it visit,
innermost first. An inner item's fields hide those of the items around it (`get?_values_cons`), and
a loop over parts visits the parts of the innermost item that owns parts of that kind.
-/

namespace LayerStencil

/-- The items visited around a place, innermost first. -/
abbrev Scope := List Item

/-- The values of all fields in scope. -/
def Scope.values : Scope → Values
  | [] => .empty
  | item :: outer => (Scope.values outer).extend item.values.entries

namespace Scope

theorem get?_values_cons (item : Item) (outer : Scope) (name : String) :
    (values (item :: outer)).get? name = (item.values.get? name).or ((values outer).get? name) :=
  Dict.get?_extend (values outer) item.values.nodup name

theorem get?_values_eq_none_iff {scope : Scope} {name : String} :
    scope.values.get? name = none ↔ ∀ item ∈ scope, name ∉ item.vocabulary := by
  induction scope with
  | nil => simp [values, Dict.get?, Dict.empty]
  | cons item outer ih =>
    rw [get?_values_cons, Option.or_eq_none_iff, ih, Dict.get?_eq_none_iff, Item.keys_values]
    simp

end Scope

/-- What has to enclose a loop over a scoped kind, in messages. -/
def Kind.owner : Kind → String
  | .parameter => "function"
  | .member => "struct"
  | .choice => "union"
  | .option => "enum or bitmask"
  | _ => ""

/-- The items that a control visits in a scope, or the kind whose owner is missing there. -/
def Model.domain (m : Model) (scope : Scope) : ControlKind → Except Kind (List Item)
  | .cond => .ok [.sentinel]
  | .each kind =>
    if kind.isScoped then
      match scope.findSome? (Item.parts? kind) with
      | some items => .ok items
      | none => .error kind
    else .ok (m.items kind)

end LayerStencil
