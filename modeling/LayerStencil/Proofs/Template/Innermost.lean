import LayerStencil.Proofs.Template.Scoping
import Mathlib.Data.List.Nodup
import Mathlib.Data.List.Pairwise

/-! # The innermost item counts

The values in scope are layered from the outermost item inwards, and the owner of the parts that a
loop visits is sought from the innermost item outwards. Both come to the innermost item that counts:
a field has the value of the first item of the scope that has the field, and a loop over parts
visits the parts of the first item that owns such parts. No two kinds have a field in common, so the
fields of the owner are in scope with the values they have in the very item whose parts are visited.

* `Scope.get?_values`: the value of a field in a scope.
* `Model.domain_eq`: the items of a loop over parts.
* `Kind.eq_of_mem_vocabulary`: a field belongs to one kind.
* `Scope.innermost_first`: how the three go together. -/

namespace LayerStencil

/-- What is found first is what the first element has for which anything is found. -/
theorem findSome?_eq_bind {α β : Type} {f : α → Option β} {p : α → Bool}
    (h : ∀ a, (f a).isSome = p a) : ∀ l : List α, l.findSome? f = (l.find? p).bind f
  | [] => rfl
  | a :: l => by
    rw [List.findSome?_cons, List.find?_cons, ← h a, findSome?_eq_bind h l]
    cases hf : f a with
    | none => rfl
    | some b => exact hf.symm

/-! ### Fields -/

theorem Item.isSome_get?_values (name : String) (item : Item) :
    (item.values.get? name).isSome = item.values.contains name := by
  rw [Bool.eq_iff_iff, Option.isSome_iff_ne_none, Ne, Dict.get?_eq_none_iff, not_not, Dict.contains,
    List.contains_iff_mem]

/-- **The value of a field** is the one it has in the first item of the scope that has the field. -/
theorem Scope.get?_values (scope : Scope) (name : String) :
    scope.values.get? name = (scope.find? (·.values.contains name)).bind (·.values.get? name) := by
  rw [← findSome?_eq_bind (Item.isSome_get?_values name)]
  induction scope with
  | nil => rfl
  | cons item outer ih =>
    rw [Scope.get?_values_cons, ih, List.findSome?_cons]
    cases item.values.get? name <;> rfl

theorem Kind.nodup_vocabularies : (Kind.all.flatMap Kind.vocabulary).Nodup := by decide +kernel

/-- A field belongs to one kind. -/
theorem Kind.eq_of_mem_vocabulary {kind kind' : Kind} {name : String} (h : name ∈ kind.vocabulary)
    (h' : name ∈ kind'.vocabulary) : kind = kind' := by
  have hdisjoint := (List.nodup_flatMap.mp Kind.nodup_vocabularies).2
  have : Std.Symm (Function.onFun List.Disjoint Kind.vocabulary) :=
    ⟨fun _ _ h _ hx hx' => h hx' hx⟩
  by_contra hne
  exact hdisjoint.forall kind.mem_all kind'.mem_all hne h h'

/-- Items that have a field in common are of one kind. -/
theorem Item.kind?_eq_of_mem_vocabulary {item other : Item} {name : String}
    (h : name ∈ item.vocabulary) (h' : name ∈ other.vocabulary) : item.kind? = other.kind? := by
  unfold Item.vocabulary at h h'
  cases hkind : item.kind? with
  | none => simp [hkind] at h
  | some kind =>
    cases hkind' : other.kind? with
    | none => simp [hkind'] at h'
    | some kind' =>
      rw [hkind] at h
      rw [hkind'] at h'
      rw [Kind.eq_of_mem_vocabulary h h']

/-! ### Owners -/

/-- Is the item of a kind that owns parts of the scoped kind? -/
def Item.owns (kind : Kind) (item : Item) : Bool :=
  kind.owners.any fun owner => item.kind? = some owner

theorem Item.isSome_parts? (kind : Kind) (item : Item) :
    (item.parts? kind).isSome = item.owns kind := by
  cases kind <;> cases item <;> rfl

theorem Item.parts?_eq_parts {kind : Kind} {item : Item} (h : item.owns kind) :
    item.parts? kind = some item.parts := by
  rw [← Item.isSome_parts?] at h
  cases kind <;> cases item <;> first | rfl | cases h

/-- **The items of a loop over parts** are the parts of the first item of the scope that owns such
parts; without one the loop fails. -/
theorem Model.domain_eq (m : Model) (scope : Scope) {kind : Kind} (hscoped : kind.isScoped) :
    m.domain scope (.each kind) =
      match scope.find? (Item.owns kind) with
      | some owner => .ok owner.parts
      | none => .error kind := by
  rw [Model.domain, if_pos hscoped, findSome?_eq_bind (Item.isSome_parts? kind)]
  cases hfind : scope.find? (Item.owns kind) with
  | none => rfl
  | some owner => rw [Option.bind_some, Item.parts?_eq_parts (List.find?_some hfind)]

/-- The first item of a scope that owns parts of a kind is the first one that has its fields. -/
theorem Scope.find?_contains_of_owner {scope : Scope} {kind : Kind} {owner : Item}
    (h : scope.find? (Item.owns kind) = some owner) {name : String}
    (hname : name ∈ owner.vocabulary) :
    scope.find? (·.values.contains name) = some owner := by
  obtain ⟨howns, inner, outer, rfl, hinner⟩ := List.find?_eq_some_iff_append.mp h
  have hhas : ∀ item : Item, item.values.contains name = true ↔ name ∈ item.vocabulary := by
    intro item
    rw [Dict.contains, List.contains_iff_mem, Item.keys_values]
  refine List.find?_eq_some_iff_append.mpr ⟨(hhas owner).mpr hname, inner, outer, rfl, ?_⟩
  -- An item further in with the field would be of the owner's kind, and so own such parts itself.
  intro item hitem
  by_contra hcontains
  have hkind := Item.kind?_eq_of_mem_vocabulary ((hhas item).mp (by simpa using hcontains)) hname
  have hnot := hinner item hitem
  rw [Item.owns, hkind] at hnot
  rw [Item.owns] at howns
  rw [howns] at hnot
  cases hnot

open Template (expandControl)

/-- **The innermost item counts.** A field has the value of the first item of the scope that has it,
and none exactly if no item has it. A loop over parts visits the parts of the first item that owns
such parts, and in its scope the fields of this item have the values they have there; the loop fails
exactly if no item owns such parts, and then says which owner is missing and on which line. -/
theorem Scope.innermost_first (m : Model) (scope : Scope) :
    (∀ name, scope.values.get? name =
      (scope.find? (·.values.contains name)).bind (·.values.get? name)) ∧
    (∀ name, scope.values.get? name = none ↔ ∀ item ∈ scope, ¬ item.values.contains name) ∧
    ∀ kind : Kind, kind.isScoped →
      (∀ owner, scope.find? (Item.owns kind) = some owner →
        m.domain scope (.each kind) = .ok owner.parts ∧
        ∀ name ∈ owner.vocabulary, scope.values.get? name = owner.values.get? name) ∧
      (∀ missing, m.domain scope (.each kind) = .error missing ↔
        missing = kind ∧ ∀ item ∈ scope, ¬ item.owns kind) ∧
      ((∀ item ∈ scope, ¬ item.owns kind) →
        ∀ text condition opening closing line children,
          expandControl m text scope (.node (.each kind) condition opening closing line children) =
            .error (.missingOwner kind line)) := by
  refine ⟨scope.get?_values, fun name => ?_, fun kind hscoped => ?_⟩
  · rw [Scope.get?_values_eq_none_iff]
    exact forall₂_congr fun item _ => by
      rw [Dict.contains, List.contains_iff_mem, Item.keys_values]
  · have hdomain := m.domain_eq scope hscoped
    refine ⟨fun owner howner => ?_, fun missing => ?_, fun hnone => ?_⟩
    · rw [howner] at hdomain
      refine ⟨hdomain, fun name hname => ?_⟩
      rw [scope.get?_values, scope.find?_contains_of_owner howner hname, Option.bind_some]
    · rw [← List.find?_eq_none, hdomain]
      cases hfind : scope.find? (Item.owns kind) with
      | none => simp [eq_comm]
      | some owner => simp
    · rw [List.find?_eq_none.mpr hnone] at hdomain
      intro text condition opening closing line children
      rw [expandControl, hdomain]

/-- A bitmask with one option, as an item. -/
def bitmaskItem (name option : String) : Item :=
  .bitmask
    { name := name, width := 32, options := [{ (default : EnumOption) with name := option }] }

/-- The sentinel in a bitmask in an enum in another bitmask. -/
def repeatedOwners : Scope :=
  [.sentinel, bitmaskItem "VkUsage" "READ",
    .enum { name := "VkMode", options := [{ (default : EnumOption) with name := "FAST" }] },
    bitmaskItem "VkAccess" "WRITE"]

/-- The inner bitmask hides the fields of the outer one, and its options are visited; no item has
members. -/
theorem Scope.innermost_first_repeatedOwners :
    repeatedOwners.values.get? "bitName" = some (.str "VkUsage") ∧
      repeatedOwners.values.get? "enumName" = some (.str "VkMode") ∧
      Kind.isScoped .option ∧
      repeatedOwners.find? (Item.owns .option) = some (bitmaskItem "VkUsage" "READ") ∧
      Model.empty.domain repeatedOwners (.each .option) =
        .ok [.option { (default : EnumOption) with name := "READ" }] ∧
      Kind.isScoped .member ∧ (∀ item ∈ repeatedOwners, ¬ item.owns .member) ∧
      Model.empty.domain repeatedOwners (.each .member) = .error .member := by
  obtain ⟨hvalues, -, hloops⟩ := Scope.innermost_first Model.empty repeatedOwners
  have howner : repeatedOwners.find? (Item.owns .option) =
      some (bitmaskItem "VkUsage" "READ") := rfl
  have hmissing : ∀ item ∈ repeatedOwners, ¬ item.owns .member := by decide
  exact ⟨hvalues "bitName", hvalues "enumName", rfl, howner,
    ((hloops .option rfl).1 _ howner).1, rfl, hmissing,
    ((hloops .member rfl).2.1 _).mpr ⟨rfl, hmissing⟩⟩

end LayerStencil
