/-! # Ordered sets

An ordered set lists distinct elements in the order in which they were first inserted. Main
statements: `mem_ofList`, the set of a list has the members of the list, and `toList_ofList`, it
lists them as they are if they are distinct.
-/

namespace LayerStencil

/-- Distinct elements, oldest first. -/
structure OrderedSet (α : Type) where
  toList : List α
  nodup : toList.Nodup
deriving Repr

namespace OrderedSet

variable {α : Type}

instance [DecidableEq α] : DecidableEq (OrderedSet α) := fun s t =>
  decidable_of_iff (s.toList = t.toList) ⟨fun h => by cases s; cases t; simp_all, fun h => h ▸ rfl⟩

instance : Membership α (OrderedSet α) := ⟨fun s a => a ∈ s.toList⟩

/-- The set without elements. -/
def empty : OrderedSet α := ⟨[], List.nodup_nil⟩

instance : Inhabited (OrderedSet α) := ⟨empty⟩

@[simp] theorem mem_toList {s : OrderedSet α} {a : α} : a ∈ s.toList ↔ a ∈ s := Iff.rfl

instance [DecidableEq α] (s : OrderedSet α) (a : α) : Decidable (a ∈ s) :=
  inferInstanceAs (Decidable (a ∈ s.toList))

theorem nodup_concat {l : List α} {a : α} (hl : l.Nodup) (ha : a ∉ l) : (l ++ [a]).Nodup := by
  refine List.nodup_append.mpr ⟨hl, by simp, ?_⟩
  intro x hx y hy hxy
  simp only [List.mem_singleton] at hy
  exact ha (hy ▸ hxy ▸ hx)

/-- The set with `a`, which comes last if it is new. -/
def insert [DecidableEq α] (s : OrderedSet α) (a : α) : OrderedSet α :=
  if h : a ∈ s.toList then s else ⟨s.toList ++ [a], nodup_concat s.nodup h⟩

@[simp] theorem mem_insert [DecidableEq α] {s : OrderedSet α} {a b : α} :
    b ∈ s.insert a ↔ b ∈ s ∨ b = a := by
  unfold insert
  split
  · rename_i h
    constructor
    · exact Or.inl
    · rintro (hb | rfl)
      · exact hb
      · exact h
  · rw [← mem_toList]; simp

/-- The set with all elements of a list, in order. -/
def extend [DecidableEq α] (s : OrderedSet α) (l : List α) : OrderedSet α := l.foldl insert s

@[simp] theorem mem_extend [DecidableEq α] {s : OrderedSet α} {l : List α} {b : α} :
    b ∈ s.extend l ↔ b ∈ s ∨ b ∈ l := by
  induction l generalizing s with
  | nil => simp [extend]
  | cons a l ih =>
    show b ∈ (s.insert a).extend l ↔ _
    rw [ih]; simp [or_assoc]

/-- The set of the elements of a list, each at its first place. -/
def ofList [DecidableEq α] (l : List α) : OrderedSet α := empty.extend l

@[simp] theorem not_mem_empty {b : α} : ¬ b ∈ (empty : OrderedSet α) := by
  rw [← mem_toList]; simp [empty]

theorem toList_extend [DecidableEq α] {s : OrderedSet α} {l : List α}
    (h : (s.toList ++ l).Nodup) : (s.extend l).toList = s.toList ++ l := by
  induction l generalizing s with
  | nil => simp [extend]
  | cons a l ih =>
    have hnew : a ∉ s.toList := fun ha =>
      (List.nodup_append.mp h).2.2 a ha a List.mem_cons_self rfl
    have hinsert : (s.insert a).toList = s.toList ++ [a] := by
      rw [insert, dif_neg hnew]
    show ((s.insert a).extend l).toList = _
    rw [ih (by rw [hinsert]; simpa using h), hinsert]
    simp

theorem toList_ofList [DecidableEq α] {l : List α} (h : l.Nodup) : (ofList l).toList = l :=
  toList_extend (by simpa [empty] using h)

@[simp] theorem mem_ofList [DecidableEq α] {l : List α} {b : α} : b ∈ ofList l ↔ b ∈ l := by
  simp [ofList]

end OrderedSet

end LayerStencil
