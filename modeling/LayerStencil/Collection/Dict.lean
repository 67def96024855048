import LayerStencil.Collection.OrderedSet

/-! # Dictionaries

A dictionary binds distinct names to values and lists its entries in the order in which the names
were first bound. Main statements: `get?_insert`, the last value inserted is the one found,
`get?_extend`, entries that are added hide those before, `get?_insertNew`, a bound name keeps its
value, and `get?_ofList` and `get?_ofFirsts`, in the dictionary of a list a name has its last or its
first value there.
-/

namespace LayerStencil

/-- Distinct names with their values, oldest first. -/
structure Dict (α : Type) where
  entries : List (String × α)
  nodup : (entries.map Prod.fst).Nodup
deriving Repr

namespace Dict

variable {α β : Type}

instance [DecidableEq α] : DecidableEq (Dict α) := fun d e =>
  decidable_of_iff (d.entries = e.entries)
    ⟨fun h => by cases d; cases e; simp_all, fun h => h ▸ rfl⟩

/-- The dictionary without entries. -/
def empty : Dict α := ⟨[], List.nodup_nil⟩

instance : Inhabited (Dict α) := ⟨empty⟩

/-- The bound names, oldest first. -/
def keys (d : Dict α) : List String := d.entries.map Prod.fst

/-- The value bound to a name. -/
def get? (d : Dict α) (name : String) : Option α := d.entries.lookup name

/-- Is the name bound? -/
def contains (d : Dict α) (name : String) : Bool := d.keys.contains name

/-- Gives `value` to `name` wherever the list binds it. -/
def replace (name : String) (value : α) (entries : List (String × α)) : List (String × α) :=
  entries.map fun entry => if entry.1 = name then (entry.1, value) else entry

theorem map_fst_replace (name : String) (value : α) (entries : List (String × α)) :
    (replace name value entries).map Prod.fst = entries.map Prod.fst := by
  induction entries with
  | nil => rfl
  | cons entry entries ih =>
    simp only [replace, List.map_cons] at ih ⊢
    rw [ih]
    by_cases h : entry.1 = name <;> simp [h]

/-- The dictionary in which `name` has `value`; a name bound before keeps its place. -/
def insert (d : Dict α) (name : String) (value : α) : Dict α :=
  if h : name ∈ d.entries.map Prod.fst then
    ⟨replace name value d.entries, by rw [map_fst_replace]; exact d.nodup⟩
  else
    ⟨d.entries ++ [(name, value)], by simpa using OrderedSet.nodup_concat d.nodup h⟩

/-- The dictionary in which `name` has `value` unless it was bound before. -/
def insertNew (d : Dict α) (name : String) (value : α) : Dict α :=
  if h : name ∈ d.entries.map Prod.fst then d
  else ⟨d.entries ++ [(name, value)], by simpa using OrderedSet.nodup_concat d.nodup h⟩

/-- The dictionary with all entries of a list inserted in order. -/
def extend (d : Dict α) (l : List (String × α)) : Dict α :=
  l.foldl (fun d entry => d.insert entry.1 entry.2) d

/-- The dictionary with the entries of a list whose names are new, in order. -/
def extendNew (d : Dict α) (l : List (String × α)) : Dict α :=
  l.foldl (fun d entry => d.insertNew entry.1 entry.2) d

/-- The dictionary of a list: a name keeps its first place and has its last value. -/
def ofList (l : List (String × α)) : Dict α := empty.extend l

/-- The dictionary of a list: a name keeps its first place and its first value. -/
def ofFirsts (l : List (String × α)) : Dict α := empty.extendNew l

/-! ### What is found -/

theorem lookup_eq_none_iff (l : List (String × α)) (k : String) :
    l.lookup k = none ↔ k ∉ l.map Prod.fst := by
  induction l with
  | nil => simp
  | cons entry l ih =>
    rcases entry with ⟨a, v⟩
    by_cases h : k = a
    · subst h; simp
    · have : (k == a) = false := by simpa using h
      simp [List.lookup_cons, this, ih, h]

theorem lookup_replace (l : List (String × α)) (name k : String) (value : α) :
    (replace name value l).lookup k =
      if k = name ∧ name ∈ l.map Prod.fst then some value else l.lookup k := by
  induction l with
  | nil => simp [replace]
  | cons entry l ih =>
    rcases entry with ⟨a, v⟩
    simp only [replace, List.map_cons] at ih ⊢
    by_cases hk : k = a
    · subst hk
      by_cases hn : k = name
      · subst hn; simp
      · simp [hn]
    · have hka : (k == a) = false := by simpa using hk
      by_cases hn : a = name
      · subst hn
        simp [List.lookup_cons, hka, ih, hk]
      · have hna : ¬ name = a := fun h => hn h.symm
        simp only [hn, if_false, List.lookup_cons, hka, ih, List.mem_cons, hna, false_or]

theorem get?_eq_none_iff {d : Dict α} {k : String} : d.get? k = none ↔ k ∉ d.keys :=
  lookup_eq_none_iff d.entries k

theorem get?_insert (d : Dict α) (name k : String) (value : α) :
    (d.insert name value).get? k = if k = name then some value else d.get? k := by
  unfold insert get?
  split
  · rename_i h
    rw [lookup_replace]
    by_cases hk : k = name
    · rw [if_pos ⟨hk, h⟩, if_pos hk]
    · rw [if_neg fun hc => hk hc.1, if_neg hk]
  · rename_i h
    simp only [List.lookup_append]
    by_cases hk : k = name
    · subst hk
      simp [(lookup_eq_none_iff d.entries k).mpr h]
    · have hkn : (k == name) = false := by simpa using hk
      simp [List.lookup_cons, hk, hkn]

theorem get?_insertNew (d : Dict α) (name k : String) (value : α) :
    (d.insertNew name value).get? k =
      if k = name ∧ name ∉ d.keys then some value else d.get? k := by
  unfold insertNew get? keys
  split
  · rename_i h
    rw [if_neg fun hc => hc.2 h]
  · rename_i h
    simp only [List.lookup_append, h, not_false_eq_true, and_true]
    by_cases hk : k = name
    · subst hk
      simp [(lookup_eq_none_iff d.entries k).mpr h]
    · have hkn : (k == name) = false := by simpa using hk
      simp [List.lookup_cons, hk, hkn]

theorem get?_extend (d : Dict α) {l : List (String × α)} (hl : (l.map Prod.fst).Nodup)
    (k : String) : (d.extend l).get? k = (l.lookup k).or (d.get? k) := by
  induction l generalizing d with
  | nil => rfl
  | cons entry l ih =>
    rcases entry with ⟨a, v⟩
    simp only [List.map_cons, List.nodup_cons] at hl
    have hstep : d.extend ((a, v) :: l) = (d.insert a v).extend l := rfl
    rw [hstep, ih (d.insert a v) hl.2, get?_insert]
    by_cases hk : k = a
    · subst hk
      simp [(lookup_eq_none_iff l k).mpr hl.1]
    · have hka : (k == a) = false := by simpa using hk
      simp [List.lookup_cons, hka, hk]

theorem get?_empty (k : String) : (empty : Dict α).get? k = none := rfl

/-- The last entry of a name hides all others. -/
theorem get?_extend_reverse (d : Dict α) (l : List (String × α)) (k : String) :
    (d.extend l).get? k = (l.reverse.lookup k).or (d.get? k) := by
  induction l generalizing d with
  | nil => rfl
  | cons entry l ih =>
    rcases entry with ⟨a, v⟩
    have hstep : d.extend ((a, v) :: l) = (d.insert a v).extend l := rfl
    rw [hstep, ih (d.insert a v), get?_insert, List.reverse_cons, List.lookup_append]
    by_cases hk : k = a
    · subst hk
      cases l.reverse.lookup k <;> simp
    · have hka : (k == a) = false := by simpa using hk
      simp [List.lookup_cons, hka, hk]

theorem get?_extend_of_not_mem (d : Dict α) {l : List (String × α)} {k : String}
    (hk : k ∉ l.map Prod.fst) : (d.extend l).get? k = d.get? k := by
  have hnone : l.reverse.lookup k = none := by
    rw [lookup_eq_none_iff, List.map_reverse, List.mem_reverse]; exact hk
  rw [get?_extend_reverse, hnone, Option.none_or]

theorem get?_extendNew (d : Dict α) (l : List (String × α)) (k : String) :
    (d.extendNew l).get? k = (d.get? k).or (l.lookup k) := by
  induction l generalizing d with
  | nil => exact (Option.or_none).symm
  | cons entry l ih =>
    rcases entry with ⟨a, v⟩
    have hstep : d.extendNew ((a, v) :: l) = (d.insertNew a v).extendNew l := rfl
    rw [hstep, ih (d.insertNew a v), get?_insertNew]
    by_cases hk : k = a
    · subst hk
      by_cases hmem : k ∈ d.keys
      · have hne : d.get? k ≠ none := mt get?_eq_none_iff.mp (not_not_intro hmem)
        obtain ⟨w, hw⟩ := Option.ne_none_iff_exists'.mp hne
        simp [hmem, hw]
      · simp [hmem, get?_eq_none_iff.mpr hmem]
    · have hka : (k == a) = false := by simpa using hk
      simp [List.lookup_cons, hka, hk]

/-- In the dictionary of a list a name has its last value. -/
theorem get?_ofList (l : List (String × α)) (k : String) :
    (ofList l).get? k = l.reverse.lookup k := by
  rw [ofList, get?_extend_reverse, get?_empty, Option.or_none]

/-- In the dictionary of first values a name has its first value. -/
theorem get?_ofFirsts (l : List (String × α)) (k : String) : (ofFirsts l).get? k = l.lookup k := by
  rw [ofFirsts, get?_extendNew, get?_empty, Option.none_or]

/-! ### Entries and what is found -/

/-- In a list of distinct names every entry is found. -/
theorem lookup_eq_some_iff_mem {l : List (String × α)} (hl : (l.map Prod.fst).Nodup) {k : String}
    {v : α} : l.lookup k = some v ↔ (k, v) ∈ l := by
  induction l with
  | nil => simp
  | cons entry l ih =>
    rcases entry with ⟨a, w⟩
    obtain ⟨ha, hl⟩ := List.nodup_cons.mp hl
    by_cases hk : k = a
    · subst hk
      have hnot : (k, v) ∉ l := fun h => ha (List.mem_map.mpr ⟨(k, v), h, rfl⟩)
      simp [hnot, eq_comm]
    · have hka : (k == a) = false := by simpa using hk
      simp [List.lookup_cons, hka, hk, ih hl]

theorem mem_entries_iff {d : Dict α} {k : String} {v : α} :
    (k, v) ∈ d.entries ↔ d.get? k = some v :=
  (lookup_eq_some_iff_mem d.nodup).symm

theorem mem_of_lookup_eq_some {l : List (String × α)} {k : String} {v : α}
    (h : l.lookup k = some v) : (k, v) ∈ l := by
  induction l with
  | nil => cases h
  | cons entry l ih =>
    rcases entry with ⟨a, w⟩
    rw [List.lookup_cons] at h
    by_cases hk : k = a
    · subst hk
      rw [beq_self_eq_true] at h
      cases h
      exact List.mem_cons_self
    · rw [beq_eq_false_iff_ne.mpr hk] at h
      exact List.mem_cons_of_mem _ (ih h)

theorem mem_of_get?_ofList {l : List (String × α)} {k : String} {v : α}
    (h : (ofList l).get? k = some v) : (k, v) ∈ l := by
  rw [get?_ofList] at h
  exact List.mem_reverse.mp (mem_of_lookup_eq_some h)

theorem get?_ofList_eq_none {l : List (String × α)} {k : String} (h : ∀ v, (k, v) ∉ l) :
    (ofList l).get? k = none :=
  Option.eq_none_iff_forall_ne_some.mpr fun v hv => h v (mem_of_get?_ofList hv)

/-- The value of a name that the list gives one value only. -/
theorem get?_ofList_eq_some {l : List (String × α)} {k : String} {v : α} (hmem : (k, v) ∈ l)
    (hunique : ∀ w, (k, w) ∈ l → w = v) : (ofList l).get? k = some v := by
  rw [get?_ofList]
  cases hlookup : l.reverse.lookup k with
  | none =>
    rw [lookup_eq_none_iff, List.map_reverse, List.mem_reverse] at hlookup
    exact absurd (List.mem_map.mpr ⟨(k, v), hmem, rfl⟩) hlookup
  | some w => rw [hunique w (List.mem_reverse.mp (mem_of_lookup_eq_some hlookup))]

end Dict

end LayerStencil
