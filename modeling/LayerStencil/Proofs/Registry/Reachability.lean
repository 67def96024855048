import LayerStencil.Registry.Closure
import Mathlib.Tactic.Common

/-! # Reachable names

What the closure of the demanded types collects, said without the order of its visits.

* `Reachable`: the names of a queue, and the names that entries of reachable names refer to.
* `mem_reach_iff`: in a graph whose entries have distinct names, `reach` lists the reachable names.
* `RegistryIndex.mem_requiredTypes_iff`: the required types are those that the demands reach. -/

namespace LayerStencil

/-- A name of the queue, or one that the entry of a reachable name refers to. -/
inductive Reachable (g : References) (queue : List String) : String → Prop where
  | queued {name : String} (h : name ∈ queue) : Reachable g queue name
  | next {name other : String} {refs : List String} (h : Reachable g queue name)
    (hrefs : g.lookup name = some refs) (hother : other ∈ refs) : Reachable g queue other

/-- The entries of the graph have distinct names. -/
def References.Distinct (g : References) : Prop := (g.map Prod.fst).Nodup

namespace References

variable {g : References} {name : String}

theorem Distinct.without (h : g.Distinct) (name : String) : (g.without name).Distinct :=
  h.sublist ((List.eraseP_sublist).map Prod.fst)

/-- An entry that is taken out is no longer found, and all others are. -/
theorem Distinct.lookup_without (h : g.Distinct) (name other : String) :
    (g.without name).lookup other = if other = name then none else g.lookup other := by
  induction g with
  | nil => simp [References.without]
  | cons e g ih =>
    obtain ⟨hnew, hg⟩ := List.nodup_cons.mp h
    by_cases he : e.1 = name
    · subst he
      have hwithout : References.without (e :: g) e.1 = g := by
        simp [References.without]
      rw [hwithout]
      by_cases hother : other = e.1
      · subst hother
        rw [if_pos rfl]
        exact (Dict.lookup_eq_none_iff g _).mpr hnew
      · rw [if_neg hother, List.lookup_cons, beq_eq_false_iff_ne.mpr hother]
    · have hwithout : References.without (e :: g) name = e :: References.without g name := by
        simp [References.without, he]
      rw [hwithout, List.lookup_cons, List.lookup_cons, ih hg]
      by_cases hother : other = e.1
      · subst hother
        simp [he]
      · rw [beq_eq_false_iff_ne.mpr hother]

end References

namespace Reachable

variable {g : References} {name n : String} {rest refs : List String}

theorem mono {queue queue' : List String} (h : Reachable g queue n)
    (hqueue : ∀ m ∈ queue, Reachable g queue' m) : Reachable g queue' n := by
  induction h with
  | queued h => exact hqueue _ h
  | next _ hrefs hother ih => exact next ih hrefs hother

theorem cons_iff_of_lookup_eq_none (h : g.lookup name = none) :
    Reachable g (name :: rest) n ↔ n = name ∨ Reachable g rest n := by
  constructor
  · intro hn
    induction hn with
    | queued hmem => exact (List.mem_cons.mp hmem).imp_right queued
    | next _ hrefs hother ih =>
      rcases ih with rfl | ih
      · rw [h] at hrefs; cases hrefs
      · exact Or.inr (next ih hrefs hother)
  · rintro (rfl | hn)
    · exact queued List.mem_cons_self
    · exact hn.mono fun m hm => queued (List.mem_cons_of_mem _ hm)

/-- Once the first name of the queue has been visited, its entry is no longer needed. -/
theorem cons_iff_of_lookup_eq_some (hg : g.Distinct) (h : g.lookup name = some refs) :
    Reachable g (name :: rest) n ↔ n = name ∨ Reachable (g.without name) (refs ++ rest) n := by
  constructor
  · intro hn
    induction hn with
    | queued hmem =>
      exact (List.mem_cons.mp hmem).imp_right fun hmem => queued (List.mem_append_right _ hmem)
    | @next m other refs' _ hrefs hother ih =>
      by_cases hm : m = name
      · subst hm
        obtain rfl : refs = refs' := by rw [h] at hrefs; cases hrefs; rfl
        exact Or.inr (queued (List.mem_append_left _ hother))
      · refine Or.inr (next (ih.resolve_left hm) ?_ hother)
        rw [hg.lookup_without, if_neg hm]
        exact hrefs
  · have hname : Reachable g (name :: rest) name := queued List.mem_cons_self
    rintro (rfl | hn)
    · exact hname
    · induction hn with
      | queued hmem =>
        rcases List.mem_append.mp hmem with hmem | hmem
        · exact next hname h hmem
        · exact queued (List.mem_cons_of_mem _ hmem)
      | @next m other refs' _ hrefs hother ih =>
        rw [hg.lookup_without] at hrefs
        split_ifs at hrefs
        exact next ih hrefs hother

end Reachable

/-- **The names that `reach` lists** are the reachable ones. -/
theorem mem_reach_iff {g : References} (hg : g.Distinct) (queue : List String) (n : String) :
    n ∈ reach g queue ↔ Reachable g queue n := by
  induction g, queue using reach.induct with
  | case1 g =>
    rw [reach]
    refine ⟨nofun, fun h => ?_⟩
    induction h with
    | queued h => exact h
    | next _ _ _ ih => cases ih
  | case2 g name rest h ih =>
    rw [reach]
    split
    · rw [List.mem_cons, ih hg, Reachable.cons_iff_of_lookup_eq_none h]
    · rename_i h'; rw [h] at h'; cases h'
  | case3 g name rest refs h _ ih =>
    rw [reach]
    split
    · rename_i h'; rw [h] at h'; cases h'
    · rename_i refs' h'
      obtain rfl : refs = refs' := by rw [h] at h'; cases h'; rfl
      rw [List.mem_cons, ih (hg.without name), Reachable.cons_iff_of_lookup_eq_some hg h]

/-! ### Required types -/

namespace RegistryIndex

variable {c : Convention} {x : RegistryIndex}

theorem distinct_references (c : Convention) (x : RegistryIndex) : (x.references c).Distinct := by
  have hnames : (x.references c).map Prod.fst = x.types.entries.map Prod.fst := by
    rw [references, List.map_map]; rfl
  rw [References.Distinct, hnames]
  exact x.types.nodup

theorem lookup_references (name : String) :
    (x.references c).lookup name = (x.types.get? name).map (TypeEntry.references c) := by
  rw [references, Dict.get?]
  induction x.types.entries with
  | nil => rfl
  | cons e entries ih =>
    rw [List.map_cons, List.lookup_cons, List.lookup_cons, ih]
    cases name == e.1 <;> rfl

/-- The names that demands list as types, and those that the demanded commands refer to. -/
def demandedTypes (x : RegistryIndex) (ds : List Demand) : List String :=
  (Demand.types ds).toList ++ (Demand.commands ds).toList.flatMap x.commandReferences

/-- **The required types** are those that the demands reach. -/
theorem mem_requiredTypes_iff {ds : List Demand} {name : String} :
    name ∈ x.requiredTypes c ds ↔ Reachable (x.references c) (x.demandedTypes ds) name :=
  mem_reach_iff (distinct_references c x) _ name

theorem mem_requiredTypes_of_reference {ds : List Demand} {name other : String} {t : TypeEntry}
    (hname : name ∈ x.requiredTypes c ds) (ht : x.types.get? name = some t)
    (hother : other ∈ t.references c) : other ∈ x.requiredTypes c ds := by
  refine mem_requiredTypes_iff.mpr (.next (mem_requiredTypes_iff.mp hname) ?_ hother)
  rw [lookup_references, ht, Option.map_some]

theorem mem_requiredTypes_of_command {ds : List Demand} {command other : String}
    (hcommand : command ∈ Demand.commands ds) (hother : other ∈ x.commandReferences command) :
    other ∈ x.requiredTypes c ds :=
  mem_requiredTypes_iff.mpr
    (.queued (List.mem_append_right _ (List.mem_flatMap_of_mem hcommand hother)))

end RegistryIndex

end LayerStencil
