import LayerStencil.Proofs.Registry.Gating
import LayerStencil.Proofs.Registry.Inventory
import LayerStencil.Proofs.Registry.Signature

/-! # The least set of types

The types that a model requires are the least set that has the listed types, the types of the listed
commands and, with a type, whatever its entry refers to. The search for them ends: it takes one turn
for every name that comes into its queue, and an entry puts its references there once.

* `Registry.IsClosed`: what such a set has to contain, reference by reference.
* `TypeEntry.mem_references_iff`, `RegistryIndex.mem_commandReferences_iff`: the references of an
  entry and of a command.
* `length_reach`: how many turns a search takes.
* `Registry.isLeast_requiredTypes`: the required types are the least closed set. -/

namespace LayerStencil

/-! ### Turns of a search -/

theorem References.perm_without {g : References} {name : String} {refs : List String}
    (h : g.lookup name = some refs) : g.Perm ((name, refs) :: g.without name) := by
  induction g with
  | nil => cases h
  | cons e g ih =>
    by_cases he : e.1 = name
    · subst he
      rw [List.lookup_cons, beq_self_eq_true] at h
      cases h
      simp [References.without]
    · rw [List.lookup_cons, beq_eq_false_iff_ne.mpr (Ne.symm he)] at h
      have hwithout : References.without (e :: g) name = e :: References.without g name := by
        simp [References.without, he]
      rw [hwithout]
      exact ((ih h).cons e).trans (.swap _ _ _)

/-- The references of the entries of some names. -/
def References.of (g : References) (names : List String) : List String :=
  (g.filter fun e => names.contains e.1).flatMap Prod.snd

namespace References

variable {g : References} {name : String} {names refs : List String}

/-- A name without an entry has no references. -/
theorem of_cons_of_lookup_eq_none (h : g.lookup name = none) :
    g.of (name :: names) = g.of names := by
  have hnew : name ∉ g.map Prod.fst := (Dict.lookup_eq_none_iff g name).mp h
  have hfilter : (g.filter fun e => (name :: names).contains e.1) =
      g.filter fun e => names.contains e.1 := by
    refine List.filter_congr fun e he => ?_
    have hne : e.1 ≠ name := fun heq => hnew (List.mem_map.mpr ⟨e, he, heq⟩)
    simp [hne]
  rw [of, of, hfilter]

/-- A name with an entry has the references of this entry and of no other one. -/
theorem of_cons_of_lookup_eq_some (hg : g.Distinct) (h : g.lookup name = some refs) :
    (g.of (name :: names)).Perm (refs ++ (g.without name).of names) := by
  have hnew : (g.without name).lookup name = none := by rw [hg.lookup_without, if_pos rfl]
  have hperm := ((perm_without h).filter fun e => (name :: names).contains e.1).flatMap_right
    Prod.snd
  rw [List.filter_cons_of_pos (by simp), List.flatMap_cons] at hperm
  exact of_cons_of_lookup_eq_none hnew ▸ hperm

end References

/-- **The turns of a search**: it visits what is queued at first, and once for every entry of a name
that it visits what the entry refers to. -/
theorem length_reach {g : References} (hg : g.Distinct) (queue : List String) :
    (reach g queue).length = queue.length + (g.of (reach g queue)).length := by
  induction g, queue using reach.induct with
  | case1 g =>
    rw [reach]
    simp [References.of]
  | case2 g name rest h ih =>
    have hstep : reach g (name :: rest) = name :: reach g rest := by
      rw [reach]
      split
      · rfl
      · rename_i h'; rw [h] at h'; cases h'
    rw [hstep, References.of_cons_of_lookup_eq_none h, List.length_cons, List.length_cons,
      ih hg]
    omega
  | case3 g name rest refs h _ ih =>
    have hstep : reach g (name :: rest) = name :: reach (g.without name) (refs ++ rest) := by
      rw [reach]
      split
      · rename_i h'; rw [h] at h'; cases h'
      · rename_i refs' h'
        obtain rfl : refs = refs' := by rw [h] at h'; cases h'; rfl
        rfl
    rw [hstep, (References.of_cons_of_lookup_eq_some hg h).length_eq, List.length_cons,
      List.length_cons, ih (hg.without name), List.length_append, List.length_append]
    omega

/-! ### References of entries and commands -/

section References
variable {c : Convention} {r : Registry}

theorem TypeEntry.mem_references_iff {t : TypeEntry} {other : String} :
    other ∈ t.references c ↔ t.requires = some other ∨ t.aliasOf = some other ∨
      t.bitValues = some other ∨
      (∃ m ∈ t.members, c.applies m.apis ∧ m.types.head? = some other) ∨
      ∃ code, t.code? = some code ∧ other ∈ code.types := by
  unfold TypeEntry.references TypeEntry.members TypeEntry.code?
  cases t.body with
  | none => simp
  | code code => simp
  | members ms => simp [and_assoc]

/-- The definition is the last of the command that a name stands for: the target of the last alias
of the name, or else the name itself. -/
def Registry.Declares (r : Registry) (name : String) (d : CommandDefinition) : Prop :=
  r.HasLastDefinition ((r.namedAliases.reverse.lookup name).getD name) d

theorem RegistryIndex.mem_commandReferences_iff {name other : String} :
    other ∈ (r.index c).commandReferences name ↔ ∃ d, r.Declares name d ∧
      (d.proto.type = some other ∨ ∃ p ∈ d.parameters, p.declaration.type = some other) := by
  have haliases : (r.index c).commandAliases.get? name = r.namedAliases.reverse.lookup name :=
    Dict.get?_ofList _ name
  have hreferences : ∀ d : CommandDefinition, other ∈ d.references ↔
      d.proto.type = some other ∨ ∃ p ∈ d.parameters, p.declaration.type = some other := by
    intro d
    rw [CommandDefinition.references, List.mem_append, Option.mem_toList, List.mem_filterMap]
  rw [commandReferences, haliases]
  cases hget : (r.index c).definitions.get? ((r.namedAliases.reverse.lookup name).getD name) with
  | none =>
    have hnone : ∀ d, ¬ r.Declares name d := by
      intro d hd
      rw [Registry.Declares, Registry.hasLastDefinition_iff (c := c), hget] at hd
      cases hd
    simp [hnone]
  | some d =>
    have hsome : r.Declares name d := Registry.hasLastDefinition_iff.mpr hget
    have hunique : ∀ d', r.Declares name d' → d = d' := fun d' hd' =>
      Option.some.inj (hsome.symm.trans hd')
    constructor
    · exact fun hother => ⟨d, hsome, (hreferences d).mp hother⟩
    · rintro ⟨d', hd', hother⟩
      obtain rfl := hunique d' hd'
      exact (hreferences d).mpr hother

end References

/-! ### Closed sets -/

namespace Registry

/-- The set has the types that the chosen features and extensions list, and the types of the result
and of the parameters of every listed command; and with the name of an entry it has what the entry
requires, stands for and has its bits in, the first type of each of its members that apply to the
API, and all types of its code. -/
structure IsClosed (c : Convention) (s : Selection) (r : Registry) (S : Set String) : Prop where
  listed : ∀ name, r.Lists c s (.type name) → name ∈ S
  result : ∀ command d type, r.Lists c s (.command command) → r.Declares command d →
    d.proto.type = some type → type ∈ S
  parameter : ∀ command d p type, r.Lists c s (.command command) → r.Declares command d →
    p ∈ d.parameters → p.declaration.type = some type → type ∈ S
  requires : ∀ name t other, name ∈ S → r.typeNamed? c name = some t → t.requires = some other →
    other ∈ S
  aliasOf : ∀ name t other, name ∈ S → r.typeNamed? c name = some t → t.aliasOf = some other →
    other ∈ S
  bitValues : ∀ name t other, name ∈ S → r.typeNamed? c name = some t → t.bitValues = some other →
    other ∈ S
  member : ∀ name t m other, name ∈ S → r.typeNamed? c name = some t → m ∈ t.members →
    c.applies m.apis → m.types.head? = some other → other ∈ S
  code : ∀ name t code other, name ∈ S → r.typeNamed? c name = some t → t.code? = some code →
    other ∈ code.types → other ∈ S

variable {c : Convention} {s : Selection} {r : Registry}

theorem isClosed_needs : r.IsClosed c s {name | r.Needs c s name} where
  listed _ h := .listed h
  result _ d _ h hd htype :=
    .command h (RegistryIndex.mem_commandReferences_iff.mpr ⟨d, hd, .inl htype⟩)
  parameter _ d p _ h hd hp htype :=
    .command h (RegistryIndex.mem_commandReferences_iff.mpr ⟨d, hd, .inr ⟨p, hp, htype⟩⟩)
  requires _ _ _ h ht hother := .refers h ht (TypeEntry.mem_references_iff.mpr (.inl hother))
  aliasOf _ _ _ h ht hother :=
    .refers h ht (TypeEntry.mem_references_iff.mpr (.inr (.inl hother)))
  bitValues _ _ _ h ht hother :=
    .refers h ht (TypeEntry.mem_references_iff.mpr (.inr (.inr (.inl hother))))
  member _ _ m _ h ht hm happlies hother := .refers h ht (TypeEntry.mem_references_iff.mpr
    (.inr (.inr (.inr (.inl ⟨m, hm, happlies, hother⟩)))))
  code _ _ code _ h ht hcode hother := .refers h ht (TypeEntry.mem_references_iff.mpr
    (.inr (.inr (.inr (.inr ⟨code, hcode, hother⟩)))))

/-- A closed set has every type that is needed. -/
theorem IsClosed.mem_of_needs {S : Set String} (h : r.IsClosed c s S) {name : String}
    (hname : r.Needs c s name) : name ∈ S := by
  induction hname with
  | listed hlisted => exact h.listed _ hlisted
  | command hlisted hreferred =>
    obtain ⟨d, hd, htype | ⟨p, hp, htype⟩⟩ := RegistryIndex.mem_commandReferences_iff.mp hreferred
    · exact h.result _ d _ hlisted hd htype
    · exact h.parameter _ d p _ hlisted hd hp htype
  | refers _ ht hother ih =>
    rcases TypeEntry.mem_references_iff.mp hother with
      hother | hother | hother | ⟨m, hm, happlies, hother⟩ | ⟨code, hcode, hother⟩
    · exact h.requires _ _ _ ih ht hother
    · exact h.aliasOf _ _ _ ih ht hother
    · exact h.bitValues _ _ _ ih ht hother
    · exact h.member _ _ m _ ih ht hm happlies hother
    · exact h.code _ _ code _ ih ht hcode hother

/-- The references of the required types are those of their entries. -/
theorem references_of_requiredTypes (x : RegistryIndex) (ds : List Demand) :
    (x.references c).of (x.requiredTypes c ds) =
      (x.selectedTypes c ds).flatMap fun e => e.2.references c := by
  rw [References.of, RegistryIndex.references, List.filter_map, List.flatMap_map]
  rfl

/-- **The required types are the least closed set.** The search for them takes one turn for every
name that it starts with and one for every reference of an entry that it requires. -/
theorem isLeast_requiredTypes {entries : List ExtensionEntry}
    (hentries : r.extensions? = some entries) :
    IsLeast {S | r.IsClosed c s S}
      {name | name ∈ (r.index c).requiredTypes c (r.demandsOf c s entries)} ∧
    ((r.index c).requiredTypes c (r.demandsOf c s entries)).length =
      ((r.index c).demandedTypes (r.demandsOf c s entries)).length +
        (((r.index c).selectedTypes c (r.demandsOf c s entries)).flatMap
          fun e => e.2.references c).length := by
  have hneeds : {name | name ∈ (r.index c).requiredTypes c (r.demandsOf c s entries)} =
      {name | r.Needs c s name} :=
    Set.ext fun name => mem_requiredTypes_iff_needs (exists_demand_iff hentries)
  refine ⟨?_, ?_⟩
  · rw [hneeds]
    exact ⟨isClosed_needs, fun S hS name hname => hS.mem_of_needs hname⟩
  · rw [← references_of_requiredTypes]
    exact length_reach (RegistryIndex.distinct_references c _) _

/-- A registry with two structs that refer to themselves and to each other. A feature lists an alias
of one of them, and an alias of a command whose result has no entry. -/
def cyclic : Registry where
  parts := [
    .types [
      { (default : TypeEntry) with
        name := some "VkNode"
        category := some "struct"
        body := .members [
          { (default : MemberEntry) with types := ["VkNode"] },
          { (default : MemberEntry) with types := ["VkEdge", "VkUnused"] },
          { (default : MemberEntry) with apis := some "vulkansc", types := ["VkSafety"] }] },
      { (default : TypeEntry) with
        name := some "VkEdge"
        category := some "struct"
        body := .members [{ (default : MemberEntry) with types := ["VkNode"] }] },
      { (default : TypeEntry) with name := some "VkNodeKHR", aliasOf := some "VkNode" }],
    .commands [
      .definition ⟨⟨"vkWalk", some "VkResult", "VkResult vkWalk"⟩,
        [⟨⟨"edge", some "VkEdge", "VkEdge edge"⟩, none, none, none⟩]⟩,
      .aliasOf "vkWalkKHR" "vkWalk"],
    .feature ⟨"vulkan", "VK_VERSION_1_0", [⟨none, [.type "VkNodeKHR", .command "vkWalkKHR"]⟩]⟩,
    .extensions []]

/-- The search visits the structs more than once and follows their members once. -/
theorem isLeast_requiredTypes_cyclic : cyclic.extensions? = some [] ∧
    (cyclic.index Vulkan.convention).requiredTypes Vulkan.convention
      (cyclic.demandsOf Vulkan.convention .default []) =
        ["VkNodeKHR", "VkNode", "VkNode", "VkEdge", "VkNode", "VkResult", "VkEdge"] ∧
    IsLeast {S | cyclic.IsClosed Vulkan.convention .default S}
      {name | name ∈ (cyclic.index Vulkan.convention).requiredTypes Vulkan.convention
        (cyclic.demandsOf Vulkan.convention .default [])} :=
  ⟨rfl, by decide +kernel, (isLeast_requiredTypes rfl).1⟩

end Registry

end LayerStencil
