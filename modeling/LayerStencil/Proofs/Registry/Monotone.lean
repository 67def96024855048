import LayerStencil.Proofs.Registry.Gating
import LayerStencil.Proofs.Registry.Inventory

/-! # Larger selections

A selection that chooses more demands more, needs more types and builds a larger model. The lists of
the models are filters of the same list of the registry, so that the order does not change.

* `Registry.ChoosesLess`: one selection chooses nothing that another one does not choose.
* `Registry.Lists.mono`, `Registry.Needs.mono`: what the smaller selection lists and needs, the
  larger one does as well.
* `Registry.exists_optionLists`: the options of enums and bitmasks come from the block of the name
  and from the demands.
* `Registry.names_sublist_of_build`: every list of the smaller model is a part of that of the larger
  one, and no enum or bitmask loses an option. -/

namespace LayerStencil

/-! ### What a larger selection demands -/

namespace Registry

/-- Whatever feature or extension of the registry the first selection chooses, the second one does
as well. -/
structure ChoosesLess (c : Convention) (r : Registry) (s s' : Selection) : Prop where
  features : ∀ f ∈ r.features, c.isListed f.apis → s.includesFeature f.name →
    s'.includesFeature f.name
  extensions : ∀ entries, r.extensions? = some entries → ∀ e ∈ entries, e.isChosen s →
    e.isChosen s'

variable {c : Convention} {s s' : Selection} {r : Registry}

theorem Lists.mono (hless : r.ChoosesLess c s s') {item : RequiredItem}
    (h : r.Lists c s item) : r.Lists c s' item := by
  rcases h with ⟨f, hf, hlisted, hincluded, hitem⟩ | ⟨entries, hentries, e, he, hchosen, hitem⟩
  · exact .inl ⟨f, hf, hlisted, hless.features f hf hlisted hincluded, hitem⟩
  · exact .inr ⟨entries, hentries, e, he, hless.extensions entries hentries e he hchosen, hitem⟩

theorem Needs.mono (hless : r.ChoosesLess c s s') {name : String} (h : r.Needs c s name) :
    r.Needs c s' name := by
  induction h with
  | listed h => exact .listed (h.mono hless)
  | command h hname => exact .command (h.mono hless) hname
  | refers _ ht hother ih => exact .refers ih ht hother

theorem demandsOf_subset (hless : r.ChoosesLess c s s') {entries : List ExtensionEntry}
    (hentries : r.extensions? = some entries) :
    r.demandsOf c s entries ⊆ r.demandsOf c s' entries := by
  have hfeatures : r.chosenFeatures c s ⊆ r.chosenFeatures c s' := by
    intro f hf
    obtain ⟨hf, hchosen⟩ := List.mem_filter.mp hf
    obtain ⟨hlisted, hincluded⟩ := Bool.and_eq_true_iff.mp hchosen
    have hincluded' := hless.features f hf hlisted hincluded
    exact List.mem_filter.mpr ⟨hf, Bool.and_eq_true_iff.mpr ⟨hlisted, hincluded'⟩⟩
  have hextensions : entries.filter (·.isChosen s) ⊆ entries.filter (·.isChosen s') := by
    intro e he
    obtain ⟨he, hchosen⟩ := List.mem_filter.mp he
    exact List.mem_filter.mpr ⟨he, hless.extensions entries hentries e he hchosen⟩
  intro d hd
  rcases List.mem_append.mp hd with hd | hd
  · obtain ⟨f, hf, hd⟩ := List.mem_flatMap.mp hd
    exact List.mem_append_left _ (List.mem_flatMap_of_mem (hfeatures hf) hd)
  · obtain ⟨e, he, hd⟩ := List.mem_flatMap.mp hd
    exact List.mem_append_right _ (List.mem_flatMap_of_mem (hextensions he) hd)

end Registry

/-! ### Parts of lists -/

open Classical in
/-- More names satisfy a weaker condition, and they come in the same order. -/
theorem firstsWith_sublist {P Q : String → Prop} (h : ∀ name, P name → Q name)
    (names : List String) : (firstsWith P names).Sublist (firstsWith Q names) := by
  refine List.monotone_filter_right _ fun name hname => ?_
  exact decide_eq_true (h name (of_decide_eq_true hname))

theorem filter_sublist_filter {α : Type} {p q : α → Bool} {l : List α}
    (h : ∀ a ∈ l, p a → q a) : (l.filter p).Sublist (l.filter q) := by
  have hboth : l.filter p = (l.filter q).filter p := by
    rw [List.filter_filter]
    refine List.filter_congr fun a ha => ?_
    cases hp : p a with
    | false => rfl
    | true => rw [h a ha hp]; rfl
  rw [hboth]
  exact List.filter_sublist

/-! ### Options -/

/-- Leaving out later options of a name leaves every name that is not seen before. -/
theorem EnumOption.mem_names_firsts {name : String} : ∀ {os : List EnumOption} {seen : List String},
    name ∈ (firsts seen os).map EnumOption.name ↔ name ∈ os.map EnumOption.name ∧ name ∉ seen
  | [], seen => by simp [firsts]
  | o :: os, seen => by
    rw [firsts]
    by_cases hseen : seen.contains o.name
    · have hmem : o.name ∈ seen := by simpa using hseen
      rw [if_pos hseen, mem_names_firsts, List.map_cons, List.mem_cons]
      constructor
      · exact fun ⟨hname, hnew⟩ => ⟨.inr hname, hnew⟩
      · rintro ⟨rfl | hname, hnew⟩
        · exact absurd hmem hnew
        · exact ⟨hname, hnew⟩
    · have hnew : o.name ∉ seen := by simpa using hseen
      rw [if_neg hseen, List.map_cons, List.mem_cons, mem_names_firsts, List.map_cons,
        List.mem_cons, List.mem_cons]
      by_cases hname : name = o.name
      · subst hname; simp [hnew]
      · simp [hname]

/-- More demands add no fewer options. -/
theorem ValueBlock.names_options_subset {c : Convention} {x : RegistryIndex} {ds ds' : List Demand}
    (hds : ds ⊆ ds') (b : ValueBlock) (name : String) :
    (b.options c x ds name).map EnumOption.name ⊆ (b.options c x ds' name).map EnumOption.name := by
  intro option hoption
  rw [options, EnumOption.mem_names_firsts, List.map_append, List.mem_append] at hoption ⊢
  refine hoption.imp_left fun hmem => hmem.imp_right fun hadded => ?_
  have hsubset : Demand.options c x name ds ⊆ Demand.options c x name ds' :=
    List.filterMap_subset _ hds
  exact List.map_subset _ hsubset hadded

/-- What has a name and options takes the options from the block of values of its name and from
demands. -/
def ValueBlock.Supplies {α : Type} (c : Convention) (x : RegistryIndex) (ds : List Demand)
    (name : α → String) (options : α → List EnumOption) (a : α) : Prop :=
  ∃ b, x.blocks.get? (name a) = some b ∧ options a = b.options c x ds (name a)

/-- If more is demanded, then what has the same name keeps the names of the options. -/
theorem ValueBlock.Supplies.exists_wider {α : Type} {c : Convention} {x : RegistryIndex}
    {ds ds' : List Demand} {name : α → String} {options : α → List EnumOption} {l l' : List α}
    {a : α} (h : Supplies c x ds name options a) (h' : ∀ a' ∈ l', Supplies c x ds' name options a')
    (hds : ds ⊆ ds') (hnames : (l.map name).Sublist (l'.map name)) (ha : a ∈ l) :
    ∃ a' ∈ l', name a' = name a ∧
      (options a).map EnumOption.name ⊆ (options a').map EnumOption.name := by
  obtain ⟨a', ha', hname⟩ := List.mem_map.mp (hnames.subset (List.mem_map_of_mem ha))
  obtain ⟨b, hb, hoptions⟩ := h
  obtain ⟨b', hb', hoptions'⟩ := h' a' ha'
  rw [hname] at hb' hoptions'
  obtain rfl : b = b' := Option.some.inj (hb.symm.trans hb')
  refine ⟨a', ha', hname, ?_⟩
  rw [hoptions, hoptions']
  exact b.names_options_subset hds (name a)

namespace BuiltType

/-- The name and the options of an enum or bitmask. -/
def optionList? : BuiltType → Option (String × List EnumOption)
  | enum e => some (e.name, e.options)
  | bitmask b => some (b.name, b.options)
  | _ => none

variable {c : Convention} {x : RegistryIndex} {ds : List Demand} {name : String}

/-- The options of an enum or bitmask are those of the block of its name. -/
theorem optionList?_ofEntry {t : TypeEntry} {built : BuiltType}
    (h : BuiltType.ofEntry c x ds name t = .ok built) {entry : String × List EnumOption}
    (hentry : built.optionList? = some entry) :
    entry.1 = name ∧ ∃ b, x.blocks.get? name = some b ∧ entry.2 = b.options c x ds name := by
  unfold BuiltType.ofEntry at h
  split at h
  case h_1 => cases h; cases hentry
  case h_2 =>
    split at h
    case h_1 => obtain ⟨s, -, rfl⟩ := exists_of_map_eq_ok h; cases hentry
    case h_2 => obtain ⟨u, -, rfl⟩ := exists_of_map_eq_ok h; cases hentry
    case h_7 =>
      cases h
      unfold BuiltType.ofBlock at hentry
      split at hentry
      · cases hentry
      · rename_i b hb
        split_ifs at hentry <;> cases hentry <;> exact ⟨rfl, b, hb, rfl⟩
    case h_9 => split_ifs at h <;> cases h <;> cases hentry
    all_goals cases h; cases hentry

end BuiltType

namespace Registry

variable {c : Convention} {s s' : Selection} {r : Registry} {m m' : Model}

/-- The options of the enums and bitmasks of a model come from the blocks of their names and from
what the selection demands; the constants come from the registry. -/
theorem exists_optionLists (h : r.build c s = .ok m) : ∃ entries, r.extensions? = some entries ∧
    (∀ e ∈ m.enums, ValueBlock.Supplies c (r.index c) (r.demandsOf c s entries) Enum.name
      Enum.options e) ∧
    (∀ b ∈ m.bitmasks, ValueBlock.Supplies c (r.index c) (r.demandsOf c s entries) Bitmask.name
      Bitmask.options b) ∧
    m.constants = (r.index c).constants c := by
  unfold build at h
  dsimp only at h
  split at h
  case h_2 => cases h
  rename_i entries hentries
  obtain ⟨_, ⟨⟩, h⟩ := exists_of_bind_eq_ok h
  obtain ⟨types, htypes, h⟩ := exists_of_bind_eq_ok h
  obtain ⟨commands, -, h⟩ := exists_of_bind_eq_ok h
  cases h
  have hblock : ∀ built ∈ types.map Prod.snd, ∀ entry, built.optionList? = some entry →
      ∃ b, (r.index c).blocks.get? entry.1 = some b ∧
        entry.2 = b.options c (r.index c) (r.demandsOf c s entries) entry.1 := by
    intro built hbuilt entry hentry
    obtain ⟨⟨name, _⟩, hmem, rfl⟩ := List.mem_map.mp hbuilt
    obtain ⟨t, -, -, hofEntry⟩ := (RegistryIndex.mem_builtTypes_iff htypes).1 _ _ hmem
    obtain ⟨rfl, hblock⟩ := BuiltType.optionList?_ofEntry hofEntry hentry
    exact hblock
  refine ⟨entries, hentries, fun e he => ?_, fun e he => ?_, rfl⟩
  · obtain ⟨built, hbuilt, hpick⟩ := List.mem_filterMap.mp he
    split at hpick <;> cases hpick
    exact hblock _ hbuilt (e.name, e.options) rfl
  · obtain ⟨built, hbuilt, hpick⟩ := List.mem_filterMap.mp he
    split at hpick <;> cases hpick
    exact hblock _ hbuilt (e.name, e.options) rfl

/-! ### The larger model -/

/-- The extensions of the larger model include those of the smaller one. -/
theorem extensions_sublist_of_build (hless : r.ChoosesLess c s s') (h : r.build c s = .ok m)
    (h' : r.build c s' = .ok m') : m.extensions.Sublist m'.extensions := by
  obtain ⟨entries, hentries, hextensions, -⟩ := exists_extensions h
  obtain ⟨entries', hentries', hextensions', -⟩ := exists_extensions h'
  obtain rfl : entries = entries' := Option.some.inj (hentries ▸ hentries')
  rw [hextensions, hextensions']
  exact (filter_sublist_filter (hless.extensions entries hentries)).map _

/-- **Selecting more removes nothing.** If no command has the name of a type and one selection
chooses whatever another one chooses, then the names that the larger model lists include those of
the smaller one, kind by kind and in the same order; every enum and bitmask of the smaller model
keeps the names of its options, and the constants are the same. -/
theorem names_sublist_of_build
    (hdisjoint : ∀ e ∈ r.commands, e.name ∉ (r.namedTypes c).map Prod.fst)
    (hless : r.ChoosesLess c s s') (h : r.build c s = .ok m) (h' : r.build c s' = .ok m') :
    (∀ kind ∈ .command :: .extension :: Kind.ofTypes, (m.names kind).Sublist (m'.names kind)) ∧
    (∀ e ∈ m.enums, ∃ e' ∈ m'.enums, e'.name = e.name ∧
      e.options.map EnumOption.name ⊆ e'.options.map EnumOption.name) ∧
    (∀ b ∈ m.bitmasks, ∃ b' ∈ m'.bitmasks, b'.name = b.name ∧
      b.options.map EnumOption.name ⊆ b'.options.map EnumOption.name) ∧
    m.constants = m'.constants := by
  obtain ⟨ds, types, hproduction⟩ := exists_production h
  obtain ⟨ds', types', hproduction'⟩ := exists_production h'
  obtain ⟨entries, hentries, henums, hbitmasks, hconstants⟩ := exists_optionLists h
  obtain ⟨entries', hentries', henums', hbitmasks', hconstants'⟩ := exists_optionLists h'
  obtain rfl : entries = entries' := Option.some.inj (hentries ▸ hentries')
  have hdemands := demandsOf_subset hless hentries
  have hcommands : (m.names .command).Sublist (m'.names .command) := by
    rw [hproduction.names_commands hdisjoint, hproduction'.names_commands hdisjoint]
    exact firstsWith_sublist (fun _ => And.imp_left (Lists.mono hless)) _
  have hextensions : (m.names .extension).Sublist (m'.names .extension) :=
    ((extensions_sublist_of_build hless h h').map Item.extension).map Item.name
  have htypes : ∀ kind ∈ Kind.ofTypes, (m.names kind).Sublist (m'.names kind) := by
    intro kind hkind
    rw [hproduction.names_types hkind, hproduction'.names_types hkind]
    exact firstsWith_sublist (fun _ => And.imp_left (Needs.mono hless)) _
  refine ⟨?_, fun e he => ?_, fun b hb => ?_, hconstants.trans hconstants'.symm⟩
  · exact List.forall_mem_cons.mpr ⟨hcommands, List.forall_mem_cons.mpr ⟨hextensions, htypes⟩⟩
  · have hnames := htypes .enum (by decide)
    simp only [Model.names, Model.items, List.map_map] at hnames
    exact (henums e he).exists_wider henums' hdemands hnames he
  · have hnames := htypes .bitmask (by decide)
    simp only [Model.names, Model.items, List.map_map] at hnames
    exact (hbitmasks b hb).exists_wider hbitmasks' hdemands hnames hb

/-- The extensions of `extended`: one that adds a command, its type and a value of an enum. -/
def extensionsOfMode : List ExtensionEntry := [
  ⟨"VK_KHR_stop", some 2, none, none, some "vulkan", [⟨none, [
    .command "vkStop", .type "VkStopInfo",
    .value ⟨"VK_MODE_STOP", none, .offset 0 "VkMode" none true⟩]⟩]⟩]

/-- A registry whose extension adds to an enum that a feature needs. -/
def extended : Registry where
  parts := [
    .types ({ (default : TypeEntry) with
      name := some "VkStopInfo", category := some "struct" } :: typesOfMode),
    .values ⟨some "VkMode", some "enum", none, [⟨"VK_MODE_RUN", none, .literal "0" none⟩]⟩,
    .commands [.definition ⟨⟨"vkStop", some "void", "void vkStop"⟩, []⟩,
      .definition commandOfMode],
    .feature ⟨"vulkan", "VK_VERSION_1_0", [⟨none, [.command "vkRun"]⟩]⟩,
    .extensions extensionsOfMode]

/-- With the extension there are a command before and a struct before those of the feature, and an
option after that of the block. -/
theorem names_sublist_of_build_extended : ∃ s m m',
    extended.ChoosesLess Vulkan.convention s .default ∧
    extended.build Vulkan.convention s = .ok m ∧
    extended.build Vulkan.convention .default = .ok m' ∧
    m.names .command = ["vkRun"] ∧ m'.names .command = ["vkStop", "vkRun"] ∧
    m'.enums.map (fun e => e.options.map EnumOption.name) = [["VK_MODE_RUN", "VK_MODE_STOP"]] ∧
    (m.names .struct).Sublist (m'.names .struct) ∧
    (∀ e ∈ m.enums, ∃ e' ∈ m'.enums, e'.name = e.name ∧
      e.options.map EnumOption.name ⊆ e'.options.map EnumOption.name) := by
  have hdisjoint : ∀ e ∈ extended.commands,
      e.name ∉ (extended.namedTypes Vulkan.convention).map Prod.fst := by decide +kernel
  have hless : extended.ChoosesLess Vulkan.convention ⟨none, none, none, none, none⟩ .default := by
    refine ⟨fun f _ _ _ => rfl, fun entries hentries => ?_⟩
    obtain rfl : extensionsOfMode = entries := Option.some.inj hentries
    decide +kernel
  have hbuilt : (extended.build Vulkan.convention ⟨none, none, none, none, none⟩).map
      (Model.names · .command) = .ok ["vkRun"] := by decide +kernel
  have hbuilt' : (extended.build Vulkan.convention .default).map (fun m =>
      (m.names .command, m.enums.map fun e => e.options.map EnumOption.name)) =
        .ok (["vkStop", "vkRun"], [["VK_MODE_RUN", "VK_MODE_STOP"]]) := by decide +kernel
  obtain ⟨m, hm, hnames⟩ := exists_of_map_eq_ok hbuilt
  obtain ⟨m', hm', hlists⟩ := exists_of_map_eq_ok hbuilt'
  obtain ⟨hnames', hoptions⟩ := Prod.mk.inj hlists
  obtain ⟨hkinds, henums, -⟩ := names_sublist_of_build hdisjoint hless hm hm'
  exact ⟨_, m, m', hless, hm, hm', hnames, hnames', hoptions, hkinds .struct (by decide), henums⟩

end Registry

end LayerStencil
