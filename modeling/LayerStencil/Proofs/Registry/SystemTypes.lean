import LayerStencil.Proofs.Registry.Gating
import LayerStencil.Proofs.Registry.Inventory
import Mathlib.Data.List.Flatten
import Mathlib.Data.List.ProdSigma

/-! # System types

A model lists a platform type with every extension that uses it. The types are names of the
registry: those that a header declares, and those that a macro declares as far as the registry has
them.

* `Registry.FromHeader`: a type without category that requires a header, the platform header apart.
* `Model.UsesDirectly`: an extension contributes a struct or a command that has the type itself or a
  pointer to it.
* `Model.extensionUses_iff`, `RegistryIndex.mem_platformTypes_iff`: what is searched, said without
  the search.
* `Registry.systemTypes_of_build`: which pairs of a type and an extension a model lists, and in
  which order. -/

namespace LayerStencil

/-! ### What is found by its name -/

/-- In a list of distinct names an element is found by its name. -/
theorem find?_name_eq_some_iff {α : Type} {name : α → String} {l : List α}
    (hl : (l.map name).Nodup) {n : String} {a : α} :
    l.find? (fun a => name a = n) = some a ↔ a ∈ l ∧ name a = n := by
  constructor
  · intro h
    exact ⟨List.mem_of_find?_eq_some h, by simpa using List.find?_some h⟩
  · rintro ⟨ha, rfl⟩
    cases hfind : l.find? fun b => name b = name a with
    | none => simpa using List.find?_eq_none.mp hfind a ha
    | some b =>
      have hname : name b = name a := by simpa using List.find?_some hfind
      rw [List.inj_on_of_nodup_map hl (List.mem_of_find?_eq_some hfind) ha hname]

/-! ### Uses of a type -/

/-- The declaration has the type itself or a pointer to it. -/
def Declaration.IsOf (d : Declaration) (type : String) : Prop :=
  d.baseType = type ∧ d.pointerLevel ≤ 1

/-- A struct of the model that the extension lists has a member of the type, or a command of the
model that it lists has a parameter of the type. -/
def Model.UsesDirectly (m : Model) (e : Extension) (type : String) : Prop :=
  (∃ s ∈ m.structs, s.name ∈ e.types ∧ ∃ mem ∈ s.members, mem.declaration.IsOf type) ∨
    ∃ cmd ∈ m.commands, cmd.name ∈ e.commands ∧ ∃ p ∈ cmd.parameters, p.declaration.IsOf type

instance (d : Declaration) (type : String) : Decidable (d.IsOf type) :=
  inferInstanceAs (Decidable (_ ∧ _))

instance (m : Model) (e : Extension) (type : String) : Decidable (m.UsesDirectly e type) :=
  inferInstanceAs (Decidable ((∃ s ∈ m.structs, s.name ∈ e.types ∧
    ∃ mem ∈ s.members, mem.declaration.IsOf type) ∨ ∃ cmd ∈ m.commands, cmd.name ∈ e.commands ∧
      ∃ p ∈ cmd.parameters, p.declaration.IsOf type))

theorem Declaration.usesPlatformType_iff {d : Declaration} {type : String} :
    d.usesPlatformType type ↔ d.IsOf type := by
  simp [usesPlatformType, IsOf]

theorem Model.extensionUses_iff {m : Model} (hstructs : (m.structs.map Struct.name).Nodup)
    (hcommands : (m.commands.map Command.name).Nodup) {e : Extension} {type : String} :
    m.extensionUses e type ↔ m.UsesDirectly e type := by
  have hstruct : ∀ n s, m.struct? n = some s ↔ s ∈ m.structs ∧ s.name = n :=
    fun _ _ => find?_name_eq_some_iff hstructs
  have hcommand : ∀ n cmd, m.command? n = some cmd ↔ cmd ∈ m.commands ∧ cmd.name = n :=
    fun _ _ => find?_name_eq_some_iff hcommands
  simp only [extensionUses, Bool.or_eq_true, List.any_eq_true, List.mem_filterMap, hstruct,
    hcommand, Declaration.usesPlatformType_iff, OrderedSet.mem_toList]
  constructor
  · rintro (⟨s, ⟨_, hs, hmem, rfl⟩, huse⟩ | ⟨cmd, ⟨_, hcmd, hmem, rfl⟩, huse⟩)
    · exact .inl ⟨s, hmem, hs, huse⟩
    · exact .inr ⟨cmd, hmem, hcmd, huse⟩
  · rintro (⟨s, hmem, hs, huse⟩ | ⟨cmd, hmem, hcmd, huse⟩)
    · exact .inl ⟨s, ⟨_, hs, hmem, rfl⟩, huse⟩
    · exact .inr ⟨cmd, ⟨_, hcmd, hmem, rfl⟩, huse⟩

/-! ### Platform types -/

namespace Registry

/-- The entry of the type has no category and requires a header other than the platform header,
which is a type of the category of headers that applies to the API. -/
def FromHeader (c : Convention) (r : Registry) (name : String) : Prop :=
  ∃ t header, r.typeNamed? c name = some t ∧ t.category = none ∧ t.requires = some header ∧
    header ≠ c.platformHeader ∧
    ∃ i ∈ r.types, c.applies i.apis ∧ i.category = some "include" ∧ i.name? = some header

variable {c : Convention} {s : Selection} {r : Registry} {m : Model}

theorem mem_includes_iff {header : String} : header ∈ (r.index c).includes ↔
    ∃ i ∈ r.types, c.applies i.apis ∧ i.category = some "include" ∧ i.name? = some header := by
  simp only [index, namedTypes, List.mem_filterMap, List.mem_filter, Option.map_eq_some_iff]
  constructor
  · rintro ⟨_, ⟨i, ⟨hi, happlies⟩, name, hname, rfl⟩, hcategory⟩
    split_ifs at hcategory with h
    cases hcategory
    exact ⟨i, hi, happlies, h, hname⟩
  · rintro ⟨i, hi, happlies, hcategory, hname⟩
    exact ⟨(header, i), ⟨i, ⟨hi, happlies⟩, header, hname, rfl⟩, by rw [if_pos hcategory]⟩

theorem isPlatformType_iff {name : String} {t : TypeEntry} :
    (r.index c).isPlatformType c name t ↔ (t.category = none ∧ ∃ header, t.requires = some header ∧
      header ≠ c.platformHeader ∧ header ∈ (r.index c).includes) ∨ c.isDefineType name := by
  rw [RegistryIndex.isPlatformType, Bool.or_eq_true]
  refine or_congr_left ?_
  cases t.category <;> cases t.requires <;> simp

theorem exists_typeNamed?_iff {name : String} :
    (∃ t, r.typeNamed? c name = some t) ↔ name ∈ (r.namedTypes c).map Prod.fst := by
  rw [← Option.ne_none_iff_exists', ← not_iff_not, not_not]
  exact Dict.lookup_eq_none_iff _ name

theorem mem_platformTypes_iff {name : String} : name ∈ (r.index c).platformTypes c ↔
    name ∈ (r.namedTypes c).map Prod.fst ∧ (r.FromHeader c name ∨ c.isDefineType name) := by
  have hentry : ∀ t, (name, t) ∈ (r.index c).types.entries ↔ r.typeNamed? c name = some t := by
    intro t
    rw [Dict.mem_entries_iff, types_get?]
  rw [RegistryIndex.platformTypes, List.mem_map, ← exists_typeNamed?_iff]
  constructor
  · rintro ⟨⟨_, t⟩, hmem, rfl⟩
    obtain ⟨ht, hplatform⟩ := List.mem_filter.mp hmem
    rw [hentry] at ht
    refine ⟨⟨t, ht⟩, (isPlatformType_iff.mp hplatform).imp_left ?_⟩
    rintro ⟨hcategory, header, hrequires, hother, hinclude⟩
    exact ⟨t, header, ht, hcategory, hrequires, hother, mem_includes_iff.mp hinclude⟩
  · rintro ⟨⟨t, ht⟩, hplatform⟩
    refine ⟨(name, t), List.mem_filter.mpr ⟨(hentry t).mpr ht, isPlatformType_iff.mpr ?_⟩, rfl⟩
    refine hplatform.imp_left ?_
    rintro ⟨t', header, ht', hcategory, hrequires, hother, hinclude⟩
    obtain rfl : t = t' := Option.some.inj (ht.symm.trans ht')
    exact ⟨hcategory, header, hrequires, hother, mem_includes_iff.mpr hinclude⟩

/-- The platform types come in the order in which the registry names types. -/
theorem platformTypes_sublist :
    ((r.index c).platformTypes c).Sublist ((r.namedTypes c).map Prod.fst).eraseDups := by
  rw [← Dict.keys_ofFirsts]
  exact List.filter_sublist.map Prod.fst

end Registry

/-! ### Pairs of a type and an extension -/

/-- A system type without the guard. -/
def SystemType.pair (t : SystemType) : String × String := (t.name, t.extension)

namespace Model

/-- The pairs of a name and an extension that uses it, by name and then by extension. -/
def usesOf (m : Model) (names : List String) : List SystemType :=
  names.flatMap fun name =>
    (m.extensions.filter fun e => m.extensionUses e name).map fun e => ⟨name, e.name, e.guard⟩

variable {m : Model} {names : List String}

theorem mem_usesOf_iff {t : SystemType} : t ∈ m.usesOf names ↔
    t.name ∈ names ∧ ∃ e ∈ m.extensions, m.extensionUses e t.name ∧ e.name = t.extension ∧
      e.guard = t.guard := by
  rcases t with ⟨name, extension, guard⟩
  simp only [usesOf, List.mem_flatMap, List.mem_map, List.mem_filter, SystemType.mk.injEq]
  constructor
  · rintro ⟨_, hname, e, ⟨he, huse⟩, rfl, rfl, rfl⟩
    exact ⟨hname, e, he, huse, rfl, rfl⟩
  · rintro ⟨hname, e, he, huse, rfl, rfl⟩
    exact ⟨name, hname, e, ⟨he, huse⟩, rfl, rfl, rfl⟩

theorem pairs_usesOf_sublist : ((m.usesOf names).map SystemType.pair).Sublist
    (names ×ˢ m.extensions.map Extension.name) := by
  rw [usesOf, List.map_flatMap]
  refine List.Sublist.flatMap_right names fun name _ => ?_
  rw [List.map_map, List.map_map]
  exact List.filter_sublist.map _

/-- If no two extensions have one name, no pair comes twice, and the system types are the pairs as
they are found. -/
theorem systemTypesOf_eq (hnames : names.Nodup)
    (hextensions : (m.extensions.map Extension.name).Nodup) :
    m.systemTypesOf names = m.usesOf names := by
  have hpairs := (hnames.product hextensions).sublist pairs_usesOf_sublist
  exact OrderedSet.toList_ofList hpairs.of_map

end Model

namespace Registry

variable {c : Convention} {s : Selection} {r : Registry} {m : Model}

/-- The system types of a model are found among the platform types of the registry. -/
theorem systemTypes_eq_of_build (h : r.build c s = .ok m) :
    m.systemTypes = m.systemTypesOf ((r.index c).platformTypes c) := by
  unfold build at h
  dsimp only at h
  split at h
  case h_2 => cases h
  obtain ⟨_, ⟨⟩, h⟩ := exists_of_bind_eq_ok h
  obtain ⟨types, -, h⟩ := exists_of_bind_eq_ok h
  obtain ⟨commands, -, h⟩ := exists_of_bind_eq_ok h
  cases h
  rfl

/-- No two structs of a model have one name, and no two commands. -/
theorem nodup_names_of_build (h : r.build c s = .ok m) :
    (m.structs.map Struct.name).Nodup ∧ (m.commands.map Command.name).Nodup := by
  obtain ⟨ds, types, h⟩ := exists_production h
  obtain ⟨extensions, positions, hcommands⟩ := h.commands
  have hstructs : m.structs.map Struct.name = m.names .struct := by
    rw [Model.names, Model.items, List.map_map]; rfl
  refine ⟨?_, ?_⟩
  · rw [hstructs, h.names_types (by decide)]
    exact nodup_firstsWith _ _
  · rw [names_buildCommands hcommands]
    exact (nodup_eraseDups _).filter _

/-- **The system types of a model.** If no two extensions of the registry have one name, then a
model lists a type with an extension of the model if and only if the type is one of the registry
that a header or a macro declares, and the extension contributes a struct or a command that has the
type itself or a pointer to it. No pair comes twice, they are ordered by type as in the registry and
then by extension, and each has the guard of its extension. -/
theorem systemTypes_of_build
    (hdistinct : ∀ entries, r.extensions? = some entries →
      (entries.map ExtensionEntry.name).Nodup)
    (h : r.build c s = .ok m) :
    (∀ type extension, (type, extension) ∈ m.systemTypes.map SystemType.pair ↔
      (type ∈ (r.namedTypes c).map Prod.fst ∧ (r.FromHeader c type ∨ c.isDefineType type)) ∧
        ∃ e ∈ m.extensions, e.name = extension ∧ m.UsesDirectly e type) ∧
    (m.systemTypes.map SystemType.pair).Nodup ∧
    (m.systemTypes.map SystemType.pair).Sublist
      (((r.namedTypes c).map Prod.fst).eraseDups ×ˢ m.extensions.map Extension.name) ∧
    ∀ t ∈ m.systemTypes, ∀ e ∈ m.extensions, e.name = t.extension → t.guard = e.guard := by
  obtain ⟨entries, hentries, hextensions, -⟩ := exists_extensions h
  obtain ⟨hstructs, hcommands⟩ := nodup_names_of_build h
  have hnames : (m.extensions.map Extension.name).Nodup := by
    rw [hextensions, List.map_map]
    exact (hdistinct entries hentries).sublist (List.filter_sublist.map ExtensionEntry.name)
  have htypes : ((r.namedTypes c).map Prod.fst).eraseDups.Nodup := nodup_eraseDups _
  have hsystem : m.systemTypes = m.usesOf ((r.index c).platformTypes c) := by
    rw [systemTypes_eq_of_build h]
    exact Model.systemTypesOf_eq (htypes.sublist platformTypes_sublist) hnames
  have hsublist : (m.systemTypes.map SystemType.pair).Sublist
      (((r.namedTypes c).map Prod.fst).eraseDups ×ˢ m.extensions.map Extension.name) := by
    rw [hsystem]
    exact Model.pairs_usesOf_sublist.trans (platformTypes_sublist.flatMap _)
  refine ⟨fun type extension => ?_, (htypes.product hnames).sublist hsublist, hsublist, ?_⟩
  · rw [← mem_platformTypes_iff, hsystem, List.mem_map]
    constructor
    · rintro ⟨t, ht, hpair⟩
      cases hpair
      obtain ⟨htype, e, he, huse, hname, -⟩ := Model.mem_usesOf_iff.mp ht
      exact ⟨htype, e, he, hname, (Model.extensionUses_iff hstructs hcommands).mp huse⟩
    · rintro ⟨htype, e, he, rfl, huse⟩
      have huse := (Model.extensionUses_iff hstructs hcommands).mpr huse
      exact ⟨⟨type, e.name, e.guard⟩, Model.mem_usesOf_iff.mpr ⟨htype, e, he, huse, rfl, rfl⟩, rfl⟩
  · intro t ht e he hname
    rw [hsystem] at ht
    obtain ⟨-, e', he', -, hname', hguard⟩ := Model.mem_usesOf_iff.mp ht
    rw [← hguard, List.inj_on_of_nodup_map hnames he he' (hname.trans hname'.symm)]

/-- A struct with one member of the given code, which marks a type. -/
def structWith (name code type : String) : TypeEntry :=
  { (default : TypeEntry) with
    name := some name
    category := some "struct"
    body := .members [{ (default : MemberEntry) with code := code, types := [type] }] }

/-- The extensions of `windowed`: one has a struct with a pointer to a display, one a struct with a
pointer to such a pointer and a command that takes a window. -/
def extensionsOfWindowed : List ExtensionEntry := [
  ⟨"VK_KHR_display", some 1, some "USE_DISPLAY", none, some "vulkan", [⟨none, [
    .type "VkDisplayInfo"]⟩]⟩,
  ⟨"VK_KHR_window", some 2, none, none, some "vulkan", [⟨none, [
    .type "VkDisplayList", .command "vkShow"]⟩]⟩]

/-- A registry with a type of a header and with one that a macro declares. -/
def windowed : Registry where
  parts := [
    .types [
      { (default : TypeEntry) with name := some "xlib.h", category := some "include" },
      { (default : TypeEntry) with name := some "Display", requires := some "xlib.h" },
      { (default : TypeEntry) with name := some "ANativeWindow", category := some "define" },
      structWith "VkDisplayInfo" "Display* display" "Display",
      structWith "VkDisplayList" "Display** displays" "Display"],
    .commands [.definition ⟨⟨"vkShow", some "void", "void vkShow"⟩,
      [⟨⟨"window", some "ANativeWindow", "struct ANativeWindow* window"⟩, none, none, none⟩]⟩],
    .extensions extensionsOfWindowed]

/-- The second extension uses the window and not the display. -/
theorem systemTypes_of_build_windowed :
    (∀ entries, windowed.extensions? = some entries →
      (entries.map ExtensionEntry.name).Nodup) ∧
    ∃ m, windowed.build Vulkan.convention .default = .ok m ∧
      m.systemTypes = [⟨"Display", "VK_KHR_display", some "USE_DISPLAY"⟩,
        ⟨"ANativeWindow", "VK_KHR_window", none⟩] ∧
      ∀ type extension, (type, extension) ∈ m.systemTypes.map SystemType.pair ↔
        (type ∈ (windowed.namedTypes Vulkan.convention).map Prod.fst ∧
          (windowed.FromHeader Vulkan.convention type ∨ Vulkan.convention.isDefineType type)) ∧
          ∃ e ∈ m.extensions, e.name = extension ∧ m.UsesDirectly e type := by
  have hdistinct : ∀ entries, windowed.extensions? = some entries →
      (entries.map ExtensionEntry.name).Nodup := by
    rintro _ ⟨⟩
    decide +kernel
  have hbuilt : (windowed.build Vulkan.convention .default).map Model.systemTypes =
      .ok [⟨"Display", "VK_KHR_display", some "USE_DISPLAY"⟩,
        ⟨"ANativeWindow", "VK_KHR_window", none⟩] := by decide +kernel
  obtain ⟨m, hm, hsystem⟩ := exists_of_map_eq_ok hbuilt
  exact ⟨hdistinct, m, hm, hsystem, (systemTypes_of_build hdistinct hm).1⟩

/-- A registry whose extension has a struct with a window, which no type of the registry names. -/
def undeclared : Registry where
  parts := [
    .types [structWith "VkWindowInfo" "struct ANativeWindow* window" "ANativeWindow"],
    .extensions [⟨"VK_KHR_window", some 1, none, none, some "vulkan", [⟨none, [
      .type "VkWindowInfo"]⟩]⟩]]

/-- **A type of a macro that is no system type**: the extension uses it, but it is no type of the
registry. -/
theorem systemTypes_ne_of_undeclared :
    (∀ entries, undeclared.extensions? = some entries →
      (entries.map ExtensionEntry.name).Nodup) ∧
    ∃ m, undeclared.build Vulkan.convention .default = .ok m ∧
      ¬ ∀ type extension, (type, extension) ∈ m.systemTypes.map SystemType.pair ↔
        (undeclared.FromHeader Vulkan.convention type ∨ Vulkan.convention.isDefineType type) ∧
          ∃ e ∈ m.extensions, e.name = extension ∧ m.UsesDirectly e type := by
  have hbuilt : (undeclared.build Vulkan.convention .default).map (fun m =>
      (m.systemTypes, decide (∃ e ∈ m.extensions, e.name = "VK_KHR_window" ∧
        m.UsesDirectly e "ANativeWindow"))) = .ok ([], true) := by decide +kernel
  obtain ⟨m, hm, hfacts⟩ := exists_of_map_eq_ok hbuilt
  obtain ⟨hsystem, huse⟩ := Prod.mk.inj hfacts
  refine ⟨by rintro _ ⟨⟩; decide +kernel, m, hm, fun hclaim => ?_⟩
  have hpair := (hclaim "ANativeWindow" "VK_KHR_window").mpr
    ⟨.inr (by decide +kernel), of_decide_eq_true huse⟩
  rw [hsystem] at hpair
  cases hpair

end Registry

end LayerStencil
