import LayerStencil.Convention.Vulkan
import LayerStencil.Proofs.Registry.Assembly
import LayerStencil.Proofs.Registry.Reachability
import Mathlib.Data.List.Nodup

/-! # Self-contained registries

The closure of the demanded types follows the names that are marked as types, the entities take the
types of members and parameters from code, and a reference is checked through one alias. In a
registry where these agree, no reference of a built model dangles. Of several blocks of values of
one name only the last one counts, and it is this one that must be of a kind that a model lists.

* `Registry.SelfContained`: marked types are those of the code, and they are defined.
* `Registry.Resolves`: a name of a type that a model lists, or an alias of one.
* `Registry.Assembly.isKnown`: the model knows every required name that resolves.
* `Registry.danglingReferences_of_selfContained`: then no reference dangles. -/

namespace LayerStencil

/-! ### Names that resolve -/

/-- The first entry of a name that applies to the API. -/
def Registry.typeNamed? (c : Convention) (r : Registry) (name : String) : Option TypeEntry :=
  (r.namedTypes c).lookup name

/-- The block is one of the blocks of values of a name. -/
def Registry.HasBlock (r : Registry) (name : String) (b : ValueBlock) : Prop :=
  (name, b) ∈ r.namedBlocks

/-- The block is the last of the blocks of values of a name. -/
def Registry.HasLastBlock (r : Registry) (name : String) (b : ValueBlock) : Prop :=
  r.namedBlocks.reverse.lookup name = some b

/-- The categories of types that a model lists whatever the values of the registry. -/
def listedCategories : List String :=
  ["struct", "union", "handle", "basetype", "bitmask", "funcpointer"]

/-- The entry of a name is no alias and of a category that a model lists; of an enum, a block that
holds values for it must be of the kind of an enum or a bitmask. -/
def Registry.Defines (c : Convention) (r : Registry) (Holds : String → ValueBlock → Prop)
    (name : String) : Prop :=
  ∃ t, r.typeNamed? c name = some t ∧ t.aliasOf = none ∧
    ((∃ category ∈ listedCategories, t.category = some category) ∨
      t.category = some "enum" ∧ ∃ b, Holds name b ∧ (b.isEnum ∨ b.isBitmask))

/-- The name is defined, or the entry of the name is an alias of one that is. -/
def Registry.Resolves (c : Convention) (r : Registry) (Holds : String → ValueBlock → Prop)
    (name : String) : Prop :=
  r.Defines c Holds name ∨ ∃ t target, r.typeNamed? c name = some t ∧ t.aliasOf = some target ∧
    r.Defines c Holds target

/-- The names of commands are distinct and no names of types; a member of a struct or a parameter
whose type, as its code has it, is named in the style of the API marks this very type, which
resolves; and so does the name that a bitmask type gives for its bits. -/
structure Registry.SelfContained (c : Convention) (r : Registry)
    (Holds : String → ValueBlock → Prop) : Prop where
  commands_nodup : (r.commands.map CommandEntry.name).Nodup
  commands_not_types : ∀ e ∈ r.commands, e.name ∉ (r.namedTypes c).map Prod.fst
  members : ∀ t ∈ r.types, c.applies t.apis → t.category = some "struct" →
    ∀ m ∈ t.members, c.applies m.apis → ∀ d, Declaration.ofCode m.code = .ok d →
      isApiTypeName d.baseType → m.types.head? = some d.baseType ∧ r.Resolves c Holds d.baseType
  parameters : ∀ d, .definition d ∈ r.commands →
    ∀ p ∈ d.parameters, c.applies p.apis →
      ∀ decl, Declaration.ofCode p.declaration.code = .ok decl → isApiTypeName decl.baseType →
        p.declaration.type = some decl.baseType ∧ r.Resolves c Holds decl.baseType
  bits : ∀ t ∈ r.types, c.applies t.apis → t.category = some "bitmask" →
    ∀ name, t.requires.or t.bitValues = some name → r.Resolves c Holds name

section
variable {c : Convention} {r : Registry} {ds : List Demand} {types : List (String × BuiltType)}
  {m : Model} {name : String}

theorem Registry.types_get? (name : String) : (r.index c).types.get? name = r.typeNamed? c name :=
  Dict.get?_ofFirsts _ name

theorem Registry.hasLastBlock_iff {b : ValueBlock} :
    r.HasLastBlock name b ↔ (r.index c).blocks.get? name = some b := by
  show _ ↔ (Dict.ofList r.namedBlocks).get? name = some b
  rw [Dict.get?_ofList]; rfl

/-- The entry of a name is an entry of the registry that applies to the API. -/
theorem Registry.mem_of_typeNamed? {t : TypeEntry} (h : r.typeNamed? c name = some t) :
    t ∈ r.types ∧ c.applies t.apis ∧ name ∈ (r.namedTypes c).map Prod.fst := by
  have hmem := Dict.mem_of_lookup_eq_some h
  obtain ⟨t', ht', he⟩ := List.mem_filterMap.mp hmem
  obtain ⟨_, -, he⟩ := Option.map_eq_some_iff.mp he
  cases he
  obtain ⟨ht, happlies⟩ := List.mem_filter.mp ht'
  exact ⟨ht, happlies, List.mem_map.mpr ⟨_, hmem, rfl⟩⟩

/-! ### Parts and what their code declares -/

theorem ofCode_of_partDeclaration {owner code : String} {length optional : Option String}
    {d : Declaration} (h : partDeclaration owner code length optional = .ok d) :
    ∃ d', Declaration.ofCode code = .ok d' ∧ d'.baseType = d.baseType := by
  unfold partDeclaration at h
  split at h
  · cases h
  · rename_i d' hd'
    cases h
    exact ⟨d', hd', rfl⟩

/-- A member of a struct comes from a member of its entry that applies to the API. -/
theorem Struct.exists_of_mem_members {t : TypeEntry} {s : Struct}
    (h : Struct.ofEntry c name t = .ok s) {mem : Member} (hmem : mem ∈ s.members) :
    ∃ p ∈ t.members, c.applies p.apis ∧ ∃ d, Declaration.ofCode p.code = .ok d ∧
      d.baseType = mem.declaration.baseType := by
  obtain ⟨declarations, hdeclarations, h⟩ := exists_of_bind_eq_ok h
  cases h
  obtain ⟨⟨⟨p, d⟩, index⟩, hzip, rfl⟩ := List.mem_map.mp hmem
  obtain ⟨_, hp', hpart⟩ := exists_of_mem_mapM hdeclarations _ (List.fst_mem_of_mem_zipIdx hzip)
  obtain ⟨d', hd', he⟩ := exists_of_map_eq_ok hpart
  cases he
  obtain ⟨hp, happlies⟩ := List.mem_filter.mp hp'
  exact ⟨p, hp, happlies, ofCode_of_partDeclaration hd'⟩

/-- A parameter comes from a parameter of the definition that applies to the API. -/
theorem CommandDefinition.exists_of_mem_parametersOf {d : CommandDefinition}
    {parameters : List Parameter} (h : d.parametersOf c name = .ok parameters) {p : Parameter}
    (hp : p ∈ parameters) : ∃ e ∈ d.parameters, c.applies e.apis ∧
      ∃ decl, Declaration.ofCode e.declaration.code = .ok decl ∧
        decl.baseType = p.declaration.baseType := by
  obtain ⟨declarations, hdeclarations, h⟩ := exists_of_bind_eq_ok h
  cases h
  obtain ⟨⟨decl, index⟩, hzip, rfl⟩ := List.mem_map.mp hp
  obtain ⟨e, he, hpart⟩ := exists_of_mem_mapM hdeclarations _ (List.fst_mem_of_mem_zipIdx hzip)
  obtain ⟨he, happlies⟩ := List.mem_filter.mp he
  exact ⟨e, he, happlies, ofCode_of_partDeclaration hpart⟩

theorem TypeEntry.mem_references_of_member {t : TypeEntry} {p : MemberEntry} (hp : p ∈ t.members)
    (happlies : c.applies p.apis) {type : String} (htype : p.types.head? = some type) :
    type ∈ t.references c := by
  refine List.mem_append_right _ ?_
  unfold TypeEntry.members at hp
  split at hp
  · rename_i ms hbody
    rw [hbody]
    exact List.mem_filterMap.mpr ⟨p, List.mem_filter.mpr ⟨hp, happlies⟩, htype⟩
  · cases hp

/-- In a registry whose commands have distinct names, the references of a command are those of the
definition that it is built from. -/
theorem commandReferences_of_resolve (hnodup : (r.commands.map CommandEntry.name).Nodup)
    {entry : CommandEntry} (hentry : entry ∈ r.commands) {d : CommandDefinition}
    {aliasOf : Option String} (hresolve : entry.resolve (r.index c) = .ok (d, aliasOf)) :
    .definition d ∈ r.commands ∧
      (r.index c).commandReferences entry.name = d.references := by
  have hunique : ∀ e ∈ r.commands, e.name = entry.name → e = entry := fun e he hname =>
    List.inj_on_of_nodup_map hnodup he hentry hname
  cases entry with
  | definition d' =>
    cases hresolve
    have hnone : (r.index c).commandAliases.get? d.proto.name = none := by
      refine Dict.get?_ofList_eq_none fun target hmem => ?_
      cases hunique _ (Registry.mem_namedAliases_iff.mp hmem) rfl
    have hsome : (r.index c).definitions.get? d.proto.name = some d := by
      refine Dict.get?_ofList_eq_some (Registry.mem_namedDefinitions_iff.mpr ⟨hentry, rfl⟩)
        fun d' hmem => ?_
      obtain ⟨hd', hname⟩ := Registry.mem_namedDefinitions_iff.mp hmem
      exact CommandEntry.definition.inj (hunique _ hd' hname)
    refine ⟨hentry, ?_⟩
    rw [RegistryIndex.commandReferences, CommandEntry.name, hnone, Option.getD_none, hsome]
  | aliasOf name target =>
    rw [CommandEntry.resolve] at hresolve
    cases hsome : (r.index c).definitions.get? target with
    | none => rw [hsome] at hresolve; cases hresolve
    | some d' =>
      rw [hsome] at hresolve
      cases hresolve
      have htarget : (r.index c).commandAliases.get? name = some target := by
        refine Dict.get?_ofList_eq_some (Registry.mem_namedAliases_iff.mpr hentry)
          fun target' hmem => ?_
        exact (CommandEntry.aliasOf.inj
          (hunique _ (Registry.mem_namedAliases_iff.mp hmem) rfl)).2
      have hmem := Dict.mem_of_get?_ofList hsome
      refine ⟨(Registry.mem_namedDefinitions_iff.mp hmem).1, ?_⟩
      rw [RegistryIndex.commandReferences, CommandEntry.name, htarget, Option.getD_some, hsome]

/-! ### What the model knows -/

theorem BuiltType.ownName?_ofEntry {x : RegistryIndex} {t : TypeEntry} {built : BuiltType}
    (halias : t.aliasOf = none) (hbuilt : BuiltType.ofEntry c x ds name t = .ok built)
    (hlisted : (∃ category ∈ listedCategories, t.category = some category) ∨
      t.category = some "enum" ∧ ∃ b, x.blocks.get? name = some b ∧ (b.isEnum ∨ b.isBitmask)) :
    built.ownName? = some name := by
  rw [BuiltType.ofEntry, halias] at hbuilt
  rcases hlisted with ⟨category, hmem, hcategory⟩ | ⟨hcategory, b, hb, hkind⟩
  · rw [hcategory] at hbuilt
    simp only [listedCategories, List.mem_cons, List.not_mem_nil, or_false] at hmem
    rcases hmem with rfl | rfl | rfl | rfl | rfl | rfl
    · obtain ⟨s, hs, rfl⟩ := exists_of_map_eq_ok hbuilt
      obtain ⟨_, -, hs⟩ := exists_of_bind_eq_ok hs
      cases hs; rfl
    · obtain ⟨u, hu, rfl⟩ := exists_of_map_eq_ok hbuilt
      obtain ⟨_, -, hu⟩ := exists_of_bind_eq_ok hu
      cases hu; rfl
    all_goals cases hbuilt; rfl
  · rw [hcategory] at hbuilt
    cases hbuilt
    rw [BuiltType.ofBlock, hb]
    dsimp only
    split_ifs with hbitmask henum
    · rfl
    · rfl
    · exact absurd hkind (by simp [hbitmask, henum])

namespace Registry.Assembly

/-- A required name that is defined is listed. -/
theorem definesType_of_defines (h : r.Assembly c ds types m)
    (hrequired : name ∈ (r.index c).requiredTypes c ds) (hname : r.Defines c r.HasLastBlock name) :
    m.definesType name := by
  obtain ⟨t, ht, halias, hlisted⟩ := hname
  obtain ⟨built, hmem, hbuilt⟩ :=
    (RegistryIndex.mem_builtTypes_iff h.builtTypes).2 name t (types_get? name ▸ ht) hrequired
  refine h.definesType name ⟨_, hmem, BuiltType.ownName?_ofEntry halias hbuilt ?_⟩
  simpa only [← hasLastBlock_iff] using hlisted

theorem mem_aliasesOf_iff (h : r.Assembly c ds types m) {target : String} :
    (name, target) ∈ BuiltType.aliasesOf types ↔ ∃ t, r.typeNamed? c name = some t ∧
      t.aliasOf = some target ∧ name ∈ (r.index c).requiredTypes c ds := by
  constructor
  · intro hmem
    obtain ⟨⟨name', built⟩, hbuilt, he⟩ := List.mem_filterMap.mp hmem
    obtain ⟨_, htarget, he⟩ := Option.map_eq_some_iff.mp he
    cases he
    obtain ⟨t, ht, hrequired, hentry⟩ :=
      (RegistryIndex.mem_builtTypes_iff h.builtTypes).1 _ _ hbuilt
    exact ⟨t, types_get? name' ▸ ht, BuiltType.aliasTarget?_ofEntry hentry ▸ htarget, hrequired⟩
  · rintro ⟨t, ht, halias, hrequired⟩
    obtain ⟨built, hbuilt, hentry⟩ :=
      (RegistryIndex.mem_builtTypes_iff h.builtTypes).2 name t (types_get? name ▸ ht) hrequired
    refine List.mem_filterMap.mpr ⟨_, hbuilt, ?_⟩
    rw [BuiltType.aliasTarget?_ofEntry hentry, halias]
    rfl

theorem get?_aliasesOf (h : r.Assembly c ds types m) {t : TypeEntry}
    (ht : r.typeNamed? c name = some t) (hrequired : name ∈ (r.index c).requiredTypes c ds) :
    (Dict.ofList (BuiltType.aliasesOf types)).get? name = t.aliasOf := by
  cases halias : t.aliasOf with
  | none =>
    refine Dict.get?_ofList_eq_none fun target hmem => ?_
    obtain ⟨t', ht', halias', -⟩ := h.mem_aliasesOf_iff.mp hmem
    rw [ht] at ht'
    cases ht'
    rw [halias] at halias'
    cases halias'
  | some target =>
    refine Dict.get?_ofList_eq_some (h.mem_aliasesOf_iff.mpr ⟨t, ht, halias, hrequired⟩)
      fun target' hmem => ?_
    obtain ⟨t', ht', halias', -⟩ := h.mem_aliasesOf_iff.mp hmem
    rw [ht] at ht'
    cases ht'
    rw [halias] at halias'
    exact (Option.some.inj halias').symm

theorem command_name_mem (h : r.Assembly c ds types m) {command : Command}
    (hmem : command ∈ m.commands) : ∃ e ∈ r.commands, e.name = command.name := by
  obtain ⟨extensions, positions, hcommands⟩ := h.commands
  obtain ⟨e, he, -, d, aliasOf, -, hcommand⟩ := exists_of_mem_buildCommands hcommands hmem
  exact ⟨e, he, (Command.name_ofDefinition hcommand).1.symm⟩

/-- The name of a type stands for what its entry says, since no command has this name. -/
theorem canonicalName_eq (h : r.Assembly c ds types m)
    (hcontained : r.SelfContained c r.HasLastBlock)
    {t : TypeEntry} (ht : r.typeNamed? c name = some t)
    (hrequired : name ∈ (r.index c).requiredTypes c ds) :
    m.canonicalName name = t.aliasOf.getD name := by
  rw [Model.canonicalName, h.aliases, Dict.get?_extend_of_not_mem, h.get?_aliasesOf ht hrequired]
  intro hmem
  obtain ⟨⟨_, target⟩, hentry, rfl⟩ := List.mem_map.mp hmem
  obtain ⟨command, hcommand, he⟩ := List.mem_filterMap.mp hentry
  obtain ⟨_, -, he⟩ := Option.map_eq_some_iff.mp he
  cases he
  obtain ⟨e, he, hname⟩ := h.command_name_mem hcommand
  exact hcontained.commands_not_types e he (hname ▸ (mem_of_typeNamed? ht).2.2)

/-- **The model knows every required name that resolves.** -/
theorem isKnown (h : r.Assembly c ds types m) (hcontained : r.SelfContained c r.HasLastBlock)
    (hrequired : name ∈ (r.index c).requiredTypes c ds) (hname : r.Resolves c r.HasLastBlock name) :
    m.isKnown name := by
  rcases hname with hdefines | ⟨t, target, ht, halias, hdefines⟩
  · obtain ⟨t, ht, halias, -⟩ := id hdefines
    rw [Model.isKnown, h.canonicalName_eq hcontained ht hrequired, halias]
    exact h.definesType_of_defines hrequired hdefines
  · have htarget : target ∈ (r.index c).requiredTypes c ds := by
      refine RegistryIndex.mem_requiredTypes_of_reference hrequired (types_get? name ▸ ht) ?_
      simp [TypeEntry.references, halias]
    rw [Model.isKnown, h.canonicalName_eq hcontained ht hrequired, halias]
    exact h.definesType_of_defines htarget hdefines

/-! ### References of the model -/

/-- The members of structs whose types are named in the style of the API name known types. -/
theorem dangles_member (h : r.Assembly c ds types m) (hcontained : r.SelfContained c r.HasLastBlock)
    {s : Struct} (hs : s ∈ m.structs) {mem : Member} (hmem : mem ∈ s.members) :
    m.dangles mem.declaration = false := by
  obtain ⟨name, hbuilt⟩ := h.structs s hs
  obtain ⟨t, ht, hrequired, hentry⟩ := (RegistryIndex.mem_builtTypes_iff h.builtTypes).1 _ _ hbuilt
  obtain ⟨hcategory, hstruct⟩ := BuiltType.ofEntry_eq_struct hentry
  obtain ⟨p, hp, happlies, hcode⟩ := Struct.exists_of_mem_members hstruct hmem
  obtain ⟨d, hd, hbase⟩ := hcode
  obtain ⟨htypes, happliesType, -⟩ := mem_of_typeNamed? (types_get? name ▸ ht)
  rw [Model.dangles, ← hbase, Bool.and_eq_false_imp]
  intro hstyle
  obtain ⟨hhead, hresolves⟩ := hcontained.members t htypes happliesType hcategory p hp happlies d hd
    hstyle
  rw [h.isKnown hcontained (RegistryIndex.mem_requiredTypes_of_reference hrequired ht
    (TypeEntry.mem_references_of_member hp happlies hhead)) hresolves]
  rfl

/-- The parameters of commands whose types are named in the style of the API name known types. -/
theorem dangles_parameter (h : r.Assembly c ds types m)
    (hcontained : r.SelfContained c r.HasLastBlock)
    {command : Command} (hcommand : command ∈ m.commands) {p : Parameter}
    (hp : p ∈ command.parameters) : m.dangles p.declaration = false := by
  obtain ⟨extensions, positions, hcommands⟩ := h.commands
  obtain ⟨entry, hentry, hdemanded, d, aliasOf, hresolve, hcommand⟩ :=
    exists_of_mem_buildCommands hcommands hcommand
  obtain ⟨e, he, happlies, decl, hdecl, hbase⟩ :=
    CommandDefinition.exists_of_mem_parametersOf (Command.name_ofDefinition hcommand).2.2 hp
  obtain ⟨hdefinition, hreferences⟩ :=
    commandReferences_of_resolve hcontained.commands_nodup hentry hresolve
  rw [Model.dangles, ← hbase, Bool.and_eq_false_imp]
  intro hstyle
  obtain ⟨htype, hresolves⟩ := hcontained.parameters d hdefinition e he happlies decl hdecl hstyle
  have hother : decl.baseType ∈ (r.index c).commandReferences entry.name := by
    rw [hreferences]
    exact List.mem_append_right _ (List.mem_filterMap.mpr ⟨e, he, htype⟩)
  rw [h.isKnown hcontained (RegistryIndex.mem_requiredTypes_of_command hdemanded hother) hresolves]
  rfl

/-- The bits of flags are known. -/
theorem isKnown_bits (h : r.Assembly c ds types m)
    (hcontained : r.SelfContained c r.HasLastBlock) {f : Flag}
    (hf : f ∈ m.flags) {bits : String} (hbits : f.bits = some bits) : m.isKnown bits := by
  obtain ⟨name, hbuilt⟩ := h.flags f hf
  obtain ⟨t, ht, hrequired, hentry⟩ := (RegistryIndex.mem_builtTypes_iff h.builtTypes).1 _ _ hbuilt
  obtain ⟨hcategory, hfbits⟩ := BuiltType.ofEntry_eq_flag hentry
  obtain ⟨htypes, happlies, -⟩ := mem_of_typeNamed? (types_get? name ▸ ht)
  rw [hfbits] at hbits
  have hresolves := hcontained.bits t htypes happlies hcategory bits hbits
  refine h.isKnown hcontained ?_ hresolves
  refine RegistryIndex.mem_requiredTypes_of_reference hrequired ht ?_
  cases hrequires : t.requires <;> simp_all [TypeEntry.references]

end Registry.Assembly

/-- **No reference dangles** in a model that is built from a self-contained registry. -/
theorem Registry.danglingReferences_of_selfContained {s : Selection}
    (hcontained : r.SelfContained c r.HasLastBlock) (hbuild : r.build c s = .ok m) :
    m.danglingReferences = [] := by
  obtain ⟨ds, types, h⟩ := exists_assembly hbuild
  refine List.append_eq_nil_iff.mpr ⟨List.append_eq_nil_iff.mpr ⟨?_, ?_⟩, ?_⟩
  · refine List.flatMap_eq_nil_iff.mpr fun s hs => ?_
    rw [List.filter_eq_nil_iff.mpr fun mem hmem => by
      rw [h.dangles_member hcontained hs hmem]; nofun]
    rfl
  · refine List.flatMap_eq_nil_iff.mpr fun command hcommand => ?_
    rw [List.filter_eq_nil_iff.mpr fun p hp => by
      rw [h.dangles_parameter hcontained hcommand hp]; nofun]
    rfl
  · refine List.filterMap_eq_nil_iff.mpr fun f hf => ?_
    cases hbits : f.bits with
    | none => rfl
    | some bits =>
      show (if m.isKnown bits then none else _) = none
      rw [if_pos (h.isKnown_bits hcontained hf hbits)]

end

/-! ### Blocks that hide others -/

namespace Registry

/-- The types of `withBlocks`: an enum, an alias of it, and a struct with a member of the alias. -/
def typesOfMode : List TypeEntry := [
  { (default : TypeEntry) with name := some "VkMode", category := some "enum" },
  { (default : TypeEntry) with name := some "VkModeKHR", aliasOf := some "VkMode" },
  { (default : TypeEntry) with
    name := some "VkInfo", category := some "struct"
    body := .members [⟨none, none, none, none, "VkModeKHR mode", ["VkModeKHR"]⟩] }]

/-- The command of `withBlocks`, with a parameter that points to the struct. -/
def commandOfMode : CommandDefinition :=
  ⟨⟨"vkRun", some "void", "void vkRun"⟩,
    [⟨⟨"pInfo", some "VkInfo", "const VkInfo* pInfo"⟩, none, none, none⟩]⟩

/-- A feature with a command, which needs a struct and through it an enum, and blocks of values. -/
def withBlocks (blocks : List ValueBlock) : Registry where
  parts := .types typesOfMode :: blocks.map .values ++ [
    .commands [.definition commandOfMode],
    .feature ⟨"vulkan", "VK_VERSION_1_0", [⟨none, [.command "vkRun"]⟩]⟩,
    .extensions []]

theorem types_withBlocks (blocks : List ValueBlock) : (withBlocks blocks).types = typesOfMode := by
  simp [types, withBlocks, List.flatMap_map]

theorem commands_withBlocks (blocks : List ValueBlock) :
    (withBlocks blocks).commands = [.definition commandOfMode] := by
  simp [commands, withBlocks, List.flatMap_map]

theorem namedTypes_withBlocks (blocks : List ValueBlock) :
    (withBlocks blocks).namedTypes Vulkan.convention =
      typesOfMode.map fun t => (t.name.getD "", t) := by
  rw [namedTypes, types_withBlocks]
  rfl

theorem selfContained_withBlocks {blocks : List ValueBlock} {Holds : String → ValueBlock → Prop}
    (h : ∃ b, Holds "VkMode" b ∧ (b.isEnum ∨ b.isBitmask)) :
    (withBlocks blocks).SelfContained Vulkan.convention Holds := by
  have hmode : (withBlocks blocks).Defines Vulkan.convention Holds "VkMode" := by
    refine ⟨typesOfMode[0], ?_, rfl, Or.inr ⟨rfl, h⟩⟩
    rw [typeNamed?, namedTypes_withBlocks]; decide +kernel
  have halias : (withBlocks blocks).Resolves Vulkan.convention Holds "VkModeKHR" := by
    refine Or.inr ⟨typesOfMode[1], "VkMode", ?_, rfl, hmode⟩
    rw [typeNamed?, namedTypes_withBlocks]; decide +kernel
  have hinfo : (withBlocks blocks).Resolves Vulkan.convention Holds "VkInfo" := by
    refine Or.inl ⟨typesOfMode[2], ?_, rfl, Or.inl ⟨"struct", by decide, rfl⟩⟩
    rw [typeNamed?, namedTypes_withBlocks]; decide +kernel
  constructor
  · rw [commands_withBlocks]; decide
  · rw [commands_withBlocks, namedTypes_withBlocks]; decide +kernel
  · rw [types_withBlocks]
    have hcode : Declaration.ofCode "VkModeKHR mode" =
        .ok ⟨"mode", "VkModeKHR", "VkModeKHR", 0, false, [], none, false⟩ := by decide +kernel
    intro t ht _ hcategory mem hmem _ d hd _
    simp only [typesOfMode, List.mem_cons, List.not_mem_nil, or_false] at ht
    rcases ht with rfl | rfl | rfl
    · exact absurd hcategory (by decide)
    · exact absurd hcategory (by decide)
    · obtain rfl := List.mem_singleton.mp hmem
      rw [hcode] at hd
      cases hd
      exact ⟨rfl, halias⟩
  · rw [commands_withBlocks]
    have hcode : Declaration.ofCode "const VkInfo* pInfo" =
        .ok ⟨"pInfo", "const VkInfo*", "VkInfo", 1, true, [], none, false⟩ := by decide +kernel
    intro d hd p hp _ decl hdecl _
    obtain rfl := CommandEntry.definition.inj (List.mem_singleton.mp hd)
    obtain rfl := List.mem_singleton.mp hp
    rw [hcode] at hdecl
    cases hdecl
    exact ⟨rfl, hinfo⟩
  · rw [types_withBlocks]
    intro t ht _ hcategory
    simp only [typesOfMode, List.mem_cons, List.not_mem_nil, or_false] at ht
    rcases ht with rfl | rfl | rfl <;> exact absurd hcategory (by decide)

/-- With one block for the enum, the command, the struct and the enum are built. -/
theorem danglingReferences_withBlocks : ∃ r m,
    r = withBlocks [⟨some "VkMode", some "enum", none, []⟩] ∧
    r.SelfContained Vulkan.convention r.HasLastBlock ∧
    r.build Vulkan.convention .default = .ok m ∧ m.enums = [⟨"VkMode", []⟩] ∧
    m.danglingReferences = [] := by
  have hbuilt : ((withBlocks [⟨some "VkMode", some "enum", none, []⟩]).build Vulkan.convention
      .default).map Model.enums = .ok [⟨"VkMode", []⟩] := by decide +kernel
  obtain ⟨m, hm, henums⟩ := exists_of_map_eq_ok hbuilt
  have hcontained : (withBlocks [⟨some "VkMode", some "enum", none, []⟩]).SelfContained
      Vulkan.convention (withBlocks [⟨some "VkMode", some "enum", none, []⟩]).HasLastBlock := by
    refine selfContained_withBlocks ⟨⟨some "VkMode", some "enum", none, []⟩, ?_, Or.inl rfl⟩
    rw [HasLastBlock]; rfl
  exact ⟨_, m, rfl, hcontained, hm, henums, danglingReferences_of_selfContained hcontained hm⟩

/-- A second block for the enum, of another kind, hides the first one, and the enum is not built. -/
theorem danglingReferences_of_hidden_block : ∃ r m,
    r = withBlocks [⟨some "VkMode", some "enum", none, []⟩, ⟨some "VkMode", none, none, []⟩] ∧
    r.SelfContained Vulkan.convention r.HasBlock ∧ r.build Vulkan.convention .default = .ok m ∧
    m.danglingReferences = ["VkInfo::mode has unknown type VkModeKHR"] := by
  have hbuilt : ((withBlocks [⟨some "VkMode", some "enum", none, []⟩,
      ⟨some "VkMode", none, none, []⟩]).build Vulkan.convention .default).map
        Model.danglingReferences = .ok ["VkInfo::mode has unknown type VkModeKHR"] := by
    decide +kernel
  obtain ⟨m, hm, hdangling⟩ := exists_of_map_eq_ok hbuilt
  refine ⟨_, m, rfl, selfContained_withBlocks ⟨⟨some "VkMode", some "enum", none, []⟩, ?_, ?_⟩, hm,
    hdangling⟩
  · exact List.mem_cons_self
  · exact Or.inl rfl

end Registry

end LayerStencil
