import LayerStencil.Proofs.Registry.Inventory

/-! # Canonical names

A model knows of each alias the name that its entry gives, and looks it up once. The canonical name
of an alias is therefore an alias itself where the registry has a chain of them.

* `Registry.StandsFor`: the aliases that a selection needs or lists, with their targets.
* `Registry.get?_aliases_of_build`: these are the aliases of the model.
* `Registry.canonicalName_idempotent_iff`: a canonical name is canonical if and only if it does not
  stand for another one. -/

namespace LayerStencil.Registry

variable {c : Convention} {s : Selection} {r : Registry} {m : Model} {ds : List Demand}
  {types : List (String × BuiltType)} {name target : String}

/-! ### What stands for what -/

/-- The entry of a needed type is an alias of the target. -/
def RenamesType (c : Convention) (s : Selection) (r : Registry) (name target : String) : Prop :=
  r.Needs c s name ∧ ∃ t, r.typeNamed? c name = some t ∧ t.aliasOf = some target

/-- The first entry of a listed command is an alias of the target; the conventions do not exclude
the command, and no needed type has its name, unless as an alias. -/
def RenamesCommand (c : Convention) (s : Selection) (r : Registry) (name target : String) : Prop :=
  r.Lists c s (.command name) ∧ ¬ c.isExcluded name ∧
    ¬ (r.Needs c s name ∧ ∃ t, r.typeNamed? c name = some t ∧ t.aliasOf = none) ∧
    r.commands.find? (·.name = name) = some (.aliasOf name target)

/-- The name stands for the target as a command, or else as a type. -/
def StandsFor (c : Convention) (s : Selection) (r : Registry) (name target : String) : Prop :=
  r.RenamesCommand c s name target ∨
    (∀ other, ¬ r.RenamesCommand c s name other) ∧ r.RenamesType c s name target

/-! ### Aliases of the model -/

/-- The aliases among the commands of a model, with their targets. -/
def commandAliases (m : Model) : List (String × String) :=
  m.commands.filterMap fun cmd => cmd.aliasOf.map fun target => (cmd.name, target)

theorem mem_commandAliases_iff : (name, target) ∈ commandAliases m ↔
    ∃ command ∈ m.commands, command.name = name ∧ command.aliasOf = some target := by
  rw [commandAliases, List.mem_filterMap]
  refine exists_congr fun command => and_congr_right fun _ => ?_
  rw [Option.map_eq_some_iff]
  constructor
  · rintro ⟨_, halias, he⟩
    cases he
    exact ⟨rfl, halias⟩
  · rintro ⟨rfl, halias⟩
    exact ⟨target, halias, rfl⟩

/-- Every command has a name of its own, so an alias has one target. -/
theorem Production.nodup_commandAliases (h : r.Production c s ds types m) :
    ((commandAliases m).map Prod.fst).Nodup := by
  obtain ⟨extensions, positions, hcommands⟩ := h.commands
  have hnodup : (m.commands.map Command.name).Nodup := by
    rw [names_buildCommands hcommands]
    exact (nodup_eraseDups _).filter _
  refine List.pairwise_map.mpr ((List.pairwise_map.mp hnodup).filterMap _ ?_)
  intro f g hne e he e' he'
  obtain ⟨_, -, rfl⟩ := Option.map_eq_some_iff.mp he
  obtain ⟨_, -, rfl⟩ := Option.map_eq_some_iff.mp he'
  exact hne

/-- The aliases that the model has from its commands. -/
theorem Production.lookup_commandAliases (h : r.Production c s ds types m) :
    (commandAliases m).lookup name = some target ↔ r.RenamesCommand c s name target := by
  rw [Dict.lookup_eq_some_iff_mem h.nodup_commandAliases, mem_commandAliases_iff]
  obtain ⟨extensions, positions, hcommands⟩ := h.commands
  constructor
  · rintro ⟨command, hmem, rfl, halias⟩
    obtain ⟨hdemanded, hkept, hnew, entry, hentry, d, aliasOf, hresolve, hcommand⟩ :=
      find?_of_mem_buildCommands hcommands hmem
    refine ⟨(h.listed _).mp (Demand.mem_commands_iff.mp hdemanded), hkept,
      mt h.mem_ownNames_iff.mpr hnew, ?_⟩
    rw [(Command.name_ofDefinition hcommand).2.1] at halias
    have hname : entry.name = command.name := by simpa using List.find?_some hentry
    rcases CommandEntry.resolve_eq_ok_iff.mp hresolve with ⟨-, rfl⟩ | ⟨name, _, rfl, -, rfl⟩
    · cases halias
    · obtain rfl : name = command.name := hname
      cases halias
      exact hentry
  · rintro ⟨hlisted, hkept, hnew, hentry⟩
    have hname : name ∈ m.commands.map Command.name := by
      rw [names_buildCommands hcommands, List.mem_filter, List.mem_eraseDups]
      refine ⟨List.mem_map.mpr ⟨_, List.mem_of_find?_eq_some hentry, rfl⟩, ?_⟩
      have hdemanded := Demand.mem_commands_iff.mpr ((h.listed _).mpr hlisted)
      simp [hdemanded, hkept, mt h.mem_ownNames_iff.mp hnew]
    -- A command of this name is built, and it can only come from the first entry.
    obtain ⟨command, hmem, rfl⟩ := List.mem_map.mp hname
    obtain ⟨-, -, -, entry, hentry', d, aliasOf, hresolve, hcommand⟩ :=
      find?_of_mem_buildCommands hcommands hmem
    obtain rfl := Option.some.inj (hentry.symm.trans hentry')
    refine ⟨command, hmem, rfl, ?_⟩
    rw [(Command.name_ofDefinition hcommand).2.1]
    rcases CommandEntry.resolve_eq_ok_iff.mp hresolve with ⟨he, -⟩ | ⟨_, _, he, -, rfl⟩
    · cases he
    · cases he; rfl

/-- The aliases that the model has from its types. -/
theorem Production.get?_typeAliases (h : r.Production c s ds types m) :
    (Dict.ofList (BuiltType.aliasesOf types)).get? name = some target ↔
      r.RenamesType c s name target := by
  constructor
  · intro hget
    obtain ⟨t, ht, halias, hrequired⟩ := h.mem_aliasesOf_iff.mp (Dict.mem_of_get?_ofList hget)
    exact ⟨h.mem_requiredTypes_iff.mp hrequired, t, ht, halias⟩
  · rintro ⟨hneeded, t, ht, halias⟩
    rw [h.get?_aliasesOf ht (h.mem_requiredTypes_iff.mpr hneeded), halias]

/-- **The aliases of a model** are the names that stand for others. -/
theorem get?_aliases_of_build (h : r.build c s = .ok m) :
    m.aliases.get? name = some target ↔ r.StandsFor c s name target := by
  obtain ⟨ds, types, h⟩ := exists_production h
  have haliases : m.aliases =
      (Dict.ofList (BuiltType.aliasesOf types)).extend (commandAliases m) := h.aliases
  have hnone : (commandAliases m).lookup name = none ↔ ∀ other, ¬ r.RenamesCommand c s name other :=
    Option.eq_none_iff_forall_ne_some.trans
      (forall_congr' fun _ => not_congr h.lookup_commandAliases)
  rw [haliases, Dict.get?_extend _ h.nodup_commandAliases, Option.or_eq_some_iff,
    h.lookup_commandAliases, h.get?_typeAliases, hnone, StandsFor]

/-! ### Canonical names -/

theorem canonicalName_of_standsFor (h : r.build c s = .ok m)
    (hname : r.StandsFor c s name target) : m.canonicalName name = target := by
  rw [Model.canonicalName, (get?_aliases_of_build h).mpr hname, Option.getD_some]

theorem canonicalName_eq_self (h : r.build c s = .ok m)
    (hname : ∀ target, r.StandsFor c s name target → target = name) :
    m.canonicalName name = name := by
  rw [Model.canonicalName]
  cases hget : m.aliases.get? name with
  | none => rfl
  | some target => exact hname target ((get?_aliases_of_build h).mp hget)

/-- **Canonical names are canonical** if and only if what an alias stands for does not stand for
another name. -/
theorem canonicalName_idempotent_iff (h : r.build c s = .ok m) (name : String) :
    m.canonicalName (m.canonicalName name) = m.canonicalName name ↔
      ∀ target other, r.StandsFor c s name target → r.StandsFor c s target other →
        other = target := by
  constructor
  · intro hidem target other hname htarget
    rw [canonicalName_of_standsFor h hname, canonicalName_of_standsFor h htarget] at hidem
    exact hidem
  · intro hflat
    by_cases hname : ∃ target, r.StandsFor c s name target
    · obtain ⟨target, hname⟩ := hname
      rw [canonicalName_of_standsFor h hname]
      exact canonicalName_eq_self h fun other => hflat target other hname
    · have hself : m.canonicalName name = name :=
        canonicalName_eq_self h fun target htarget => absurd ⟨target, htarget⟩ hname
      rw [hself, hself]

/-- The alias of an enum has a canonical name that is canonical. -/
theorem canonicalName_idempotent_overlapping : ∃ m,
    overlapping.build Vulkan.convention .default = .ok m ∧
    m.canonicalName "VkModeKHR" = "VkMode" ∧
    m.canonicalName (m.canonicalName "VkModeKHR") = m.canonicalName "VkModeKHR" := by
  have hbuilt : (overlapping.build Vulkan.convention .default).map
      (fun m => m.canonicalName "VkModeKHR") = .ok "VkMode" := by decide +kernel
  obtain ⟨m, hm, hname⟩ := exists_of_map_eq_ok hbuilt
  refine ⟨m, hm, hname, (canonicalName_idempotent_iff hm _).mpr fun target other h h' => ?_⟩
  obtain rfl : target = "VkMode" := (canonicalName_of_standsFor hm h).symm.trans hname
  rcases h' with ⟨-, -, -, h'⟩ | ⟨-, -, t, ht, h'⟩
  · rw [show overlapping.commands.find? (·.name = "VkMode") = none by decide +kernel] at h'
    cases h'
  · rw [show overlapping.typeNamed? Vulkan.convention "VkMode" = some typesOfMode[0] by
      decide +kernel] at ht
    cases ht
    cases h'

/-- A feature that lists an alias of an alias of a struct. -/
def chained : Registry where
  parts := [
    .types [
      { (default : TypeEntry) with name := some "VkInfoKHR", aliasOf := some "VkInfo2" },
      { (default : TypeEntry) with name := some "VkInfo2", aliasOf := some "VkInfo" },
      { (default : TypeEntry) with name := some "VkInfo", category := some "struct" }],
    .feature ⟨"vulkan", "VK_VERSION_1_0", [⟨none, [.type "VkInfoKHR"]⟩]⟩,
    .extensions []]

/-- **A canonical name that is not canonical**: the alias of an alias stands for the latter, which
stands for the struct. -/
theorem canonicalName_ne_of_chained : ∃ m, chained.build Vulkan.convention .default = .ok m ∧
    m.canonicalName (m.canonicalName "VkInfoKHR") ≠ m.canonicalName "VkInfoKHR" := by
  have hbuilt : (chained.build Vulkan.convention .default).map
      (fun m => (m.canonicalName (m.canonicalName "VkInfoKHR"), m.canonicalName "VkInfoKHR")) =
        .ok ("VkInfo", "VkInfo2") := by decide +kernel
  obtain ⟨m, hm, hnames⟩ := exists_of_map_eq_ok hbuilt
  obtain ⟨hcanonical, hname⟩ := Prod.mk.inj hnames
  exact ⟨m, hm, by rw [hcanonical, hname]; decide⟩

end LayerStencil.Registry
