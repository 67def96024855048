import LayerStencil.Model.Reference
import LayerStencil.Proofs.Failure
import LayerStencil.Registry.Build
import Mathlib.Tactic.Common

/-! # What the parts of a built model come from

* `Registry.Assembly`: how the lists and the aliases of a model follow from the types and commands
  that were built.
* `Registry.exists_assembly_of_demands`: every model that is built is put together in this way from
  what its selection demands.
* `mem_builtTypes_iff`, `BuiltType.ofEntry_eq_struct`, `BuiltType.ofEntry_eq_flag`: what a required
  entry becomes, and from which entries structs and flags come.
* `find?_of_mem_buildCommands`: from which entries commands come. -/

namespace LayerStencil

/-! ### Types -/

/-- The name of what the model lists among the types that a reference can name. -/
def BuiltType.ownName? : BuiltType → Option String
  | struct s => some s.name
  | union u => some u.name
  | handle h => some h.name
  | baseType b => some b.name
  | flag f => some f.name
  | functionPointer p => some p.name
  | enum e => some e.name
  | bitmask b => some b.name
  | _ => none

section Types
variable {c : Convention} {x : RegistryIndex} {ds : List Demand}

theorem RegistryIndex.mem_selectedTypes_iff {e : String × TypeEntry} :
    e ∈ x.selectedTypes c ds ↔ x.types.get? e.1 = some e.2 ∧ e.1 ∈ x.requiredTypes c ds := by
  rw [selectedTypes, List.mem_filter, List.contains_iff_mem, ← Dict.mem_entries_iff]

/-- What is built are the required types, each from its entry. -/
theorem RegistryIndex.mem_builtTypes_iff {types : List (String × BuiltType)}
    (h : x.builtTypes c ds = .ok types) :
    (∀ name built, (name, built) ∈ types → ∃ t, x.types.get? name = some t ∧
      name ∈ x.requiredTypes c ds ∧ BuiltType.ofEntry c x ds name t = .ok built) ∧
    ∀ name t, x.types.get? name = some t → name ∈ x.requiredTypes c ds →
      ∃ built, (name, built) ∈ types ∧ BuiltType.ofEntry c x ds name t = .ok built := by
  constructor
  · intro name built hmem
    obtain ⟨⟨name', t⟩, ht, hbuilt⟩ := exists_of_mem_mapM h _ hmem
    obtain ⟨built', hbuilt, he⟩ := exists_of_map_eq_ok hbuilt
    cases he
    obtain ⟨hget, hrequired⟩ := mem_selectedTypes_iff.mp ht
    exact ⟨t, hget, hrequired, hbuilt⟩
  · intro name t hget hrequired
    obtain ⟨e, he, hbuilt⟩ :=
      exists_mem_mapM h (name, t) (mem_selectedTypes_iff.mpr ⟨hget, hrequired⟩)
    obtain ⟨built, hentry, rfl⟩ := exists_of_map_eq_ok hbuilt
    exact ⟨built, he, hentry⟩

theorem BuiltType.ofBlock_ne_struct {name : String} {s : Struct} :
    BuiltType.ofBlock c x ds name ≠ .struct s := by
  unfold BuiltType.ofBlock
  split
  · nofun
  · split_ifs <;> nofun

theorem BuiltType.ofBlock_ne_flag {name : String} {f : Flag} :
    BuiltType.ofBlock c x ds name ≠ .flag f := by
  unfold BuiltType.ofBlock
  split
  · nofun
  · split_ifs <;> nofun

theorem BuiltType.ofEntry_eq_struct {name : String} {t : TypeEntry} {s : Struct}
    (h : BuiltType.ofEntry c x ds name t = .ok (.struct s)) :
    t.category = some "struct" ∧ Struct.ofEntry c name t = .ok s := by
  unfold BuiltType.ofEntry at h
  split at h
  · cases h
  · split at h
    case h_1 hcategory =>
      obtain ⟨s', hs, he⟩ := exists_of_map_eq_ok h
      cases he
      exact ⟨hcategory, hs⟩
    case h_2 =>
      obtain ⟨u, -, he⟩ := exists_of_map_eq_ok h
      cases he
    case h_7 => exact absurd (Except.ok.inj h) BuiltType.ofBlock_ne_struct
    case h_9 => split_ifs at h <;> cases h
    all_goals cases h

theorem BuiltType.ofEntry_eq_flag {name : String} {t : TypeEntry} {f : Flag}
    (h : BuiltType.ofEntry c x ds name t = .ok (.flag f)) :
    t.category = some "bitmask" ∧ f.bits = t.requires.or t.bitValues := by
  unfold BuiltType.ofEntry at h
  split at h
  · cases h
  · split at h
    case h_1 =>
      obtain ⟨s, -, he⟩ := exists_of_map_eq_ok h
      cases he
    case h_2 =>
      obtain ⟨u, -, he⟩ := exists_of_map_eq_ok h
      cases he
    case h_5 hcategory => cases h; exact ⟨hcategory, rfl⟩
    case h_7 => exact absurd (Except.ok.inj h) BuiltType.ofBlock_ne_flag
    case h_9 => split_ifs at h <;> cases h
    all_goals cases h

theorem BuiltType.aliasTarget?_ofEntry {name : String} {t : TypeEntry} {built : BuiltType}
    (h : BuiltType.ofEntry c x ds name t = .ok built) : built.aliasTarget? = t.aliasOf := by
  unfold BuiltType.ofEntry at h
  split at h
  case h_1 halias => cases h; exact halias.symm
  case h_2 halias =>
    rw [halias]
    split at h
    case h_1 => obtain ⟨s, -, rfl⟩ := exists_of_map_eq_ok h; rfl
    case h_2 => obtain ⟨u, -, rfl⟩ := exists_of_map_eq_ok h; rfl
    case h_7 =>
      cases h
      unfold BuiltType.ofBlock
      split
      · rfl
      · split_ifs <;> rfl
    case h_9 => split_ifs at h <;> cases h <;> rfl
    all_goals cases h; rfl

end Types

/-! ### Commands -/

theorem Registry.mem_namedDefinitions_iff {r : Registry} {name : String}
    {d : CommandDefinition} :
    (name, d) ∈ r.namedDefinitions ↔ .definition d ∈ r.commands ∧ d.proto.name = name := by
  rw [namedDefinitions, List.mem_filterMap]
  constructor
  · rintro ⟨entry, hentry, he⟩
    cases entry <;> cases he
    exact ⟨hentry, rfl⟩
  · rintro ⟨hentry, rfl⟩
    exact ⟨_, hentry, rfl⟩

theorem Registry.mem_namedAliases_iff {r : Registry} {name target : String} :
    (name, target) ∈ r.namedAliases ↔ .aliasOf name target ∈ r.commands := by
  rw [namedAliases, List.mem_filterMap]
  constructor
  · rintro ⟨entry, hentry, he⟩
    cases entry <;> cases he
    exact hentry
  · exact fun hentry => ⟨_, hentry, rfl⟩

section Commands
variable {c : Convention} {x : RegistryIndex} {demanded : OrderedSet String}
  {extensions : List Extension} {positions : Dict Nat}

theorem Command.name_ofDefinition {name : String} {aliasOf : Option String} {d : CommandDefinition}
    {command : Command}
    (h : Command.ofDefinition c extensions positions name aliasOf d = .ok command) :
    command.name = name ∧ command.aliasOf = aliasOf ∧
      d.parametersOf c name = .ok command.parameters := by
  obtain ⟨parameters, hparameters, h⟩ := exists_of_bind_eq_ok h
  cases h
  exact ⟨rfl, rfl, hparameters⟩

/-- A definition resolves to itself, and an alias to the definition of its target. -/
theorem CommandEntry.resolve_eq_ok_iff {entry : CommandEntry} {d : CommandDefinition}
    {aliasOf : Option String} : entry.resolve x = .ok (d, aliasOf) ↔
      entry = .definition d ∧ aliasOf = none ∨ ∃ name target, entry = .aliasOf name target ∧
        x.definitions.get? target = some d ∧ aliasOf = some target := by
  constructor
  · intro h
    cases entry with
    | definition d' => cases h; exact .inl ⟨rfl, rfl⟩
    | aliasOf name target =>
      rw [CommandEntry.resolve] at h
      split at h
      · rename_i hget
        cases h
        exact .inr ⟨name, target, rfl, hget, rfl⟩
      · cases h
  · rintro (⟨rfl, rfl⟩ | ⟨name, target, rfl, hget, rfl⟩)
    · rfl
    · rw [CommandEntry.resolve, hget]

/-- **A command that is built** comes from the first entry of its name. The entry is demanded and
not left out, its name is new, and the command is built by its definition. -/
theorem find?_of_mem_buildCommands {command : Command} :
    ∀ {entries : List CommandEntry} {built : List String} {commands : List Command},
      buildCommands c x demanded extensions positions built entries = .ok commands →
      command ∈ commands → command.name ∈ demanded ∧ ¬ c.isExcluded command.name ∧
        command.name ∉ built ∧ ∃ entry, entries.find? (·.name = command.name) = some entry ∧
        ∃ d aliasOf, entry.resolve x = .ok (d, aliasOf) ∧
          Command.ofDefinition c extensions positions command.name aliasOf d = .ok command
  | [], _, _, h, hmem => by cases h; cases hmem
  | entry :: rest, built, commands, h, hmem => by
    rw [buildCommands] at h
    by_cases hdemanded : entry.name ∉ demanded
    · rw [if_pos hdemanded] at h
      obtain ⟨hname, hkept, hnew, hentry⟩ := find?_of_mem_buildCommands h hmem
      have hne : ¬ entry.name = command.name := fun heq => hdemanded (heq ▸ hname)
      rw [List.find?_cons_of_neg (by simpa using hne)]
      exact ⟨hname, hkept, hnew, hentry⟩
    · rw [if_neg hdemanded] at h
      obtain ⟨⟨d, aliasOf⟩, hresolve, h⟩ := exists_of_bind_eq_ok h
      dsimp only at h
      by_cases hskip : (c.isExcluded entry.name || built.contains entry.name) = true
      · rw [if_pos hskip] at h
        obtain ⟨hname, hkept, hnew, hentry⟩ := find?_of_mem_buildCommands h hmem
        have hne : ¬ entry.name = command.name := by
          intro heq
          rw [heq] at hskip
          simp [hkept, hnew] at hskip
        rw [List.find?_cons_of_neg (by simpa using hne)]
        exact ⟨hname, hkept, hnew, hentry⟩
      · rw [if_neg hskip] at h
        obtain ⟨command', hcommand, h⟩ := exists_of_bind_eq_ok h
        obtain ⟨commands', hcommands, h⟩ := exists_of_bind_eq_ok h
        cases h
        simp only [Bool.or_eq_true, List.contains_iff_mem, not_or] at hskip
        rcases List.mem_cons.mp hmem with rfl | hmem
        · rw [(Command.name_ofDefinition hcommand).1]
          exact ⟨not_not.mp hdemanded, hskip.1, hskip.2, entry, List.find?_cons_of_pos (by simp), d,
            aliasOf, hresolve, hcommand⟩
        · obtain ⟨hname, hkept, hnew, hentry⟩ := find?_of_mem_buildCommands hcommands hmem
          rw [List.mem_cons, not_or] at hnew
          rw [List.find?_cons_of_neg (by simpa using Ne.symm hnew.1)]
          exact ⟨hname, hkept, hnew.2, hentry⟩

/-- A command that is built comes from an entry that is demanded, by its definition. -/
theorem exists_of_mem_buildCommands {command : Command} {entries : List CommandEntry}
    {built : List String} {commands : List Command}
    (h : buildCommands c x demanded extensions positions built entries = .ok commands)
    (hmem : command ∈ commands) : ∃ entry ∈ entries, entry.name ∈ demanded ∧ ∃ d aliasOf,
      entry.resolve x = .ok (d, aliasOf) ∧
      Command.ofDefinition c extensions positions entry.name aliasOf d = .ok command := by
  obtain ⟨hdemanded, -, -, entry, hentry, d, aliasOf, hresolve, hcommand⟩ :=
    find?_of_mem_buildCommands h hmem
  have hname : entry.name = command.name := by simpa using List.find?_some hentry
  rw [← hname] at hdemanded hcommand
  exact ⟨entry, List.mem_of_find?_eq_some hentry, hdemanded, d, aliasOf, hresolve, hcommand⟩

end Commands

/-! ### The model -/

/-- What the features and the given extensions demand that a selection chooses. -/
def Registry.demandsOf (c : Convention) (s : Selection) (r : Registry)
    (entries : List ExtensionEntry) : List Demand :=
  (r.chosenFeatures c s).flatMap (·.demands c) ++
    (entries.filter (·.isChosen s)).flatMap (·.demands c)

/-- How the lists and the aliases of a model follow from the demands and from the types that were
built. -/
structure Registry.Assembly (c : Convention) (r : Registry) (ds : List Demand)
    (types : List (String × BuiltType)) (m : Model) : Prop where
  builtTypes : (r.index c).builtTypes c ds = .ok types
  commands : ∃ extensions positions, buildCommands c (r.index c) (Demand.commands ds) extensions
    positions (BuiltType.ownNames types) r.commands = .ok m.commands
  structs : ∀ s ∈ m.structs, ∃ name, (name, .struct s) ∈ types
  flags : ∀ f ∈ m.flags, ∃ name, (name, .flag f) ∈ types
  definesType : ∀ name, (∃ e ∈ types, e.2.ownName? = some name) → m.definesType name
  aliases : m.aliases = (Dict.ofList (BuiltType.aliasesOf types)).extend
    (m.commands.filterMap fun cmd => cmd.aliasOf.map fun target => (cmd.name, target))

/-- **A model that is built** is put together from the types and commands that its selection
demands. -/
theorem Registry.exists_assembly_of_demands {c : Convention} {s : Selection} {r : Registry}
    {m : Model} (h : r.build c s = .ok m) : ∃ entries types, r.extensions? = some entries ∧
      r.Assembly c (r.demandsOf c s entries) types m := by
  unfold Registry.build at h
  dsimp only at h
  split at h
  case h_2 => cases h
  rename_i entries hentries
  obtain ⟨_, ⟨⟩, h⟩ := exists_of_bind_eq_ok h
  obtain ⟨types, htypes, h⟩ := exists_of_bind_eq_ok h
  obtain ⟨commands, hcommands, h⟩ := exists_of_bind_eq_ok h
  cases h
  refine ⟨entries, types, hentries, htypes, ⟨_, _, hcommands⟩, ?_, ?_, ?_, rfl⟩
  · intro s hs
    obtain ⟨built, hbuilt, he⟩ := List.mem_filterMap.mp hs
    obtain ⟨⟨name, _⟩, hmem, rfl⟩ := List.mem_map.mp hbuilt
    dsimp only at he
    split at he <;> cases he
    exact ⟨name, hmem⟩
  · intro f hf
    obtain ⟨built, hbuilt, he⟩ := List.mem_filterMap.mp hf
    obtain ⟨⟨name, _⟩, hmem, rfl⟩ := List.mem_map.mp hbuilt
    dsimp only at he
    split at he <;> cases he
    exact ⟨name, hmem⟩
  · rintro name ⟨⟨_, built⟩, hmem, hname⟩
    have hbuilt : built ∈ types.map Prod.snd := List.mem_map.mpr ⟨_, hmem, rfl⟩
    simp only [Model.definesType, Bool.or_eq_true, List.any_eq_true, List.mem_filterMap,
      decide_eq_true_eq]
    cases built <;> cases hname <;> grind

theorem Registry.exists_assembly {c : Convention} {s : Selection} {r : Registry} {m : Model}
    (h : r.build c s = .ok m) : ∃ ds types, r.Assembly c ds types m := by
  obtain ⟨entries, types, -, hassembly⟩ := exists_assembly_of_demands h
  exact ⟨_, types, hassembly⟩

end LayerStencil
