import LayerStencil.Convention.Vulkan
import LayerStencil.Proofs.Registry.Assembly
import LayerStencil.Proofs.Registry.Reachability
import Mathlib.Tactic.Common

/-! # Elements of other APIs

An element that lists APIs applies to these only. `Registry.forApi` deletes all elements that do not
apply: features, types, members, parameters, values, requirements and the values in them. What a
model is built from is the same before and after, but for two things: the constants of the API are
taken from values that do not apply as well, and the types of parameters that do not apply are
required like others.

* `Registry.index_forApi`: the index of the reduced registry is the index, reduced.
* `Feature.demands_forApi`, `ExtensionEntry.demands_forApi`: the demands are those whose values
  apply.
* `BuiltType.ofEntry_forApi`, `buildCommands_forApi`: entities are the same.
* `Registry.KeepsApart`: neither constants nor types are leaked.
* `Registry.build_forApi`: then both registries give the same model, or the same error. -/

namespace LayerStencil

/-! ### Values of a dictionary -/

namespace Dict

variable {α β : Type} (f : α → β)

/-- The dictionary with all values mapped. -/
def map (d : Dict α) : Dict β :=
  ⟨d.entries.map fun e => (e.1, f e.2), by rw [List.map_map]; exact d.nodup⟩

theorem ext {d e : Dict α} (h : d.entries = e.entries) : d = e := by
  cases d; cases e; cases h; rfl

theorem keys_map (d : Dict α) : (d.map f).entries.map Prod.fst = d.entries.map Prod.fst := by
  rw [map, List.map_map]; rfl

theorem get?_map (d : Dict α) (k : String) : (d.map f).get? k = (d.get? k).map f := by
  show (d.entries.map fun e => (e.1, f e.2)).lookup k = (d.entries.lookup k).map f
  induction d.entries with
  | nil => rfl
  | cons e entries ih =>
    rw [List.map_cons, List.lookup_cons, List.lookup_cons, ih]
    cases k == e.1 <;> rfl

theorem map_insert (d : Dict α) (name : String) (value : α) :
    (d.insert name value).map f = (d.map f).insert name (f value) := by
  apply ext
  by_cases h : name ∈ d.entries.map Prod.fst
  · rw [insert, dif_pos h, insert, dif_pos (by rwa [keys_map])]
    simp only [map, replace, List.map_map]
    refine List.map_congr_left fun e _ => ?_
    by_cases he : e.1 = name <;> simp [he]
  · rw [insert, dif_neg h, insert, dif_neg (by rwa [keys_map])]
    simp [map]

theorem map_insertNew (d : Dict α) (name : String) (value : α) :
    (d.insertNew name value).map f = (d.map f).insertNew name (f value) := by
  apply ext
  by_cases h : name ∈ d.entries.map Prod.fst
  · rw [insertNew, dif_pos h, insertNew, dif_pos (by rwa [keys_map])]
  · rw [insertNew, dif_neg h, insertNew, dif_neg (by rwa [keys_map])]
    simp [map]

theorem ofList_map (l : List (String × α)) :
    ofList (l.map fun e => (e.1, f e.2)) = (ofList l).map f := by
  show (empty : Dict β).extend _ = _
  have hextend : ∀ (l : List (String × α)) (d : Dict α),
      (d.map f).extend (l.map fun e => (e.1, f e.2)) = (d.extend l).map f := by
    intro l
    induction l with
    | nil => exact fun _ => rfl
    | cons e l ih =>
      intro d
      show ((d.map f).insert e.1 (f e.2)).extend _ = ((d.insert e.1 e.2).extend l).map f
      rw [← ih, map_insert]
  exact hextend l empty

theorem ofFirsts_map (l : List (String × α)) :
    ofFirsts (l.map fun e => (e.1, f e.2)) = (ofFirsts l).map f := by
  show (empty : Dict β).extendNew _ = _
  have hextend : ∀ (l : List (String × α)) (d : Dict α),
      (d.map f).extendNew (l.map fun e => (e.1, f e.2)) = (d.extendNew l).map f := by
    intro l
    induction l with
    | nil => exact fun _ => rfl
    | cons e l ih =>
      intro d
      show ((d.map f).insertNew e.1 (f e.2)).extendNew _ =
        ((d.insertNew e.1 e.2).extendNew l).map f
      rw [← ih, map_insertNew]
  exact hextend l empty

end Dict

/-! ### What applies to an API -/

section Reduce
variable (c : Convention)

/-- The type without the members that do not apply. -/
def TypeEntry.forApi (t : TypeEntry) : TypeEntry where
  __ := t
  body := match t.body with
    | .members ms => .members (ms.filter fun m => c.applies m.apis)
    | body => body

/-- The block without the values that do not apply. -/
def ValueBlock.forApi (b : ValueBlock) : ValueBlock where
  __ := b
  values := b.values.filter fun v => c.applies v.apis

/-- The definition without the parameters that do not apply. -/
def CommandDefinition.forApi (d : CommandDefinition) : CommandDefinition where
  __ := d
  parameters := d.parameters.filter fun p => c.applies p.apis

/-- The command without the parameters that do not apply. -/
def CommandEntry.forApi : CommandEntry → CommandEntry
  | definition d => definition (d.forApi c)
  | aliasOf name target => aliasOf name target

/-- Does an item apply? A value that lists other APIs does not. -/
def RequiredItem.appliesTo : RequiredItem → Bool
  | value v => c.applies v.apis
  | _ => true

/-- The requirements that apply, without the values that do not. -/
def Requirement.forApi (rs : List Requirement) : List Requirement :=
  (rs.filter fun r => c.applies r.apis).map fun r =>
    { r with items := r.items.filter (RequiredItem.appliesTo c) }

/-- The feature without what does not apply. -/
def Feature.forApi (f : Feature) : Feature where
  __ := f
  requirements := Requirement.forApi c f.requirements

/-- The extension without what does not apply. -/
def ExtensionEntry.forApi (e : ExtensionEntry) : ExtensionEntry where
  __ := e
  requirements := Requirement.forApi c e.requirements

/-- The part without what does not apply; nothing is left of a feature of other APIs. -/
def RegistryPart.forApi? : RegistryPart → Option RegistryPart
  | types entries => some (types ((entries.filter fun t => c.applies t.apis).map (·.forApi c)))
  | values block => some (values (block.forApi c))
  | commands entries => some (commands (entries.map (·.forApi c)))
  | feature f => if c.isListed f.apis then some (feature (f.forApi c)) else none
  | extensions entries => some (extensions (entries.map (·.forApi c)))

/-- The registry without the elements that do not apply. -/
def Registry.forApi (r : Registry) : Registry := ⟨r.parts.filterMap (RegistryPart.forApi? c)⟩

/-- The index without the members, parameters and values that do not apply. -/
def RegistryIndex.forApi (x : RegistryIndex) : RegistryIndex where
  types := x.types.map (·.forApi c)
  includes := x.includes
  definitions := x.definitions.map (·.forApi c)
  commandAliases := x.commandAliases
  blocks := x.blocks.map (·.forApi c)

end Reduce

section
variable {c : Convention}

@[simp] theorem TypeEntry.code?_forApi (t : TypeEntry) : (t.forApi c).code? = t.code? := by
  cases hbody : t.body <;> simp [TypeEntry.forApi, TypeEntry.code?, hbody]

@[simp] theorem TypeEntry.name?_forApi (t : TypeEntry) : (t.forApi c).name? = t.name? := by
  rw [TypeEntry.name?, TypeEntry.name?, TypeEntry.code?_forApi]; rfl

@[simp] theorem TypeEntry.codeType?_forApi (t : TypeEntry) :
    (t.forApi c).codeType? = t.codeType? := by
  rw [TypeEntry.codeType?, TypeEntry.codeType?, TypeEntry.code?_forApi]

@[simp] theorem TypeEntry.members_forApi (t : TypeEntry) :
    (t.forApi c).members = t.members.filter fun m => c.applies m.apis := by
  cases hbody : t.body <;> simp [TypeEntry.forApi, TypeEntry.members, hbody]

@[simp] theorem CommandEntry.name_forApi (entry : CommandEntry) :
    (entry.forApi c).name = entry.name := by
  cases entry <;> rfl

/-! ### Views of a registry -/

namespace Registry

/-- Lists gathered from the elements that are kept. -/
theorem flatMap_filterMap {α β γ : Type} (f : α → Option β) (g : β → List γ) (l : List α) :
    (l.filterMap f).flatMap g = l.flatMap fun a => ((f a).map g).getD [] := by
  induction l with
  | nil => rfl
  | cons a l ih =>
    rw [List.filterMap_cons, List.flatMap_cons, ← ih]
    cases f a <;> rfl

variable (r : Registry)

theorem types_forApi :
    (r.forApi c).types = (r.types.filter fun t => c.applies t.apis).map (·.forApi c) := by
  rw [types, types, forApi, flatMap_filterMap, List.filter_flatMap, List.map_flatMap]
  refine congrArg (List.flatMap · _) (funext fun part => ?_)
  cases part with
  | feature f => cases hf : c.isListed f.apis <;> simp [RegistryPart.forApi?, hf]
  | _ => rfl

theorem blocks_forApi : (r.forApi c).blocks = r.blocks.map (·.forApi c) := by
  rw [blocks, blocks, forApi, List.filterMap_filterMap, List.map_filterMap]
  refine congrArg (List.filterMap · _) (funext fun part => ?_)
  cases part with
  | feature f => cases hf : c.isListed f.apis <;> simp [RegistryPart.forApi?, hf]
  | _ => rfl

theorem commands_forApi : (r.forApi c).commands = r.commands.map (·.forApi c) := by
  rw [commands, commands, forApi, flatMap_filterMap, List.map_flatMap]
  refine congrArg (List.flatMap · _) (funext fun part => ?_)
  cases part with
  | feature f => cases hf : c.isListed f.apis <;> simp [RegistryPart.forApi?, hf]
  | _ => rfl

theorem features_forApi : (r.forApi c).features =
    (r.features.filter fun f => c.isListed f.apis).map (·.forApi c) := by
  rw [features, features, forApi, List.filterMap_filterMap, List.filter_filterMap,
    List.map_filterMap]
  refine congrArg (List.filterMap · _) (funext fun part => ?_)
  cases part with
  | feature f => cases hf : c.isListed f.apis <;> simp [RegistryPart.forApi?, Option.filter, hf]
  | _ => rfl

theorem extensions?_forApi :
    (r.forApi c).extensions? = r.extensions?.map fun es => es.map (·.forApi c) := by
  rw [extensions?, extensions?, ← List.head?_filterMap, ← List.head?_filterMap, ← List.head?_map,
    forApi, List.filterMap_filterMap, List.map_filterMap]
  refine congrArg (fun g => (List.filterMap g _).head?) (funext fun part => ?_)
  cases part with
  | feature f => cases hf : c.isListed f.apis <;> simp [RegistryPart.forApi?, hf]
  | _ => rfl

theorem namedTypes_forApi :
    (r.forApi c).namedTypes c = (r.namedTypes c).map fun e => (e.1, e.2.forApi c) := by
  have hfilter : (fun t : TypeEntry => c.applies t.apis) ∘ TypeEntry.forApi c =
      fun t : TypeEntry => c.applies t.apis := rfl
  rw [namedTypes, namedTypes, types_forApi, List.filter_map, hfilter, List.filter_filter]
  simp only [Bool.and_self, List.filterMap_map, List.map_filterMap]
  congr 1
  funext t
  rw [Function.comp, TypeEntry.name?_forApi]
  cases t.name? <;> rfl

theorem namedDefinitions_forApi :
    (r.forApi c).namedDefinitions = r.namedDefinitions.map fun e => (e.1, e.2.forApi c) := by
  rw [namedDefinitions, namedDefinitions, commands_forApi, List.filterMap_map, List.map_filterMap]
  congr 1
  funext entry
  cases entry <;> rfl

theorem namedAliases_forApi : (r.forApi c).namedAliases = r.namedAliases := by
  rw [namedAliases, namedAliases, commands_forApi, List.filterMap_map]
  congr 1
  funext entry
  cases entry <;> rfl

theorem namedBlocks_forApi :
    (r.forApi c).namedBlocks = r.namedBlocks.map fun e => (e.1, e.2.forApi c) := by
  rw [namedBlocks, namedBlocks, blocks_forApi, List.filterMap_map, List.map_filterMap]
  congr 1
  funext b
  show b.name.map _ = (b.name.map _).map _
  rw [Option.map_map]
  rfl

/-- **The index of the reduced registry** is the index, reduced. -/
theorem index_forApi : (r.forApi c).index c = (r.index c).forApi c := by
  have hincludes : ((r.forApi c).namedTypes c).filterMap (fun e =>
      if e.2.category = some "include" then some e.1 else none) = (r.index c).includes := by
    rw [namedTypes_forApi, List.filterMap_map]; rfl
  rw [index, hincludes, namedTypes_forApi, namedDefinitions_forApi, namedAliases_forApi,
    namedBlocks_forApi, Dict.ofFirsts_map, Dict.ofList_map, Dict.ofList_map]
  rfl

end Registry

/-! ### Demands -/

theorem Requirement.itemsFor_forApi (rs : List Requirement) :
    Requirement.itemsFor c (Requirement.forApi c rs) =
      (Requirement.itemsFor c rs).filter (RequiredItem.appliesTo c) := by
  have hfilter : (fun r : Requirement => c.applies r.apis) ∘ (fun r : Requirement =>
      { r with items := r.items.filter (RequiredItem.appliesTo c) }) =
        fun r => c.applies r.apis := rfl
  rw [itemsFor, itemsFor, forApi, List.filter_map, hfilter, List.filter_filter, List.filter_flatMap,
    List.flatMap_map]
  simp only [Bool.and_self]

/-- The demands whose values apply. -/
def Demand.forApi (c : Convention) (ds : List Demand) : List Demand :=
  ds.filter fun d => d.item.appliesTo c

/-- An element that is dropped gives nothing. -/
theorem filterMap_filter_eq {α β : Type} {p : α → Bool} {f : α → Option β}
    (h : ∀ a, p a = false → f a = none) (l : List α) :
    (l.filter p).filterMap f = l.filterMap f := by
  rw [List.filterMap_filter]
  congr 1
  funext a
  cases hp : p a with
  | true => rfl
  | false => exact (h a hp).symm

theorem RequiredItem.type?_of_appliesTo (item : RequiredItem) (h : item.appliesTo c = false) :
    item.type? = none := by
  cases item <;> first | rfl | cases h

theorem RequiredItem.command?_of_appliesTo (item : RequiredItem) (h : item.appliesTo c = false) :
    item.command? = none := by
  cases item <;> first | rfl | cases h

namespace Demand

variable (ds : List Demand)

theorem types_forApi : types (forApi c ds) = types ds :=
  congrArg OrderedSet.ofList (filterMap_filter_eq (fun d => d.item.type?_of_appliesTo) ds)

theorem commands_forApi : commands (forApi c ds) = commands ds :=
  congrArg OrderedSet.ofList (filterMap_filter_eq (fun d => d.item.command?_of_appliesTo) ds)

theorem options_forApi (x : RegistryIndex) (name : String) :
    options c (x.forApi c) name (forApi c ds) = options c x name ds := by
  have hbitmask : (x.forApi c).isBitmask name = x.isBitmask name := by
    rw [RegistryIndex.isBitmask, RegistryIndex.isBitmask, RegistryIndex.forApi, Dict.get?_map]
    cases x.blocks.get? name <;> rfl
  have hoption : option? c (x.forApi c) name = option? c x name := by
    funext d
    rw [option?, option?, hbitmask]
  rw [options, options, hoption]
  refine filterMap_filter_eq (fun d h => ?_) ds
  rw [option?]
  cases hitem : d.item with
  | value v =>
    rw [hitem] at h
    have hv : c.applies v.apis = false := h
    simp [hv]
  | _ => rfl

end Demand

theorem ExtensionEntry.toExtension_forApi (e : ExtensionEntry) :
    (e.forApi c).toExtension c = e.toExtension c := by
  unfold ExtensionEntry.toExtension
  show Extension.mk _ _ _ _
    (.ofList ((Requirement.itemsFor c (Requirement.forApi c _)).filterMap _))
    (.ofList ((Requirement.itemsFor c (Requirement.forApi c _)).filterMap _)) = _
  rw [Requirement.itemsFor_forApi, filterMap_filter_eq RequiredItem.type?_of_appliesTo,
    filterMap_filter_eq RequiredItem.command?_of_appliesTo]
  rfl

theorem Feature.demands_forApi (f : Feature) :
    (f.forApi c).demands c = Demand.forApi c (f.demands c) := by
  show (Requirement.itemsFor c (Requirement.forApi c _)).map _ = (List.map _ _).filter _
  rw [Requirement.itemsFor_forApi, List.filter_map]
  rfl

theorem ExtensionEntry.demands_forApi (e : ExtensionEntry) :
    (e.forApi c).demands c = Demand.forApi c (e.demands c) := by
  show (Requirement.itemsFor c (Requirement.forApi c _)).map _ = (List.map _ _).filter _
  rw [Requirement.itemsFor_forApi, List.filter_map]
  rfl

/-! ### Entities -/

theorem TypeEntry.declarations_forApi (owner : String) (t : TypeEntry) :
    (t.forApi c).declarations c owner = t.declarations c owner := by
  rw [declarations, declarations, members_forApi, List.filter_filter]
  simp only [Bool.and_self]

theorem ValueBlock.options_forApi (x : RegistryIndex) (ds : List Demand) (name : String)
    (b : ValueBlock) :
    (b.forApi c).options c (x.forApi c) (Demand.forApi c ds) name = b.options c x ds name := by
  rw [options, options, Demand.options_forApi, forApi, List.filter_filter]
  simp only [Bool.and_self]
  rfl

theorem BuiltType.ofBlock_forApi (x : RegistryIndex) (ds : List Demand) (name : String) :
    BuiltType.ofBlock c (x.forApi c) (Demand.forApi c ds) name = BuiltType.ofBlock c x ds name := by
  rw [ofBlock, ofBlock, RegistryIndex.forApi, Dict.get?_map]
  cases hb : x.blocks.get? name with
  | none => rfl
  | some b =>
    have hoptions := b.options_forApi (c := c) x ds name
    rw [RegistryIndex.forApi] at hoptions
    rw [Option.map_some]
    dsimp only
    rw [hoptions]
    rfl

theorem BuiltType.ofEntry_forApi (x : RegistryIndex) (ds : List Demand) (name : String)
    (t : TypeEntry) : BuiltType.ofEntry c (x.forApi c) (Demand.forApi c ds) name (t.forApi c) =
      BuiltType.ofEntry c x ds name t := by
  have hstruct : Struct.ofEntry c name (t.forApi c) = Struct.ofEntry c name t := by
    rw [Struct.ofEntry, Struct.ofEntry, TypeEntry.declarations_forApi]; rfl
  have hunion : Union.ofEntry c name (t.forApi c) = Union.ofEntry c name t := by
    rw [Union.ofEntry, Union.ofEntry, TypeEntry.declarations_forApi]
  have hpointer : FunctionPointer.ofEntry name (t.forApi c) = FunctionPointer.ofEntry name t := by
    rw [FunctionPointer.ofEntry, FunctionPointer.ofEntry, TypeEntry.code?_forApi]
  have hhandle : Handle.ofEntry c name (t.forApi c) = Handle.ofEntry c name t := by
    rw [Handle.ofEntry, Handle.ofEntry, TypeEntry.codeType?_forApi]; rfl
  have halias : (t.forApi c).aliasOf = t.aliasOf := rfl
  have hcategory : (t.forApi c).category = t.category := rfl
  have hrequires : (t.forApi c).requires = t.requires := rfl
  have hbits : (t.forApi c).bitValues = t.bitValues := rfl
  rw [ofEntry, ofEntry, hstruct, hunion, hpointer, hhandle, TypeEntry.codeType?_forApi,
    ofBlock_forApi, halias, hcategory, hrequires, hbits]

theorem CommandDefinition.parametersOf_forApi (name : String) (d : CommandDefinition) :
    (d.forApi c).parametersOf c name = d.parametersOf c name := by
  rw [parametersOf, parametersOf, forApi, List.filter_filter]
  simp only [Bool.and_self]

theorem Command.ofDefinition_forApi (extensions : List Extension) (positions : Dict Nat)
    (name : String) (aliasOf : Option String) (d : CommandDefinition) :
    Command.ofDefinition c extensions positions name aliasOf (d.forApi c) =
      Command.ofDefinition c extensions positions name aliasOf d := by
  have hproto : (d.forApi c).proto = d.proto := rfl
  have hreturn : (d.forApi c).returnType = d.returnType := by
    unfold CommandDefinition.returnType
    rw [hproto]
  rw [ofDefinition, ofDefinition, CommandDefinition.parametersOf_forApi, hreturn]

theorem buildCommands_forApi (x : RegistryIndex) (demanded : OrderedSet String)
    (extensions : List Extension) (positions : Dict Nat) (built : List String)
    (entries : List CommandEntry) :
    buildCommands c (x.forApi c) demanded extensions positions built (entries.map (·.forApi c)) =
      buildCommands c x demanded extensions positions built entries := by
  induction entries generalizing built with
  | nil => rfl
  | cons entry entries ih =>
    have hresolve : (entry.forApi c).resolve (x.forApi c) =
        (entry.resolve x).map fun e => (e.1.forApi c, e.2) := by
      cases entry with
      | definition d => rfl
      | aliasOf name target =>
        rw [CommandEntry.forApi, CommandEntry.resolve, CommandEntry.resolve, RegistryIndex.forApi,
          Dict.get?_map]
        cases x.definitions.get? target <;> rfl
    rw [List.map_cons, buildCommands, buildCommands, hresolve, CommandEntry.name_forApi]
    simp only [ih]
    cases entry.resolve x with
    | error e => rfl
    | ok e =>
      obtain ⟨d, aliasOf⟩ := e
      simp only [Except.map, ok_bind, Command.ofDefinition_forApi]

theorem RegistryIndex.platformTypes_forApi (x : RegistryIndex) :
    (x.forApi c).platformTypes c = x.platformTypes c := by
  show ((List.map _ _).filter _).map _ = _
  rw [List.filter_map, List.map_map]
  rfl

/-! ### What is leaked -/

/-- Every value of the constants of the API applies to it, and what the parameters of a command that
do not apply name as their types is also named by its result or by a parameter that applies. -/
structure Registry.KeepsApart (c : Convention) (r : Registry) : Prop where
  constants : ∀ b ∈ r.blocks, b.name = some c.constantsBlock → ∀ v ∈ b.values, c.applies v.apis
  parameters : ∀ d, .definition d ∈ r.commands → ∀ type ∈ d.references,
    type ∈ (d.forApi c).references

theorem TypeEntry.references_forApi (t : TypeEntry) :
    (t.forApi c).references c = t.references c := by
  cases hbody : t.body <;> simp [TypeEntry.forApi, TypeEntry.references, hbody]

theorem RegistryIndex.references_forApi (x : RegistryIndex) :
    (x.forApi c).references c = x.references c := by
  rw [references, references, forApi, Dict.map, List.map_map]
  refine List.map_congr_left fun e _ => ?_
  rw [Function.comp, TypeEntry.references_forApi]

theorem RegistryIndex.commandReferences_forApi (x : RegistryIndex) (name : String) :
    (x.forApi c).commandReferences name =
      match x.definitions.get? ((x.commandAliases.get? name).getD name) with
      | some d => (d.forApi c).references
      | none => [] := by
  rw [commandReferences, forApi, Dict.get?_map]
  cases x.definitions.get? ((x.commandAliases.get? name).getD name) <;> rfl

theorem CommandDefinition.references_forApi_subset (d : CommandDefinition) :
    (d.forApi c).references ⊆ d.references :=
  List.append_subset.mpr ⟨List.subset_append_left _ _,
    fun _ h => List.mem_append_right _ ((List.filter_sublist.filterMap _).subset h)⟩

/-- The types required for demands are the same, whatever the order in which they are found. -/
theorem RegistryIndex.mem_requiredTypes_forApi {r : Registry} (h : r.KeepsApart c)
    (ds : List Demand) (name : String) :
    name ∈ ((r.index c).forApi c).requiredTypes c (Demand.forApi c ds) ↔
      name ∈ (r.index c).requiredTypes c ds := by
  have hcommand : ∀ command type, type ∈ ((r.index c).forApi c).commandReferences command ↔
      type ∈ (r.index c).commandReferences command := by
    intro command type
    rw [commandReferences_forApi, commandReferences]
    cases hd : (r.index c).definitions.get?
        (((r.index c).commandAliases.get? command).getD command) with
    | none => rfl
    | some d =>
      have hmem := (Registry.mem_namedDefinitions_iff.mp (Dict.mem_of_get?_ofList hd)).1
      exact ⟨fun ht => d.references_forApi_subset ht, h.parameters d hmem type⟩
  have hdemanded : ∀ type, type ∈ ((r.index c).forApi c).demandedTypes (Demand.forApi c ds) ↔
      type ∈ (r.index c).demandedTypes ds := by
    intro type
    rw [demandedTypes, demandedTypes, Demand.types_forApi, Demand.commands_forApi]
    simp only [List.mem_append, List.mem_flatMap, hcommand]
  rw [mem_requiredTypes_iff, mem_requiredTypes_iff, references_forApi]
  exact ⟨fun hn => hn.mono fun type ht => .queued ((hdemanded type).mp ht),
    fun hn => hn.mono fun type ht => .queued ((hdemanded type).mpr ht)⟩

theorem RegistryIndex.builtTypes_forApi {r : Registry} (h : r.KeepsApart c) (ds : List Demand) :
    ((r.index c).forApi c).builtTypes c (Demand.forApi c ds) = (r.index c).builtTypes c ds := by
  have hselected : ((r.index c).forApi c).selectedTypes c (Demand.forApi c ds) =
      ((r.index c).selectedTypes c ds).map fun e => (e.1, e.2.forApi c) := by
    show (List.map _ _).filter _ = (List.filter _ _).map _
    rw [List.filter_map]
    congr 1
    refine List.filter_congr fun e _ => ?_
    rw [Function.comp, Bool.eq_iff_iff, List.contains_iff_mem, List.contains_iff_mem]
    exact mem_requiredTypes_forApi h ds e.1
  rw [builtTypes, builtTypes, hselected, List.mapM_map]
  simp only [Function.comp_def, BuiltType.ofEntry_forApi]

theorem RegistryIndex.constants_forApi {r : Registry} (h : r.KeepsApart c) :
    ((r.index c).forApi c).constants c = (r.index c).constants c := by
  rw [constants, constants, forApi, Dict.get?_map]
  cases hb : (r.index c).blocks.get? c.constantsBlock with
  | none => rfl
  | some b =>
    obtain ⟨b', hb', he⟩ := List.mem_filterMap.mp (Dict.mem_of_get?_ofList hb)
    obtain ⟨_, hname, he⟩ := Option.map_eq_some_iff.mp he
    cases he
    have hvalues : (b.forApi c).values = b.values :=
      List.filter_eq_self.mpr (h.constants b hb' hname)
    rw [Option.map_some]
    dsimp only
    rw [hvalues]

theorem Registry.chosenFeatures_forApi (s : Selection) (r : Registry) :
    (r.forApi c).chosenFeatures c s = (r.chosenFeatures c s).map (·.forApi c) := by
  rw [chosenFeatures, chosenFeatures, features_forApi, List.filter_map, List.filter_filter]
  refine congrArg _ (List.filter_congr fun f _ => ?_)
  show ((c.isListed f.apis && s.includesFeature f.name) && c.isListed f.apis) = _
  cases c.isListed f.apis <;> simp

/-- **Elements of other APIs have no influence** on what is built, if neither constants nor types
are leaked. -/
theorem Registry.build_forApi {r : Registry} (h : r.KeepsApart c) (s : Selection) :
    (r.forApi c).build c s = r.build c s := by
  unfold Registry.build
  rw [extensions?_forApi, index_forApi, chosenFeatures_forApi, commands_forApi]
  cases r.extensions? with
  | none => rfl
  | some entries =>
    have hchosen : (entries.map (·.forApi c)).filter (·.isChosen s) =
        (entries.filter (·.isChosen s)).map (·.forApi c) := by
      rw [List.filter_map]; rfl
    have hfeatures : ((r.chosenFeatures c s).map (·.forApi c)).flatMap (·.demands c) =
        Demand.forApi c ((r.chosenFeatures c s).flatMap (·.demands c)) := by
      simp only [List.flatMap_map, Feature.demands_forApi, Demand.forApi, List.filter_flatMap]
    have hextensions : ((entries.filter (·.isChosen s)).map (·.forApi c)).flatMap (·.demands c) =
        Demand.forApi c ((entries.filter (·.isChosen s)).flatMap (·.demands c)) := by
      simp only [List.flatMap_map, ExtensionEntry.demands_forApi, Demand.forApi,
        List.filter_flatMap]
    have hdemands : ∀ ds ds' : List Demand,
        Demand.forApi c ds ++ Demand.forApi c ds' = Demand.forApi c (ds ++ ds') :=
      fun ds ds' => (List.filter_append ds ds').symm
    have hentities : ((entries.filter (·.isChosen s)).map (·.forApi c)).map (·.toExtension c) =
        (entries.filter (·.isChosen s)).map (·.toExtension c) := by
      simp only [List.map_map, Function.comp_def, ExtensionEntry.toExtension_forApi]
    simp only [Option.map_some, hchosen, ok_bind, hfeatures, hextensions, hdemands, hentities,
      Demand.commands_forApi, RegistryIndex.builtTypes_forApi h, buildCommands_forApi,
      RegistryIndex.constants_forApi h, RegistryIndex.platformTypes_forApi]

end

/-! ### Leaks -/

namespace Registry

/-- A registry with elements for another API: a member, a feature, a parameter of the given type,
and, if it lists this API, a constant. -/
def mixed (constantApis : Option String) (parameterType : String) : Registry where
  parts := [
    .types [
      { (default : TypeEntry) with
        name := some "VkInfo", category := some "struct"
        body := .members [⟨none, none, none, none, "uint32_t size", ["uint32_t"]⟩,
          ⟨none, none, none, some "vulkansc", "uint32_t pool", ["uint32_t"]⟩] },
      { (default : TypeEntry) with name := some "VkSafety", category := some "struct" }],
    .values ⟨some "API Constants", none, none, [⟨"VK_LIMIT", constantApis, .literal "4" none⟩]⟩,
    .commands [.definition ⟨⟨"vkRun", some "VkInfo", "VkInfo vkRun"⟩,
      [⟨⟨"x", some parameterType, parameterType ++ " x"⟩, none, none, some "vulkansc"⟩]⟩],
    .feature ⟨"vulkan", "VK_VERSION_1_0", [⟨none, [.command "vkRun"]⟩]⟩,
    .feature ⟨"vulkansc", "VKSC_VERSION_1_0", [⟨none, [.type "VkSafety"]⟩]⟩,
    .extensions []]

/-- If the constant applies and the type of the parameter is needed anyway, the elements of the
other API can be deleted. -/
theorem build_forApi_mixed : (mixed none "VkInfo").KeepsApart Vulkan.convention ∧
    (mixed none "VkInfo").forApi Vulkan.convention ≠ mixed none "VkInfo" ∧
    ((mixed none "VkInfo").forApi Vulkan.convention).build Vulkan.convention .default =
      (mixed none "VkInfo").build Vulkan.convention .default ∧
    ((mixed none "VkInfo").build Vulkan.convention .default).map
      (fun m => m.structs.map Struct.name) = .ok ["VkInfo"] := by
  have happart : (mixed none "VkInfo").KeepsApart Vulkan.convention := by
    constructor
    · intro b hb _ v hv
      obtain rfl := List.mem_singleton.mp hb
      obtain rfl := List.mem_singleton.mp hv
      simp [Convention.applies]
    · intro d hd
      obtain rfl := CommandEntry.definition.inj (List.mem_singleton.mp hd)
      decide +kernel
  exact ⟨happart, by decide +kernel, build_forApi happart .default, by decide +kernel⟩

/-- A constant of another API is a constant of the model, and the type of a parameter of another API
is one of its structs. -/
theorem build_forApi_ne_of_leaks : ∃ r, r = mixed (some "vulkansc") "VkSafety" ∧
    (r.build Vulkan.convention .default).map
      (fun m => (m.constants.entries, m.structs.map Struct.name)) =
        .ok ([("VK_LIMIT", "4")], ["VkInfo", "VkSafety"]) ∧
    ((r.forApi Vulkan.convention).build Vulkan.convention .default).map
      (fun m => (m.constants.entries, m.structs.map Struct.name)) = .ok ([], ["VkInfo"]) ∧
    (r.forApi Vulkan.convention).build Vulkan.convention .default ≠
      r.build Vulkan.convention .default := by
  have hbuild : ((mixed (some "vulkansc") "VkSafety").build Vulkan.convention .default).map
      (fun m => (m.constants.entries, m.structs.map Struct.name)) =
        .ok ([("VK_LIMIT", "4")], ["VkInfo", "VkSafety"]) := by decide +kernel
  have hreduced : (((mixed (some "vulkansc") "VkSafety").forApi Vulkan.convention).build
      Vulkan.convention .default).map (fun m => (m.constants.entries, m.structs.map Struct.name)) =
        .ok ([], ["VkInfo"]) := by decide +kernel
  refine ⟨_, rfl, hbuild, hreduced, fun heq => ?_⟩
  rw [heq, hbuild] at hreduced
  exact absurd (Except.ok.inj hreduced) (by decide)

end Registry

end LayerStencil
