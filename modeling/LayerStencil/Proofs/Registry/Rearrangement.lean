import LayerStencil.Proofs.Registry.Gating
import LayerStencil.Proofs.Registry.Inventory
import LayerStencil.Proofs.Related
import Mathlib.Data.List.Nodup

/-! # Requirements in another order

The items of a requirement can be listed in any order, as long as the values among them keep theirs:
the options of an enum follow the order of the values, and nothing else of a model follows the order
of the items.

* `Reordered`: a list in another order, in which some elements keep theirs.
* `Registry.Rearranged`: a registry whose requirements list their items in another order.
* `Model.Rearranged`: a model whose extensions list what they contribute in another order.
* `RegistryIndex.builtTypes_congr`, `buildCommands_congr`, `Model.systemTypesOf_congr`: what the
  steps of the build depend on.
* `Registry.build_rearranged`: a rearranged registry gives the same error or a rearranged model. -/

namespace LayerStencil

/-! ### Lists in another order -/

/-- A list in another order, in which the elements with a property keep theirs. -/
structure Reordered {α : Type} (p : α → Bool) (l l' : List α) : Prop where
  perm : l.Perm l'
  filter_eq : l.filter p = l'.filter p

section Lists
variable {α β : Type} {p : α → Bool} {l l' k k' : List α}

theorem Reordered.append (hl : Reordered p l l') (hk : Reordered p k k') :
    Reordered p (l ++ k) (l' ++ k') where
  perm := hl.perm.append hk.perm
  filter_eq := by rw [List.filter_append, List.filter_append, hl.filter_eq, hk.filter_eq]

theorem Reordered.map {q : β → Bool} {f : α → β} (h : Reordered p l l')
    (hf : ∀ a, q (f a) = p a) : Reordered q (l.map f) (l'.map f) where
  perm := h.perm.map f
  filter_eq := by
    have hq : q ∘ f = p := funext hf
    rw [List.filter_map, List.filter_map, hq, h.filter_eq]

theorem Reordered.flatMap {R : β → β → Prop} {f : β → List α} {m m' : List β}
    (h : List.Forall₂ R m m') (hf : ∀ b b', R b b' → Reordered p (f b) (f b')) :
    Reordered p (m.flatMap f) (m'.flatMap f) := by
  induction h with
  | nil => exact ⟨.refl _, rfl⟩
  | cons hb _ ih =>
    rw [List.flatMap_cons, List.flatMap_cons]
    exact (hf _ _ hb).append ih

/-- What is picked from elements that keep their order keeps its order. -/
theorem Reordered.filterMap_eq {f : α → Option β} (h : Reordered p l l')
    (hf : ∀ a, ¬ p a → f a = none) : l.filterMap f = l'.filterMap f := by
  have hpicked : ∀ l : List α, l.filterMap f = (l.filter p).filterMap f := by
    intro l
    rw [List.filterMap_filter]
    refine congrArg (List.filterMap · l) (funext fun a => ?_)
    by_cases ha : p a
    · rw [if_pos ha]
    · rw [if_neg ha, hf a ha]
  rw [hpicked, hpicked l', h.filter_eq]

theorem filter_of_forall₂ {R : α → α → Prop} {q : α → Bool} (h : List.Forall₂ R l l')
    (hp : ∀ a a', R a a' → p a = q a') : List.Forall₂ R (l.filter p) (l'.filter q) :=
  List.rel_filter (fun a a' ha => Bool.eq_iff_iff.mp (hp a a' ha)) h

end Lists

/-! ### Rearranged registries -/

/-- Is the item a value of an enum or bitmask? -/
def RequiredItem.isValue : RequiredItem → Bool
  | value _ => true
  | _ => false

/-- The items are listed in another order, the values among them in the same one. -/
structure Requirement.Rearranged (q q' : Requirement) : Prop where
  apis : q.apis = q'.apis
  items : Reordered RequiredItem.isValue q.items q'.items

/-- The requirements list their items in another order. -/
structure Feature.Rearranged (f f' : Feature) : Prop where
  rest : { f with requirements := f'.requirements } = f'
  requirements : List.Forall₂ Requirement.Rearranged f.requirements f'.requirements

/-- The requirements list their items in another order. -/
structure ExtensionEntry.Rearranged (e e' : ExtensionEntry) : Prop where
  rest : { e with requirements := e'.requirements } = e'
  requirements : List.Forall₂ Requirement.Rearranged e.requirements e'.requirements

/-- The requirements of a part list their items in another order. -/
inductive RegistryPart.Rearranged : RegistryPart → RegistryPart → Prop where
  | types (entries : List TypeEntry) : Rearranged (.types entries) (.types entries)
  | values (block : ValueBlock) : Rearranged (.values block) (.values block)
  | commands (entries : List CommandEntry) : Rearranged (.commands entries) (.commands entries)
  | feature {f f' : Feature} (h : f.Rearranged f') : Rearranged (.feature f) (.feature f')
  | extensions {es es' : List ExtensionEntry} (h : List.Forall₂ ExtensionEntry.Rearranged es es') :
    Rearranged (.extensions es) (.extensions es')

/-- The requirements of a registry list their items in another order. -/
def Registry.Rearranged (r r' : Registry) : Prop :=
  List.Forall₂ RegistryPart.Rearranged r.parts r'.parts

namespace Registry.Rearranged

variable {r r' : Registry}

theorem types_eq (h : r.Rearranged r') : r.types = r'.types := by
  rw [types, types, List.flatMap_def, List.flatMap_def]
  exact congrArg _ (map_eq_of_forall₂ h (by rintro _ _ (_ | _ | _ | _ | _) <;> rfl))

theorem commands_eq (h : r.Rearranged r') : r.commands = r'.commands := by
  rw [commands, commands, List.flatMap_def, List.flatMap_def]
  exact congrArg _ (map_eq_of_forall₂ h (by rintro _ _ (_ | _ | _ | _ | _) <;> rfl))

theorem blocks_eq (h : r.Rearranged r') : r.blocks = r'.blocks := by
  rw [blocks, blocks, ← List.forall₂_eq_eq_eq]
  refine List.rel_filterMap ?_ h
  rintro _ _ (_ | _ | _ | _ | _)
  case values => exact .some rfl
  all_goals exact .none

theorem index_eq (h : r.Rearranged r') (c : Convention) : r.index c = r'.index c := by
  rw [index, index, namedTypes, namedTypes, namedDefinitions, namedDefinitions, namedAliases,
    namedAliases, namedBlocks, namedBlocks, h.types_eq, h.commands_eq, h.blocks_eq]

theorem features (h : r.Rearranged r') :
    List.Forall₂ Feature.Rearranged r.features r'.features := by
  refine List.rel_filterMap ?_ h
  rintro _ _ (_ | _ | _ | hf | _)
  case feature => exact .some hf
  all_goals exact .none

theorem extensions? (h : r.Rearranged r') : Option.Rel (List.Forall₂ ExtensionEntry.Rearranged)
    r.extensions? r'.extensions? := by
  obtain ⟨parts⟩ := r
  obtain ⟨parts'⟩ := r'
  replace h : List.Forall₂ RegistryPart.Rearranged parts parts' := h
  rw [Registry.extensions?, Registry.extensions?]
  induction h with
  | nil => exact .none
  | cons hpart _ ih =>
    rw [List.findSome?_cons, List.findSome?_cons]
    cases hpart with
    | extensions hes => exact .some hes
    | _ => exact ih

end Registry.Rearranged

/-! ### Rearranged demands -/

section Demands
variable {c : Convention} {rs rs' : List Requirement}

theorem Requirement.itemsFor_reordered (h : List.Forall₂ Requirement.Rearranged rs rs') :
    Reordered RequiredItem.isValue (Requirement.itemsFor c rs) (Requirement.itemsFor c rs') := by
  have happly : List.Forall₂ Requirement.Rearranged (rs.filter fun q => c.applies q.apis)
      (rs'.filter fun q => c.applies q.apis) :=
    filter_of_forall₂ h fun q q' hq => by rw [hq.apis]
  exact .flatMap happly fun _ _ hq => hq.items

theorem Feature.Rearranged.demands {f f' : Feature} (h : f.Rearranged f') :
    Reordered (fun d : Demand => d.item.isValue) (f.demands c) (f'.demands c) :=
  (Requirement.itemsFor_reordered h.requirements).map fun _ => rfl

theorem ExtensionEntry.Rearranged.demands {e e' : ExtensionEntry} (h : e.Rearranged e') :
    Reordered (fun d : Demand => d.item.isValue) (e.demands c) (e'.demands c) := by
  have hnumber : e.number = e'.number := by rw [← h.rest]
  rw [ExtensionEntry.demands, ExtensionEntry.demands, hnumber]
  exact (Requirement.itemsFor_reordered h.requirements).map fun _ => rfl

theorem Registry.Rearranged.chosenFeatures {r r' : Registry} (h : r.Rearranged r')
    (s : Selection) : List.Forall₂ Feature.Rearranged (r.chosenFeatures c s)
      (r'.chosenFeatures c s) := by
  refine filter_of_forall₂ h.features fun f f' hf => ?_
  rw [← hf.rest]

theorem ExtensionEntry.filter_rearranged {es es' : List ExtensionEntry}
    (h : List.Forall₂ ExtensionEntry.Rearranged es es') (s : Selection) :
    List.Forall₂ ExtensionEntry.Rearranged (es.filter (·.isChosen s)) (es'.filter (·.isChosen s)) :=
  filter_of_forall₂ h fun e e' he => by rw [← he.rest]; rfl

end Demands

/-! ### What the build depends on -/

section Congruence
variable {c : Convention} {x : RegistryIndex} {ds ds' : List Demand}

theorem Demand.mem_commands_congr (h : ds.Perm ds') (name : String) :
    name ∈ Demand.commands ds ↔ name ∈ Demand.commands ds' := by
  rw [mem_commands_iff, mem_commands_iff]
  exact exists_congr fun d => and_congr_left' h.mem_iff

/-- More types are required if more is demanded. -/
theorem RegistryIndex.mem_requiredTypes_of_subset (h : ds ⊆ ds') {name : String}
    (hname : name ∈ x.requiredTypes c ds) : name ∈ x.requiredTypes c ds' := by
  rw [mem_requiredTypes_iff] at hname ⊢
  refine hname.mono fun other hother => .queued ?_
  rcases List.mem_append.mp hother with htype | hreferred
  · obtain ⟨d, hd, hitem⟩ := Demand.mem_types_iff.mp htype
    exact List.mem_append_left _ (Demand.mem_types_iff.mpr ⟨d, h hd, hitem⟩)
  · obtain ⟨command, hcommand, hreferred⟩ := List.mem_flatMap.mp hreferred
    obtain ⟨d, hd, hitem⟩ := Demand.mem_commands_iff.mp hcommand
    have hcommand' := Demand.mem_commands_iff.mpr ⟨d, h hd, hitem⟩
    exact List.mem_append_right _ (List.mem_flatMap_of_mem hcommand' hreferred)

/-- What entries become depends on the demands only by the options that these add. -/
theorem BuiltType.ofEntry_congr (h : ∀ name, Demand.options c x name ds =
    Demand.options c x name ds') (name : String) (t : TypeEntry) :
    BuiltType.ofEntry c x ds name t = BuiltType.ofEntry c x ds' name t := by
  have hoptions : ∀ b : ValueBlock, b.options c x ds name = b.options c x ds' name := by
    intro b
    rw [ValueBlock.options, ValueBlock.options, h]
  have hblock : BuiltType.ofBlock c x ds name = BuiltType.ofBlock c x ds' name := by
    simp only [BuiltType.ofBlock, hoptions]
  rw [BuiltType.ofEntry, BuiltType.ofEntry, hblock]

/-- **The types** that are built are the same if the values keep their order. -/
theorem RegistryIndex.builtTypes_congr
    (h : Reordered (fun d : Demand => d.item.isValue) ds ds') :
    x.builtTypes c ds = x.builtTypes c ds' := by
  have hrequired : ∀ name, name ∈ x.requiredTypes c ds ↔ name ∈ x.requiredTypes c ds' :=
    fun name => ⟨mem_requiredTypes_of_subset h.perm.subset,
      mem_requiredTypes_of_subset h.perm.symm.subset⟩
  have hselected : x.selectedTypes c ds = x.selectedTypes c ds' := by
    refine List.filter_congr fun e _ => ?_
    rw [Bool.eq_iff_iff, List.contains_iff_mem, List.contains_iff_mem, hrequired]
  have hoptions : ∀ name, Demand.options c x name ds = Demand.options c x name ds' := by
    refine fun name => h.filterMap_eq fun d hd => ?_
    unfold Demand.option?
    split
    · rename_i hitem; rw [hitem] at hd; exact absurd rfl hd
    · rfl
  simp only [builtTypes, hselected, BuiltType.ofEntry_congr hoptions]

/-- **The commands** that are built depend on which commands are demanded and on the type of the
extension that gates each. -/
theorem buildCommands_congr {demanded demanded' : OrderedSet String}
    {extensions extensions' : List Extension} {positions positions' : Dict Nat}
    (hdemanded : ∀ name, name ∈ demanded ↔ name ∈ demanded')
    (htype : ∀ name, extensionType? extensions positions name =
      extensionType? extensions' positions' name) :
    ∀ (entries : List CommandEntry) (built : List String),
      buildCommands c x demanded extensions positions built entries =
        buildCommands c x demanded' extensions' positions' built entries
  | [], _ => rfl
  | entry :: rest, built => by
    have hrest := buildCommands_congr hdemanded htype rest
    have hcommand : ∀ aliasOf d,
        Command.ofDefinition c extensions positions entry.name aliasOf d =
          Command.ofDefinition c extensions' positions' entry.name aliasOf d := by
      intro aliasOf d
      rw [Command.ofDefinition, Command.ofDefinition, htype]
    simp only [buildCommands, hdemanded, hrest, hcommand]

end Congruence

/-! ### Rearranged models -/

/-- What the extension contributes is listed in another order. -/
structure Extension.Rearranged (e e' : Extension) : Prop where
  rest : { e with types := e'.types, commands := e'.commands } = e'
  types : e.types.toList.Perm e'.types.toList
  commands : e.commands.toList.Perm e'.commands.toList

/-- The extensions of the model list what they contribute in another order, and all else is the
same. -/
structure Model.Rearranged (m m' : Model) : Prop where
  rest : { m with
    extensions := m'.extensions
    commandExtensions := m'.commandExtensions
    typeExtensions := m'.typeExtensions } = m'
  extensions : List.Forall₂ Extension.Rearranged m.extensions m'.extensions
  commandExtensions : ∀ name, m.commandExtensions.get? name = m'.commandExtensions.get? name
  typeExtensions : ∀ name, m.typeExtensions.get? name = m'.typeExtensions.get? name

theorem OrderedSet.ofList_perm {α : Type} [DecidableEq α] {l l' : List α} (h : l.Perm l') :
    (ofList l).toList.Perm (ofList l').toList := by
  rw [List.perm_ext_iff_of_nodup (ofList l).nodup (ofList l').nodup]
  intro a
  rw [mem_toList, mem_toList, mem_ofList, mem_ofList, h.mem_iff]

theorem ExtensionEntry.Rearranged.toExtension {e e' : ExtensionEntry} (h : e.Rearranged e')
    (c : Convention) : (e.toExtension c).Rearranged (e'.toExtension c) := by
  have hitems := (Requirement.itemsFor_reordered (c := c) h.requirements).perm
  refine ⟨?_, OrderedSet.ofList_perm (hitems.filterMap _), OrderedSet.ofList_perm
    (hitems.filterMap _)⟩
  rw [← h.rest]
  rfl

section Extensions
variable {es es' : List Extension}

/-- The position of a name depends on which extensions list it. -/
theorem Extension.get?_positions_congr {names : Extension → OrderedSet String}
    (h : List.Forall₂ Extension.Rearranged es es')
    (hnames : ∀ e e', Extension.Rearranged e e' → (names e).toList.Perm (names e').toList)
    (name : String) : (positions names es).get? name = (positions names es').get? name := by
  have hlists : es.map (fun e => decide (name ∈ names e)) =
      es'.map fun e => decide (name ∈ names e) := by
    refine map_eq_of_forall₂ h fun e e' he => decide_eq_decide.mpr ?_
    exact (hnames e e' he).mem_iff
  have hposition : ∀ es : List Extension, es.findIdx? (fun e => name ∈ names e) =
      (es.map fun e => decide (name ∈ names e)).findIdx? id := by
    intro es
    rw [List.findIdx?_map]
    rfl
  rw [get?_positions, get?_positions, hposition, hposition, hlists]

theorem extensionType?_congr (h : List.Forall₂ Extension.Rearranged es es')
    {positions positions' : Dict Nat} {name : String}
    (hpositions : positions.get? name = positions'.get? name) :
    extensionType? es positions name = extensionType? es' positions' name := by
  have htypes : es.map Extension.type = es'.map Extension.type :=
    map_eq_of_forall₂ h fun e e' he => by rw [← he.rest]
  have htype : ∀ (es : List Extension) (i : Nat), (es[i]?.bind fun e =>
      if e.type = "" then none else some e.type) =
        (es.map Extension.type)[i]?.bind fun type => if type = "" then none else some type := by
    intro es i
    rw [List.getElem?_map, Option.bind_map]
    rfl
  rw [extensionType?, extensionType?, hpositions, Option.bind_assoc, Option.bind_assoc]
  simp only [htype, htypes]

end Extensions

section SystemTypes
variable {m m' : Model}

theorem Model.extensionUses_congr (h : m.Rearranged m') {e e' : Extension} (he : e.Rearranged e')
    (name : String) : m.extensionUses e name = m'.extensionUses e' name := by
  have hstruct : m.struct? = m'.struct? := by rw [← h.rest]; rfl
  have hcommand : m.command? = m'.command? := by rw [← h.rest]; rfl
  rw [extensionUses, extensionUses, hstruct, hcommand, (he.types.filterMap _).any_eq,
    (he.commands.filterMap _).any_eq]

/-- **The system types** do not depend on the order in which extensions list what they
contribute. -/
theorem Model.systemTypesOf_congr (h : m.Rearranged m') (names : List String) :
    m.systemTypesOf names = m'.systemTypesOf names := by
  have huses : ∀ name,
      (m.extensions.filter fun e => m.extensionUses e name).map
        (fun e => (⟨name, e.name, e.guard⟩ : SystemType)) =
      (m'.extensions.filter fun e => m'.extensionUses e name).map
        (fun e => (⟨name, e.name, e.guard⟩ : SystemType)) := by
    intro name
    have hfilter : List.Forall₂ Extension.Rearranged
        (m.extensions.filter fun e => m.extensionUses e name)
        (m'.extensions.filter fun e => m'.extensionUses e name) :=
      filter_of_forall₂ h.extensions fun e e' he => extensionUses_congr h he name
    refine map_eq_of_forall₂ hfilter fun e e' he => ?_
    rw [← he.rest]
  simp only [systemTypesOf, huses]

end SystemTypes

/-! ### The whole model -/

namespace Registry

variable {c : Convention} {r r' : Registry}

/-- **The order of requirements does not matter.** If the requirements of a registry list their
items in another order, the values among them in the same one, then the build fails with the same
error, or it gives a model that differs only in the order in which its extensions list what they
contribute. -/
theorem build_rearranged (h : r.Rearranged r') (c : Convention) (s : Selection) :
    (∃ e, r.build c s = .error e ∧ r'.build c s = .error e) ∨
      ∃ m m', r.build c s = .ok m ∧ r'.build c s = .ok m' ∧ m.Rearranged m' := by
  have hfeatures := h.chosenFeatures (c := c) s
  have hextensions := h.extensions?
  unfold build
  rw [h.index_eq c, h.commands_eq]
  revert hextensions
  generalize r.extensions? = entries?
  generalize r'.extensions? = entries'?
  rintro (@⟨entries, entries', hentries⟩ | _)
  case none => exact .inl ⟨_, rfl, rfl⟩
  have hchosen := ExtensionEntry.filter_rearranged hentries s
  have hdemands := (Reordered.flatMap hfeatures fun _ _ hf => hf.demands (c := c)).append
    (Reordered.flatMap hchosen fun _ _ he => he.demands (c := c))
  have hes : List.Forall₂ Extension.Rearranged _ _ :=
    List.rel_map (fun _ _ he => he.toExtension c) hchosen
  have hcommandPositions := Extension.get?_positions_congr hes fun _ _ he => he.commands
  have htypePositions := Extension.get?_positions_congr hes fun _ _ he => he.types
  have hcommands := buildCommands_congr (c := c) (x := r'.index c)
    (Demand.mem_commands_congr hdemands.perm)
    (fun name => extensionType?_congr hes (hcommandPositions name)) r'.commands
  dsimp only
  rw [ok_bind, ok_bind, RegistryIndex.builtTypes_congr hdemands]
  -- From here on both builds take the same steps with the same results.
  cases (r'.index c).builtTypes c _ with
  | error e => exact .inl ⟨e, rfl, rfl⟩
  | ok types =>
    rw [ok_bind, ok_bind, hcommands]
    cases buildCommands c (r'.index c) _ _ _ (BuiltType.ownNames types) r'.commands with
    | error e => exact .inl ⟨e, rfl, rfl⟩
    | ok commands =>
      refine .inr ⟨_, _, rfl, rfl, ?_, hes, hcommandPositions, htypePositions⟩
      congr 1
      exact Model.systemTypesOf_congr ⟨rfl, hes, hcommandPositions, htypePositions⟩ _

/-- A registry with one extension, which lists the given items. -/
def requiring (items : List RequiredItem) : Registry where
  parts := [
    .types typesOfMode,
    .values ⟨some "VkMode", some "enum", none, []⟩,
    .commands [.definition commandOfMode],
    .extensions [⟨"VK_KHR_run", some 2, none, none, some "vulkan", [⟨none, items⟩]⟩]]

/-- The values of the extension of `requiring`. -/
def valuesOfMode : List RequiredItem := [
  .value ⟨"VK_MODE_RUN", none, .offset 0 "VkMode" none true⟩,
  .value ⟨"VK_MODE_STOP", none, .offset 1 "VkMode" none true⟩]

/-- The items of an extension, values last. -/
def valuesLast : List RequiredItem :=
  .type "VkInfo" :: .command "vkRun" :: .type "VkMode" :: valuesOfMode

/-- The same items, values first and types in the opposite order. -/
def valuesFirst : List RequiredItem :=
  valuesOfMode ++ [.type "VkMode", .command "vkRun", .type "VkInfo"]

/-- The types of the extension change places, and the options of the enum do not. -/
theorem build_rearranged_requiring : (requiring valuesLast).Rearranged (requiring valuesFirst) ∧
    ∃ m m', (requiring valuesLast).build Vulkan.convention .default = .ok m ∧
      (requiring valuesFirst).build Vulkan.convention .default = .ok m' ∧
      m.extensions.map (fun e => e.types.toList) = [["VkInfo", "VkMode"]] ∧
      m'.extensions.map (fun e => e.types.toList) = [["VkMode", "VkInfo"]] ∧
      m.enums.map (fun e => e.options.map EnumOption.name) = [["VK_MODE_RUN", "VK_MODE_STOP"]] ∧
      m.Rearranged m' := by
  have hitems : Requirement.Rearranged ⟨none, valuesLast⟩ ⟨none, valuesFirst⟩ :=
    ⟨rfl, by decide +kernel, by decide +kernel⟩
  have hrearranged : (requiring valuesLast).Rearranged (requiring valuesFirst) :=
    .cons (.types _) (.cons (.values _) (.cons (.commands _) (.cons (.extensions
      (.cons ⟨rfl, .cons hitems .nil⟩ .nil)) .nil)))
  have hbuilt : ((requiring valuesLast).build Vulkan.convention .default).map (fun m =>
      (m.extensions.map fun e => e.types.toList,
        m.enums.map fun e => e.options.map EnumOption.name)) =
      .ok ([["VkInfo", "VkMode"]], [["VK_MODE_RUN", "VK_MODE_STOP"]]) := by decide +kernel
  have hbuilt' : ((requiring valuesFirst).build Vulkan.convention .default).map (fun m =>
      m.extensions.map fun e => e.types.toList) = .ok [["VkMode", "VkInfo"]] := by decide +kernel
  obtain ⟨m, hm, hlists⟩ := exists_of_map_eq_ok hbuilt
  obtain ⟨m', hm', htypes'⟩ := exists_of_map_eq_ok hbuilt'
  obtain ⟨htypes, hoptions⟩ := Prod.mk.inj hlists
  refine ⟨hrearranged, m, m', hm, hm', htypes, htypes', hoptions, ?_⟩
  rcases build_rearranged hrearranged Vulkan.convention .default with
    ⟨e, he, -⟩ | ⟨n, n', hn, hn', hsame⟩
  · rw [hm] at he; cases he
  · obtain rfl := Except.ok.inj (hm.symm.trans hn)
    obtain rfl := Except.ok.inj (hm'.symm.trans hn')
    exact hsame

end Registry

end LayerStencil
