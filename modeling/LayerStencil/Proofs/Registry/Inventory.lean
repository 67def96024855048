import LayerStencil.Proofs.Registry.SelfContained

/-! # What a model lists

A model lists what the selection needs and nothing else, each name once, in the order of the
registry.

* `Registry.Lists`, `Registry.Needs`: what the chosen features and extensions list, and the types
  that this needs.
* `Registry.GivesKind`: the kind that the entry of a type is of.
* `Registry.exists_production`: how the lists of a model follow from the types that were built.
* `BuiltType.isItem_ofEntry`: what an entry becomes, by name and kind.
* `names_buildCommands`: the names of the commands that are built.
* `Registry.names_of_build` says of every list of a model which names it holds. -/

namespace LayerStencil

/-! ### First occurrences -/

section Firsts
variable {α : Type} [DecidableEq α]

/-- What a filter leaves out can be left out before. -/
theorem filter_filter_ne {p : α → Bool} {a : α} (ha : ¬ p a) (l : List α) :
    (l.filter fun b => !b == a).filter p = l.filter p := by
  rw [List.filter_filter]
  refine List.filter_congr fun b _ => ?_
  by_cases hb : b = a
  · subst hb; simp [ha]
  · simp [hb]

theorem eraseDups_filter (p : α → Bool) : ∀ l : List α,
    (l.filter p).eraseDups = l.eraseDups.filter p
  | [] => rfl
  | a :: l => by
    have ih := eraseDups_filter p (l.filter fun b => !b == a)
    rw [List.eraseDups_cons]
    by_cases ha : p a
    · rw [List.filter_cons_of_pos ha, List.filter_cons_of_pos ha, List.eraseDups_cons, ← ih,
        List.filter_filter, List.filter_filter]
      congr 3
      funext b
      exact Bool.and_comm _ _
    · rw [List.filter_cons_of_neg ha, List.filter_cons_of_neg ha, ← ih, filter_filter_ne ha]
termination_by l => l.length
decreasing_by simpa using Nat.lt_succ_of_le (List.length_filter_le _ l)

theorem nodup_eraseDups : ∀ l : List α, l.eraseDups.Nodup
  | [] => List.nodup_nil
  | a :: l => by
    rw [List.eraseDups_cons]
    refine List.nodup_cons.mpr ⟨fun ha => ?_, nodup_eraseDups _⟩
    simpa using (List.mem_filter.mp (List.mem_eraseDups.mp ha)).2
termination_by l => l.length
decreasing_by simpa using Nat.lt_succ_of_le (List.length_filter_le _ l)

theorem filter_eraseDups_cons_of_neg {p : α → Bool} {a : α} (l : List α) (ha : ¬ p a) :
    (a :: l).eraseDups.filter p = l.eraseDups.filter p := by
  rw [List.eraseDups_cons, eraseDups_filter, List.filter_cons_of_neg ha, filter_filter_ne ha]

theorem filter_eraseDups_cons_of_pos {p : α → Bool} {a : α} (l : List α) (ha : p a) :
    (a :: l).eraseDups.filter p = a :: l.eraseDups.filter fun b => p b && !b == a := by
  rw [List.eraseDups_cons, eraseDups_filter, List.filter_cons_of_pos ha, List.filter_filter]

end Firsts

theorem Dict.keys_extendNew {α : Type} (l : List (String × α)) : ∀ d : Dict α,
    (d.extendNew l).keys =
      d.keys ++ (l.map Prod.fst).eraseDups.filter fun k => !d.keys.contains k := by
  induction l with
  | nil => intro d; simp [extendNew]
  | cons e l ih =>
    intro d
    show ((d.insertNew e.1 e.2).extendNew l).keys = _
    rw [ih, List.map_cons]
    by_cases he : e.1 ∈ d.keys
    · have hsame : d.insertNew e.1 e.2 = d := dif_pos he
      rw [hsame, filter_eraseDups_cons_of_neg _ (by simpa using he)]
    · have hkeys : (d.insertNew e.1 e.2).keys = d.keys ++ [e.1] := by
        rw [insertNew, dif_neg (show e.1 ∉ d.entries.map Prod.fst from he), keys, List.map_append]
        rfl
      rw [hkeys, filter_eraseDups_cons_of_pos _ (by simpa using he), List.append_assoc,
        List.singleton_append]
      congr 2
      refine List.filter_congr fun k _ => ?_
      by_cases hk : k = e.1 <;> simp [hk]

/-- The names of the dictionary of first values are those of the list, each at its first place. -/
theorem Dict.keys_ofFirsts {α : Type} (l : List (String × α)) :
    (ofFirsts l).keys = (l.map Prod.fst).eraseDups := by
  rw [ofFirsts, keys_extendNew]
  simp [empty, keys]

/-! ### What is listed and needed -/

namespace Registry

/-- A chosen feature or a chosen extension lists the item in a requirement that applies to the
API. -/
def Lists (c : Convention) (s : Selection) (r : Registry) (item : RequiredItem) : Prop :=
  (∃ f ∈ r.features, c.isListed f.apis ∧ s.includesFeature f.name ∧
      ∃ q ∈ f.requirements, c.applies q.apis ∧ item ∈ q.items) ∨
    ∃ entries, r.extensions? = some entries ∧ ∃ e ∈ entries, e.isChosen s ∧
      ∃ q ∈ e.requirements, c.applies q.apis ∧ item ∈ q.items

/-- The types that are listed, those that a listed command refers to, and those that the entry of a
needed type refers to. -/
inductive Needs (c : Convention) (s : Selection) (r : Registry) : String → Prop
  | listed {name : String} (h : r.Lists c s (.type name)) : Needs c s r name
  | command {command name : String} (h : r.Lists c s (.command command))
      (hname : name ∈ (r.index c).commandReferences command) : Needs c s r name
  | refers {name other : String} {t : TypeEntry} (h : Needs c s r name)
      (ht : r.typeNamed? c name = some t) (hother : other ∈ t.references c) : Needs c s r other

end Registry

/-- The kinds of what entries of types become. -/
def Kind.ofTypes : List Kind :=
  [.struct, .union, .enum, .bitmask, .flag, .handle, .baseType, .functionPointer, .externalType]

/-- The entry is of the category of a kind. What tells enums and bitmasks apart are the blocks that
hold values for the entry. -/
def TypeEntry.HasKind (c : Convention) (Holds : ValueBlock → Prop) (t : TypeEntry) : Kind → Prop
  | .struct => t.category = some "struct"
  | .union => t.category = some "union"
  | .enum => t.category = some "enum" ∧ ∃ b, Holds b ∧ b.isEnum
  | .bitmask => t.category = some "enum" ∧ ∃ b, Holds b ∧ b.isBitmask
  | .flag => t.category = some "bitmask"
  | .handle => t.category = some "handle"
  | .baseType => t.category = some "basetype"
  | .functionPointer => t.category = some "funcpointer"
  | .externalType => t.category = none ∧ t.requires = some c.platformHeader
  | _ => False

/-- The first entry of the name is no alias and is of the category of the kind. -/
def Registry.GivesKind (c : Convention) (r : Registry) (kind : Kind) (name : String) : Prop :=
  ∃ t, r.typeNamed? c name = some t ∧ t.aliasOf = none ∧ t.HasKind c (r.HasLastBlock name) kind

/-- The names of the items of a kind that the model lists itself. -/
def Model.names (m : Model) (kind : Kind) : List String := (m.items kind).map Item.name

open Classical in
/-- The names of a list that satisfy a condition, each at its first place. -/
noncomputable def firstsWith (P : String → Prop) (names : List String) : List String :=
  names.eraseDups.filter fun name => decide (P name)

theorem mem_firstsWith {P : String → Prop} {names : List String} {name : String} :
    name ∈ firstsWith P names ↔ name ∈ names ∧ P name := by
  simp [firstsWith]

theorem nodup_firstsWith (P : String → Prop) (names : List String) : (firstsWith P names).Nodup :=
  (nodup_eraseDups names).filter _

/-! ### Demands -/

namespace Demand

theorem mem_types_iff {ds : List Demand} {name : String} :
    name ∈ Demand.types ds ↔ ∃ d ∈ ds, d.item = .type name := by
  rw [Demand.types, OrderedSet.mem_ofList, List.mem_filterMap]
  refine exists_congr fun d => and_congr_right fun _ => ?_
  cases d.item <;> simp [RequiredItem.type?]

theorem mem_commands_iff {ds : List Demand} {name : String} :
    name ∈ Demand.commands ds ↔ ∃ d ∈ ds, d.item = .command name := by
  rw [Demand.commands, OrderedSet.mem_ofList, List.mem_filterMap]
  refine exists_congr fun d => and_congr_right fun _ => ?_
  cases d.item <;> simp [RequiredItem.command?]

end Demand

/-- What a list of requirements demands are the items of those that apply to the API. -/
theorem Requirement.exists_demand_iff {c : Convention} {rs : List Requirement} {number : Option Int}
    {item : RequiredItem} :
    (∃ d ∈ (Requirement.itemsFor c rs).map fun item => (⟨item, number⟩ : Demand), d.item = item) ↔
      ∃ q ∈ rs, c.applies q.apis ∧ item ∈ q.items := by
  simp [Requirement.itemsFor, and_assoc]

theorem Registry.exists_demand_iff {c : Convention} {s : Selection} {r : Registry}
    {entries : List ExtensionEntry} (hentries : r.extensions? = some entries)
    (item : RequiredItem) :
    (∃ d ∈ (r.chosenFeatures c s).flatMap (·.demands c) ++
        (entries.filter (·.isChosen s)).flatMap (·.demands c), d.item = item) ↔
      r.Lists c s item := by
  constructor
  · rintro ⟨d, hd, hitem⟩
    rcases List.mem_append.mp hd with hd | hd
    · obtain ⟨f, hf, hd⟩ := List.mem_flatMap.mp hd
      obtain ⟨hf, hchosen⟩ := List.mem_filter.mp hf
      obtain ⟨hlisted, hincluded⟩ := Bool.and_eq_true_iff.mp hchosen
      exact .inl ⟨f, hf, hlisted, hincluded, Requirement.exists_demand_iff.mp ⟨d, hd, hitem⟩⟩
    · obtain ⟨e, he, hd⟩ := List.mem_flatMap.mp hd
      obtain ⟨he, hchosen⟩ := List.mem_filter.mp he
      exact .inr ⟨entries, hentries, e, he, hchosen,
        Requirement.exists_demand_iff.mp ⟨d, hd, hitem⟩⟩
  · rintro (⟨f, hf, hlisted, hincluded, hitem⟩ | ⟨entries', hentries', e, he, hchosen, hitem⟩)
    · obtain ⟨d, hd, hitem⟩ := Requirement.exists_demand_iff.mpr hitem
      have hf : f ∈ r.chosenFeatures c s :=
        List.mem_filter.mpr ⟨hf, Bool.and_eq_true_iff.mpr ⟨hlisted, hincluded⟩⟩
      exact ⟨d, List.mem_append_left _ (List.mem_flatMap_of_mem hf hd), hitem⟩
    · obtain rfl : entries = entries' := Option.some.inj (hentries ▸ hentries')
      obtain ⟨d, hd, hitem⟩ := Requirement.exists_demand_iff.mpr hitem
      have he : e ∈ entries.filter (·.isChosen s) := List.mem_filter.mpr ⟨he, hchosen⟩
      exact ⟨d, List.mem_append_right _ (List.mem_flatMap_of_mem he hd), hitem⟩

/-- What an entry of a type becomes in the model. -/
def BuiltType.item? : BuiltType → Option Item
  | aliasOf _ => none
  | struct s => some (.struct s)
  | union u => some (.union u)
  | handle h => some (.handle h)
  | baseType b => some (.baseType b)
  | flag f => some (.flag f)
  | functionPointer p => some (.functionPointer p)
  | enum e => some (.enum e)
  | bitmask b => some (.bitmask b)
  | externalType t => some (.externalType t)
  | nothing => none

/-- Collecting what one sort of entry becomes is collecting the items of one kind. -/
theorem map_filterMap_built {α : Type} {pick : BuiltType → Option α} {wrap : α → Item} {kind : Kind}
    (h : ∀ b, (pick b).map wrap = b.item?.filter fun item => item.kind? = some kind)
    (types : List (String × BuiltType)) : ((types.map Prod.snd).filterMap pick).map wrap =
      (types.filterMap fun e => e.2.item?).filter fun item => item.kind? = some kind := by
  rw [List.map_filterMap, List.filter_filterMap, List.filterMap_map]
  exact congrArg (List.filterMap · types) (funext fun e => h e.2)

/-- How a model follows from the demands of a selection and from the types that were built. -/
structure Registry.Production (c : Convention) (s : Selection) (r : Registry) (ds : List Demand)
    (types : List (String × BuiltType)) (m : Model) : Prop extends r.Assembly c ds types m where
  listed : ∀ item, (∃ d ∈ ds, d.item = item) ↔ r.Lists c s item
  items : ∀ kind ∈ Kind.ofTypes, m.items kind =
    (types.filterMap fun e => e.2.item?).filter fun item => item.kind? = some kind

/-- **A model that is built** follows from what the selection chooses. -/
theorem Registry.exists_production {c : Convention} {s : Selection} {r : Registry} {m : Model}
    (h : r.build c s = .ok m) : ∃ ds types, r.Production c s ds types m := by
  obtain ⟨entries, types, hentries, hassembly⟩ := exists_assembly_of_demands h
  refine ⟨_, types, hassembly, fun item => exists_demand_iff hentries item, fun kind hkind => ?_⟩
  -- The items are those of the types that the assembly has, since they are built from its demands.
  unfold Registry.build at h
  rw [hentries] at h
  obtain ⟨_, ⟨⟩, h⟩ := exists_of_bind_eq_ok h
  obtain ⟨types', htypes, h⟩ := exists_of_bind_eq_ok h
  obtain ⟨commands, -, h⟩ := exists_of_bind_eq_ok h
  obtain rfl : types = types' := Except.ok.inj (hassembly.builtTypes.symm.trans htypes)
  cases h
  simp only [Kind.ofTypes, List.mem_cons, List.not_mem_nil, or_false] at hkind
  clear * - hkind
  rcases hkind with rfl | rfl | rfl | rfl | rfl | rfl | rfl | rfl | rfl <;>
    exact map_filterMap_built (by rintro (_ | _) <;> rfl) types

/-! ### Types -/

/-- What was built is an item of the given name, of the kind for which `P` holds, or no item if `P`
holds for none. -/
structure BuiltType.IsItem (name : String) (P : Kind → Prop) (b : BuiltType) : Prop where
  name_eq : ∀ item, b.item? = some item → item.name = name
  kind_iff : ∀ kind, (∃ item, b.item? = some item ∧ item.kind? = some kind) ↔ P kind

section Types
variable {c : Convention} {s : Selection} {r : Registry} {x : RegistryIndex} {ds : List Demand}
  {types : List (String × BuiltType)} {m : Model} {name : String} {P : Kind → Prop}

namespace BuiltType

theorem IsItem.of_none {b : BuiltType} (hitem : b.item? = none) (hP : ∀ kind, ¬ P kind) :
    b.IsItem name P :=
  ⟨by simp [hitem], fun kind => by simp [hitem, hP kind]⟩

theorem IsItem.of_some {b : BuiltType} {item : Item} {kind : Kind} (hitem : b.item? = some item)
    (hkind : item.kind? = some kind) (hname : item.name = name)
    (hP : ∀ other, P other ↔ other = kind) :
    b.IsItem name P := by
  refine ⟨fun item' h => ?_, fun other => ⟨?_, fun h => ?_⟩⟩
  · rw [hitem] at h; cases h; exact hname
  · rintro ⟨item', h, hother⟩
    rw [hitem] at h
    cases h
    rw [hkind] at hother
    cases hother
    exact (hP kind).mpr rfl
  · obtain rfl := (hP other).mp h
    exact ⟨item, hitem, hkind⟩

theorem IsItem.map_name {b : BuiltType} (h : b.IsItem name P) (kind : Kind) [Decidable (P kind)] :
    (b.item?.filter fun item => item.kind? = some kind).map Item.name =
      if P kind then some name else none := by
  have hkind := h.kind_iff kind
  cases hb : b.item? with
  | none => rw [if_neg (by simpa [hb] using hkind)]; rfl
  | some item =>
    simp only [hb, Option.some.injEq, exists_eq_left'] at hkind
    by_cases hitem : item.kind? = some kind
    · rw [if_pos (hkind.mp hitem), Option.filter_some_pos (by simpa using hitem), Option.map_some,
        h.name_eq item hb]
    · rw [if_neg (mt hkind.mpr hitem), Option.filter_some_neg (by simpa using hitem)]
      rfl

theorem isItem_ofBlock {t : TypeEntry} (halias : t.aliasOf = none)
    (hcategory : t.category = some "enum") : (BuiltType.ofBlock c x ds name).IsItem name fun kind =>
      t.aliasOf = none ∧ t.HasKind c (fun b => x.blocks.get? name = some b) kind := by
  unfold BuiltType.ofBlock
  cases hb : x.blocks.get? name with
  | none => exact .of_none rfl fun kind => by cases kind <;> simp [TypeEntry.HasKind, hcategory]
  | some b =>
    dsimp only
    by_cases hbitmask : b.isBitmask
    · have henum : ¬ b.isEnum := by
        rw [ValueBlock.isBitmask, decide_eq_true_eq] at hbitmask
        simp [ValueBlock.isEnum, hbitmask]
      rw [if_pos hbitmask]
      exact .of_some rfl rfl rfl fun kind => by
        cases kind <;> simp [TypeEntry.HasKind, halias, hcategory, hbitmask, henum]
    · rw [if_neg hbitmask]
      by_cases henum : b.isEnum
      · rw [if_pos henum]
        exact .of_some rfl rfl rfl fun kind => by
          cases kind <;> simp [TypeEntry.HasKind, halias, hcategory, hbitmask, henum]
      · rw [if_neg henum]
        exact .of_none rfl fun kind => by
          cases kind <;> simp [TypeEntry.HasKind, hcategory, hbitmask, henum]

/-- **What an entry becomes** is an item of the name of the entry and of the kind that its category
gives. -/
theorem isItem_ofEntry {t : TypeEntry} {built : BuiltType}
    (h : BuiltType.ofEntry c x ds name t = .ok built) : built.IsItem name fun kind =>
      t.aliasOf = none ∧ t.HasKind c (fun b => x.blocks.get? name = some b) kind := by
  unfold BuiltType.ofEntry at h
  split at h
  case h_1 halias => cases h; exact .of_none rfl fun kind => by simp [halias]
  case h_2 halias =>
    split at h
    case h_1 hcategory =>
      obtain ⟨s, hs, rfl⟩ := exists_of_map_eq_ok h
      obtain ⟨_, -, hs⟩ := exists_of_bind_eq_ok hs
      cases hs
      exact .of_some rfl rfl rfl fun kind => by
        cases kind <;> simp [TypeEntry.HasKind, halias, hcategory]
    case h_2 hcategory =>
      obtain ⟨u, hu, rfl⟩ := exists_of_map_eq_ok h
      obtain ⟨_, -, hu⟩ := exists_of_bind_eq_ok hu
      cases hu
      exact .of_some rfl rfl rfl fun kind => by
        cases kind <;> simp [TypeEntry.HasKind, halias, hcategory]
    case h_7 hcategory => cases h; exact isItem_ofBlock halias hcategory
    case h_8 =>
      cases h
      exact .of_none rfl fun kind => by cases kind <;> simp_all [TypeEntry.HasKind]
    case h_9 hcategory =>
      split_ifs at h with hheader
      · cases h
        exact .of_some rfl rfl rfl fun kind => by
          cases kind <;> simp [TypeEntry.HasKind, halias, hcategory, hheader]
      · cases h
        exact .of_none rfl fun kind => by
          cases kind <;> simp [TypeEntry.HasKind, hcategory, hheader]
    all_goals
      rename_i hcategory
      cases h
      exact .of_some rfl rfl rfl fun kind => by
        cases kind <;> simp [TypeEntry.HasKind, halias, hcategory]

end BuiltType

/-- The required types are those that are needed, if the demands are what is listed. -/
theorem Registry.mem_requiredTypes_iff_needs
    (hlisted : ∀ item, (∃ d ∈ ds, d.item = item) ↔ r.Lists c s item) :
    name ∈ (r.index c).requiredTypes c ds ↔ r.Needs c s name := by
  rw [RegistryIndex.mem_requiredTypes_iff]
  constructor
  · intro hname
    induction hname with
    | queued hqueued =>
      rcases List.mem_append.mp hqueued with htype | hreferred
      · exact .listed ((hlisted _).mp (Demand.mem_types_iff.mp htype))
      · obtain ⟨command, hcommand, hreferred⟩ := List.mem_flatMap.mp hreferred
        exact .command ((hlisted _).mp (Demand.mem_commands_iff.mp hcommand)) hreferred
    | next _ hrefs hother ih =>
      rw [RegistryIndex.lookup_references, Registry.types_get?] at hrefs
      obtain ⟨t, ht, rfl⟩ := Option.map_eq_some_iff.mp hrefs
      exact .refers ih ht hother
  · intro hname
    induction hname with
    | listed htype =>
      have hmem := Demand.mem_types_iff.mpr ((hlisted _).mpr htype)
      exact .queued (List.mem_append_left _ hmem)
    | command hcommand hreferred =>
      have hmem := Demand.mem_commands_iff.mpr ((hlisted _).mpr hcommand)
      exact .queued (List.mem_append_right _ (List.mem_flatMap_of_mem hmem hreferred))
    | refers _ ht hother ih =>
      refine .next ih ?_ hother
      rw [RegistryIndex.lookup_references, Registry.types_get?, ht, Option.map_some]

/-- The types that a model needs are the required ones. -/
theorem Registry.Production.mem_requiredTypes_iff (h : r.Production c s ds types m) :
    name ∈ (r.index c).requiredTypes c ds ↔ r.Needs c s name :=
  mem_requiredTypes_iff_needs h.listed

theorem Registry.givesKind_iff {kind : Kind} {t : TypeEntry} (ht : r.typeNamed? c name = some t) :
    r.GivesKind c kind name ↔ t.aliasOf = none ∧
      t.HasKind c (fun b => (r.index c).blocks.get? name = some b) kind := by
  have hblocks : r.HasLastBlock name = fun b => (r.index c).blocks.get? name = some b :=
    funext fun _ => propext hasLastBlock_iff
  simp [Registry.GivesKind, ht, hblocks]

open Classical in
/-- **The names of a kind of types** are those of the needed types whose entries are of the kind. -/
theorem Registry.Production.names_types (h : r.Production c s ds types m) {kind : Kind}
    (hkind : kind ∈ Kind.ofTypes) : m.names kind =
      firstsWith (fun name => r.Needs c s name ∧ r.GivesKind c kind name)
        ((r.namedTypes c).map Prod.fst) := by
  have hpicked : ∀ e ∈ (r.index c).selectedTypes c ds, ∀ b,
      (BuiltType.ofEntry c (r.index c) ds e.1 e.2).map (fun built => (e.1, built)) = .ok b →
        (b.2.item?.filter fun item => item.kind? = some kind).map Item.name =
          if decide (r.GivesKind c kind e.1) then some e.1 else none := by
    intro e he b hb
    obtain ⟨built, hbuilt, rfl⟩ := exists_of_map_eq_ok hb
    have ht := (RegistryIndex.mem_selectedTypes_iff.mp he).1
    rw [types_get?] at ht
    rw [(BuiltType.isItem_ofEntry hbuilt).map_name kind]
    exact if_congr ((givesKind_iff ht).symm.trans decide_eq_true_iff.symm) rfl rfl
  calc m.names kind
      = types.filterMap fun e => (e.2.item?.filter fun item => item.kind? = some kind).map
          Item.name := by
        rw [Model.names, h.items kind hkind, List.filter_filterMap, List.map_filterMap]
    _ = (((r.index c).selectedTypes c ds).filter fun e =>
          decide (r.GivesKind c kind e.1)).map Prod.fst := filterMap_of_mapM h.builtTypes hpicked
    _ = ((r.index c).types.entries.filter fun e =>
          decide (r.Needs c s e.1 ∧ r.GivesKind c kind e.1)).map Prod.fst := by
        rw [RegistryIndex.selectedTypes, List.filter_filter]
        congr 1
        refine List.filter_congr fun e _ => ?_
        simp [← h.mem_requiredTypes_iff, Bool.and_comm]
    _ = _ := by
        rw [firstsWith, ← Dict.keys_ofFirsts, Dict.keys, List.filter_map]
        exact congrArg _ (List.filter_congr fun _ _ => decide_eq_decide.mpr Iff.rfl)

end Types

/-! ### Commands -/

section Commands
variable {c : Convention} {x : RegistryIndex} {demanded : OrderedSet String}
  {extensions : List Extension} {positions : Dict Nat}

/-- **The names of the commands** that are built: those demanded, not left out and not built before,
each at its first place. -/
theorem names_buildCommands : ∀ {entries : List CommandEntry} {built : List String}
    {commands : List Command},
    buildCommands c x demanded extensions positions built entries = .ok commands →
      commands.map Command.name = (entries.map CommandEntry.name).eraseDups.filter fun name =>
        decide (name ∈ demanded) && !(c.isExcluded name || built.contains name)
  | [], _, _, h => by cases h; rfl
  | entry :: rest, built, commands, h => by
    rw [buildCommands] at h
    rw [List.map_cons]
    by_cases hdemanded : entry.name ∉ demanded
    · rw [if_pos hdemanded] at h
      rw [filter_eraseDups_cons_of_neg _ (by simp [hdemanded]), names_buildCommands h]
    · rw [if_neg hdemanded] at h
      obtain ⟨⟨d, aliasOf⟩, -, h⟩ := exists_of_bind_eq_ok h
      dsimp only at h
      by_cases hskip : (c.isExcluded entry.name || built.contains entry.name) = true
      · rw [if_pos hskip] at h
        rw [filter_eraseDups_cons_of_neg _ (by simp only [hskip]; simp), names_buildCommands h]
      · rw [if_neg hskip] at h
        obtain ⟨command, hcommand, h⟩ := exists_of_bind_eq_ok h
        obtain ⟨commands', hcommands, h⟩ := exists_of_bind_eq_ok h
        cases h
        rw [Bool.not_eq_true] at hskip
        -- Later entries of this name find it among those built, as `eraseDups` leaves them out.
        rw [List.map_cons, (Command.name_ofDefinition hcommand).1, names_buildCommands hcommands,
          filter_eraseDups_cons_of_pos _ (by simp only [not_not.mp hdemanded, hskip]; simp)]
        congr 1
        refine List.filter_congr fun name _ => ?_
        by_cases hname : name = entry.name <;> simp [hname]

end Commands

/-! ### The whole model -/

namespace Registry

variable {c : Convention} {s : Selection} {r : Registry} {ds : List Demand}
  {types : List (String × BuiltType)} {m : Model}

/-- The names of the types that are built are those of the needed types that are no aliases. -/
theorem Production.mem_ownNames_iff (h : r.Production c s ds types m) {name : String} :
    name ∈ BuiltType.ownNames types ↔
      r.Needs c s name ∧ ∃ t, r.typeNamed? c name = some t ∧ t.aliasOf = none := by
  rw [← h.mem_requiredTypes_iff]
  constructor
  · intro hname
    obtain ⟨⟨name', built⟩, hbuilt, he⟩ := List.mem_filterMap.mp hname
    dsimp only at he
    split_ifs at he with halias
    cases he
    obtain ⟨t, ht, hrequired, hentry⟩ :=
      (RegistryIndex.mem_builtTypes_iff h.builtTypes).1 _ _ hbuilt
    rw [types_get?] at ht
    rw [BuiltType.aliasTarget?_ofEntry hentry, Option.not_isSome_iff_eq_none] at halias
    exact ⟨hrequired, t, ht, halias⟩
  · rintro ⟨hrequired, t, ht, halias⟩
    obtain ⟨built, hbuilt, hentry⟩ :=
      (RegistryIndex.mem_builtTypes_iff h.builtTypes).2 name t (types_get? name ▸ ht) hrequired
    refine List.mem_filterMap.mpr ⟨_, hbuilt, if_neg ?_⟩
    rw [BuiltType.aliasTarget?_ofEntry hentry, halias]
    nofun

/-- The names of the types that are built are names of types of the registry. -/
theorem Production.mem_of_ownNames (h : r.Production c s ds types m) {name : String}
    (hname : name ∈ BuiltType.ownNames types) : name ∈ (r.namedTypes c).map Prod.fst := by
  obtain ⟨-, t, ht, -⟩ := h.mem_ownNames_iff.mp hname
  exact (mem_of_typeNamed? ht).2.2

open Classical in
/-- The names of the commands, if no type takes one of them. -/
theorem Production.names_commands (h : r.Production c s ds types m)
    (hdisjoint : ∀ e ∈ r.commands, e.name ∉ (r.namedTypes c).map Prod.fst) : m.names .command =
      firstsWith (fun name => r.Lists c s (.command name) ∧ ¬ c.isExcluded name)
        (r.commands.map CommandEntry.name) := by
  obtain ⟨extensions, positions, hcommands⟩ := h.commands
  have hnames : m.names .command = m.commands.map Command.name := by
    rw [Model.names, Model.items, List.map_map]; rfl
  rw [hnames, names_buildCommands hcommands, firstsWith]
  refine List.filter_congr fun name hname => ?_
  obtain ⟨e, he, rfl⟩ := List.mem_map.mp (List.mem_eraseDups.mp hname)
  have hnew : e.name ∉ BuiltType.ownNames types := mt h.mem_of_ownNames (hdisjoint e he)
  simp [← h.listed, ← Demand.mem_commands_iff, hnew]

/-- An entry is of one kind only. -/
theorem Production.kind_unique (h : r.Production c s ds types m) {name : String} {k l : Kind}
    (hneeded : r.Needs c s name) (hk : r.GivesKind c k name) (hl : r.GivesKind c l name) :
    k = l := by
  obtain ⟨t, ht, hkind⟩ := id hk
  obtain ⟨built, -, hbuilt⟩ := (RegistryIndex.mem_builtTypes_iff h.builtTypes).2 name t
    (types_get? name ▸ ht) (h.mem_requiredTypes_iff.mpr hneeded)
  have hitem := (BuiltType.isItem_ofEntry hbuilt).kind_iff
  obtain ⟨item, hitem₁, hk⟩ := (hitem k).mpr ((givesKind_iff ht).mp hk)
  obtain ⟨item', hitem₂, hl⟩ := (hitem l).mpr ((givesKind_iff ht).mp hl)
  rw [hitem₁] at hitem₂
  cases hitem₂
  rw [hk] at hl
  exact Option.some.inj hl

/-- **What a model lists.** If no command has the name of a type, then a model that is built lists
the commands that the selection lists and the conventions do not exclude, and by kind the types that
it needs, except aliases; all of them once and in the order of the registry. -/
theorem names_of_build (hdisjoint : ∀ e ∈ r.commands, e.name ∉ (r.namedTypes c).map Prod.fst)
    (h : r.build c s = .ok m) :
    m.names .command =
      firstsWith (fun name => r.Lists c s (.command name) ∧ ¬ c.isExcluded name)
        (r.commands.map CommandEntry.name) ∧
    (∀ kind ∈ Kind.ofTypes, m.names kind =
      firstsWith (fun name => r.Needs c s name ∧ r.GivesKind c kind name)
        ((r.namedTypes c).map Prod.fst)) ∧
    ((.command :: Kind.ofTypes).flatMap m.names).Nodup := by
  obtain ⟨ds, types, h⟩ := exists_production h
  have hcommands := h.names_commands hdisjoint
  have htypes : ∀ kind ∈ Kind.ofTypes, m.names kind = _ := fun kind hkind => h.names_types hkind
  refine ⟨hcommands, htypes, ?_⟩
  rw [List.nodup_flatMap, List.pairwise_cons]
  refine ⟨fun kind hkind => ?_, fun kind hkind name hcommand htype => ?_, ?_⟩
  · rcases List.mem_cons.mp hkind with rfl | hkind
    · rw [hcommands]; exact nodup_firstsWith _ _
    · rw [htypes kind hkind]; exact nodup_firstsWith _ _
  · rw [hcommands, mem_firstsWith] at hcommand
    rw [htypes kind hkind, mem_firstsWith] at htype
    obtain ⟨e, he, rfl⟩ := List.mem_map.mp hcommand.1
    exact hdisjoint e he htype.1
  · have hdistinct : Kind.ofTypes.Pairwise (· ≠ ·) := by decide
    refine hdistinct.imp_of_mem fun {k l} hk hl hne name hname hname' => ?_
    rw [htypes k hk, mem_firstsWith] at hname
    rw [htypes l hl, mem_firstsWith] at hname'
    exact hne (h.kind_unique hname.2.1 hname.2.2 hname'.2.2)

/-- A registry with a command that is defined twice and has an alias, which both a feature and an
extension list, and with a second entry for the struct that it needs. -/
def overlapping : Registry where
  parts := [
    .types (typesOfMode ++ [{ (default : TypeEntry) with
      name := some "VkInfo", category := some "handle" }]),
    .values ⟨some "VkMode", some "enum", none, []⟩,
    .commands [.definition commandOfMode, .aliasOf "vkRunKHR" "vkRun", .definition commandOfMode],
    .feature ⟨"vulkan", "VK_VERSION_1_0", [⟨none, [.command "vkRun"]⟩]⟩,
    .extensions [⟨"VK_KHR_run", some 1, none, none, some "vulkan",
      [⟨none, [.command "vkRunKHR", .command "vkRun"]⟩]⟩]]

/-- Every name is listed once. -/
theorem names_of_build_overlapping :
    (∀ e ∈ overlapping.commands, e.name ∉ (overlapping.namedTypes Vulkan.convention).map Prod.fst) ∧
    ∃ m, overlapping.build Vulkan.convention .default = .ok m ∧
      m.names .command = ["vkRun", "vkRunKHR"] ∧
      Kind.ofTypes.flatMap m.names = ["VkInfo", "VkMode"] ∧
      m.names .struct = firstsWith
        (fun name => overlapping.Needs Vulkan.convention .default name ∧
          overlapping.GivesKind Vulkan.convention .struct name)
        ((overlapping.namedTypes Vulkan.convention).map Prod.fst) ∧
      ((.command :: Kind.ofTypes).flatMap m.names).Nodup := by
  have hdisjoint : ∀ e ∈ overlapping.commands,
      e.name ∉ (overlapping.namedTypes Vulkan.convention).map Prod.fst := by decide +kernel
  have hbuilt : (overlapping.build Vulkan.convention .default).map
      (fun m => (m.names .command, Kind.ofTypes.flatMap m.names)) =
        .ok (["vkRun", "vkRunKHR"], ["VkInfo", "VkMode"]) := by decide +kernel
  obtain ⟨m, hm, hnames⟩ := exists_of_map_eq_ok hbuilt
  obtain ⟨hcommands, htypes⟩ := Prod.mk.inj hnames
  obtain ⟨-, hkinds, hnodup⟩ := names_of_build hdisjoint hm
  exact ⟨hdisjoint, m, hm, hcommands, htypes, hkinds .struct (by decide), hnodup⟩

end Registry

end LayerStencil
