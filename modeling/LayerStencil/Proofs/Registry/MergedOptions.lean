import LayerStencil.Proofs.Registry.Monotone

/-! # Merged options

The options of an enum or bitmask are those of its block of values, then those that features add and
then those that extensions add, and of several options of one name the first.

* `Registry.listedValues`: what the chosen features and extensions list, each offset with the number
  of its range.
* `Registry.givenOptions`: all options of a name, as if all values stood in its block.
* `EnumOption.firstOfEachName`: the options of a list whose names are new.
* `EnumOption.firsts_eq`, `Registry.givenOptions_eq`: collecting under the names that were seen
  leaves the first options, and the demands of a selection add the listed values.
* `Registry.options_of_build`: the options of the enums and bitmasks of a model. -/

namespace LayerStencil

/-! ### First options -/

namespace EnumOption

/-- The options whose name no option before them has. -/
def firstOfEachName (os : List EnumOption) : List EnumOption :=
  (os.zipIdx.filter fun e => (os.take e.2).all fun o => o.name ≠ e.1.name).map Prod.fst

theorem firstOfEachName_cons (o : EnumOption) (os : List EnumOption) :
    firstOfEachName (o :: os) = o :: (firstOfEachName os).filter fun p => p.name ≠ o.name := by
  have hrest : ((os.zipIdx 1).filter fun e =>
      ((o :: os).take e.2).all fun p => p.name ≠ e.1.name).map Prod.fst =
        (firstOfEachName os).filter fun p => p.name ≠ o.name := by
    rw [List.zipIdx_succ, List.filter_map, List.map_map, firstOfEachName, List.filter_map,
      List.filter_filter]
    refine congrArg _ (List.filter_congr fun e _ => ?_)
    simp [eq_comm]
  rw [firstOfEachName, List.zipIdx_cons, List.filter_cons_of_pos (by simp), List.map_cons, hrest]

/-- Collecting under the names that were seen leaves the options that are the first of theirs. -/
theorem firsts_eq : ∀ (os : List EnumOption) (seen : List String),
    firsts seen os = (firstOfEachName os).filter fun o => o.name ∉ seen
  | [], _ => rfl
  | o :: os, seen => by
    rw [firsts, firstOfEachName_cons]
    by_cases hseen : o.name ∈ seen
    · have hfilter : ∀ p : EnumOption, decide (p.name ∉ seen) =
          (decide (p.name ∉ seen) && decide (p.name ≠ o.name)) := by
        intro p
        by_cases hp : p.name = o.name
        · simp [hp, hseen]
        · simp [hp]
      rw [if_pos (by simpa using hseen), List.filter_cons_of_neg (by simpa using hseen),
        firsts_eq os, List.filter_filter]
      exact List.filter_congr fun p _ => hfilter p
    · rw [if_neg (by simpa using hseen), List.filter_cons_of_pos (by simpa using hseen),
        firsts_eq os, List.filter_filter]
      refine congrArg _ (List.filter_congr fun p _ => ?_)
      simp [Bool.and_comm]

theorem nodup_firstOfEachName : ∀ os : List EnumOption,
    ((firstOfEachName os).map EnumOption.name).Nodup
  | [] => List.nodup_nil
  | o :: os => by
    have hrest := ((nodup_firstOfEachName os).sublist
      ((List.filter_sublist (p := fun p : EnumOption => p.name ≠ o.name)).map EnumOption.name))
    rw [firstOfEachName_cons, List.map_cons]
    refine List.nodup_cons.mpr ⟨fun ho => ?_, hrest⟩
    obtain ⟨p, hp, hname⟩ := List.mem_map.mp ho
    simpa [hname] using (List.mem_filter.mp hp).2

/-- No name is lost. -/
theorem mem_names_firstOfEachName {os : List EnumOption} {name : String} :
    name ∈ (firstOfEachName os).map EnumOption.name ↔ name ∈ os.map EnumOption.name := by
  have hfirsts : name ∈ (firsts [] os).map EnumOption.name ↔ _ := mem_names_firsts
  simpa [firsts_eq] using hfirsts

end EnumOption

/-! ### Listed values -/

/-- The value that an item lists. -/
def RequiredItem.value? : RequiredItem → Option ValueEntry
  | value v => some v
  | _ => none

/-- The values that the requirements list that apply to the API. -/
def Requirement.values (c : Convention) (rs : List Requirement) : List ValueEntry :=
  (Requirement.itemsFor c rs).filterMap RequiredItem.value?

/-- The value as it is listed by an extension of a given number: an offset that has no number of its
own is one in the range of this extension. -/
def ValueEntry.inRangeOf (number : Option Int) (v : ValueEntry) : ValueEntry where
  name := v.name
  apis := v.apis
  spec :=
    match v.spec with
    | .offset offset extended own isPositive => .offset offset extended (own.or number) isPositive
    | spec => spec

namespace Registry

/-- The values that the chosen features list and then those that the chosen extensions list, in
document order. -/
def listedValues (c : Convention) (s : Selection) (r : Registry) (entries : List ExtensionEntry) :
    List ValueEntry :=
  ((r.chosenFeatures c s).flatMap fun f => Requirement.values c f.requirements) ++
    (entries.filter (·.isChosen s)).flatMap fun e =>
      (Requirement.values c e.requirements).map (·.inRangeOf e.number)

/-- The options of the values in a block, and of the listed values that are added to its name. A
value without a written form gives no option. -/
def givenOptions (c : Convention) (s : Selection) (r : Registry) (entries : List ExtensionEntry)
    (name : String) (b : ValueBlock) : List EnumOption :=
  let added := (r.listedValues c s entries).filter fun v => v.extended? none = some name
  ((b.values ++ added).filter fun v => c.applies v.apis).filterMap
    (EnumOption.ofEntry? b.isBitmask none)

end Registry

/-- The number of the extension only counts for offsets that have none. -/
theorem ValueEntry.written?_inRangeOf (number : Option Int) (v : ValueEntry) :
    (v.inRangeOf number).written? none = v.written? number := by
  rcases v with ⟨name, apis, spec⟩
  cases spec <;> simp [written?, inRangeOf]

theorem ValueEntry.inRangeOf_none (v : ValueEntry) : v.inRangeOf none = v := by
  rcases v with ⟨name, apis, spec⟩
  cases spec <;> simp [inRangeOf]

/-- The option that a listed value adds to a name. -/
def ValueEntry.addedOption? (c : Convention) (isBitmask : Bool) (name : String) (v : ValueEntry) :
    Option EnumOption :=
  if c.applies v.apis && v.extended? none = some name then EnumOption.ofEntry? isBitmask none v
  else none

section Demands
variable {c : Convention} {x : RegistryIndex} {name : String}

theorem Demand.option?_eq (item : RequiredItem) (number : Option Int) :
    Demand.option? c x name ⟨item, number⟩ = item.value?.bind fun v =>
      (v.inRangeOf number).addedOption? c (x.isBitmask name) name := by
  cases item with
  | value v =>
    have hwritten := v.written?_inRangeOf number
    have hextended : (v.inRangeOf number).extended? none = v.extended? number := by
      rw [ValueEntry.extended?, hwritten, ValueEntry.extended?]
    have hoption : EnumOption.ofEntry? (x.isBitmask name) none (v.inRangeOf number) =
        EnumOption.ofEntry? (x.isBitmask name) number v := by
      rw [EnumOption.ofEntry?, hwritten, EnumOption.ofEntry?]; rfl
    rw [RequiredItem.value?, Option.bind_some, ValueEntry.addedOption?, hextended, hoption]
    rfl
  | _ => rfl

theorem Requirement.filterMap_option? (rs : List Requirement) (number : Option Int) :
    ((Requirement.itemsFor c rs).map fun item => (⟨item, number⟩ : Demand)).filterMap
        (Demand.option? c x name) =
      ((Requirement.values c rs).map (·.inRangeOf number)).filterMap
        (ValueEntry.addedOption? c (x.isBitmask name) name) := by
  rw [List.filterMap_map, List.filterMap_map, Requirement.values, List.filterMap_filterMap]
  exact List.filterMap_congr fun item _ => Demand.option?_eq item number

/-- What a selection demands adds the options of the listed values. -/
theorem Demand.options_demandsOf (s : Selection) (r : Registry) (entries : List ExtensionEntry) :
    Demand.options c x name (r.demandsOf c s entries) = (r.listedValues c s entries).filterMap
      (ValueEntry.addedOption? c (x.isBitmask name) name) := by
  have hfeature : ∀ f : Feature, (f.demands c).filterMap (Demand.option? c x name) =
      (Requirement.values c f.requirements).filterMap
        (ValueEntry.addedOption? c (x.isBitmask name) name) := by
    intro f
    rw [Feature.demands, Requirement.filterMap_option?, List.filterMap_map]
    exact List.filterMap_congr fun v _ => congrArg _ v.inRangeOf_none
  have hextension : ∀ e : ExtensionEntry, (e.demands c).filterMap (Demand.option? c x name) =
      ((Requirement.values c e.requirements).map (·.inRangeOf e.number)).filterMap
        (ValueEntry.addedOption? c (x.isBitmask name) name) :=
    fun e => Requirement.filterMap_option? e.requirements e.number
  rw [Demand.options, Registry.demandsOf, Registry.listedValues, List.filterMap_append,
    List.filterMap_append, List.filterMap_flatMap, List.filterMap_flatMap, List.filterMap_flatMap,
    List.filterMap_flatMap]
  simp only [hfeature, hextension]

end Demands

/-! ### Options of a model -/

section Options
variable {c : Convention} {s : Selection} {r : Registry} {m : Model} {name : String}

/-- The options of a block and those that demands add are the given ones. -/
theorem Registry.givenOptions_eq {b : ValueBlock} (hb : (r.index c).blocks.get? name = some b)
    (entries : List ExtensionEntry) : r.givenOptions c s entries name b =
      (b.values.filter fun v => c.applies v.apis).filterMap
          (EnumOption.ofEntry? b.isBitmask none) ++
        Demand.options c (r.index c) name (r.demandsOf c s entries) := by
  have hbitmask : (r.index c).isBitmask name = b.isBitmask := by
    rw [RegistryIndex.isBitmask, hb]
  rw [Demand.options_demandsOf, hbitmask, givenOptions, List.filter_append, List.filterMap_append,
    List.filter_filter]
  exact congrArg _ List.filterMap_filter

/-- The names of the enums and bitmasks of a model with their options. -/
def Model.optionLists (m : Model) : List (String × List EnumOption) :=
  (m.enums.map fun e => (e.name, e.options)) ++ m.bitmasks.map fun b => (b.name, b.options)

/-- **Options are merged without loss or repetition.** In a model that is built the options of an
enum or bitmask are those of the values in the last block of its name, then of the values that the
chosen features add and then of those that the chosen extensions add, each in document order and as
far as they apply to the API, and of these the first of each name. So their names are distinct, and
every value that is added is there by name. -/
theorem Registry.options_of_build (h : r.build c s = .ok m) : ∃ entries,
    r.extensions? = some entries ∧ ∀ e ∈ m.optionLists, ∃ b, r.HasLastBlock e.1 b ∧
      e.2 = EnumOption.firstOfEachName (r.givenOptions c s entries e.1 b) ∧
      (e.2.map EnumOption.name).Nodup ∧
      ∀ v ∈ r.listedValues c s entries, c.applies v.apis → v.extended? none = some e.1 →
        v.name ∈ e.2.map EnumOption.name := by
  obtain ⟨entries, hentries, henums, hbitmasks, -⟩ := exists_optionLists h
  refine ⟨entries, hentries, fun e he => ?_⟩
  obtain ⟨b, hb, hoptions⟩ : ∃ b, (r.index c).blocks.get? e.1 = some b ∧
      e.2 = b.options c (r.index c) (r.demandsOf c s entries) e.1 := by
    rcases List.mem_append.mp he with he | he
    · obtain ⟨enum, henum, rfl⟩ := List.mem_map.mp he
      exact henums enum henum
    · obtain ⟨bitmask, hbitmask, rfl⟩ := List.mem_map.mp he
      exact hbitmasks bitmask hbitmask
  have hfirst : e.2 = EnumOption.firstOfEachName (r.givenOptions c s entries e.1 b) := by
    rw [hoptions, ValueBlock.options, EnumOption.firsts_eq, givenOptions_eq hb]
    simp
  refine ⟨b, hasLastBlock_iff.mpr hb, hfirst, hfirst ▸ EnumOption.nodup_firstOfEachName _, ?_⟩
  intro v hv happlies hextended
  -- The value has a written form, since it is added by it.
  obtain ⟨w, hw, -⟩ := Option.bind_eq_some_iff.mp hextended
  rw [hfirst, EnumOption.mem_names_firstOfEachName, givenOptions, List.mem_map]
  refine ⟨⟨v.name, w.value, b.isBitmask && w.isLiteral, w.isAlias⟩, ?_, rfl⟩
  refine List.mem_filterMap.mpr ⟨v, List.mem_filter.mpr ⟨List.mem_append_right _ ?_, happlies⟩, ?_⟩
  · exact List.mem_filter.mpr ⟨hv, by simpa using hextended⟩
  · rw [EnumOption.ofEntry?, hw]; rfl

end Options

namespace Registry

/-- The extensions of `promoted`. The first one adds a value that a feature adds as well, and a
value at an offset in its own range; the second one adds the latter again, at an offset in a given
range, and a value of another API. -/
def extensionsOfPromoted : List ExtensionEntry := [
  ⟨"VK_KHR_stop", some 2, none, none, some "vulkan", [⟨none, [
    .value ⟨"VK_MODE_STOP", none, .offset 0 "VkMode" none true⟩,
    .value ⟨"VK_MODE_WAIT", none, .offset 1 "VkMode" none false⟩]⟩]⟩,
  ⟨"VK_EXT_wait", some 9, none, none, some "vulkan", [⟨none, [
    .value ⟨"VK_MODE_WAIT", none, .offset 1 "VkMode" (some 2) false⟩,
    .value ⟨"VK_MODE_SAFE", some "vulkansc", .literal "7" (some "VkMode")⟩]⟩]⟩]

/-- A registry with an enum that a feature and two extensions add to. One of the values in its block
has no written form, and two have one name. -/
def promoted : Registry where
  parts := [
    .types [{ (default : TypeEntry) with name := some "VkMode", category := some "enum" }],
    .values ⟨some "VkMode", some "enum", none, [
      ⟨"VK_MODE_RUN", none, .literal "0" none⟩,
      ⟨"VK_MODE_NONE", none, .none⟩,
      ⟨"VK_MODE_RUN", none, .literal "1" none⟩]⟩,
    .feature ⟨"vulkan", "VK_VERSION_1_0", [⟨none, [.type "VkMode",
      .value ⟨"VK_MODE_STOP", none, .offset 0 "VkMode" (some 2) true⟩]⟩]⟩,
    .extensions extensionsOfPromoted]

/-- Each name comes once, with the value that is given first. -/
theorem options_of_build_promoted : ∃ m, promoted.build Vulkan.convention .default = .ok m ∧
    m.optionLists.map (fun e => e.2.map fun o => (o.name, o.value)) =
      [[("VK_MODE_RUN", "0"), ("VK_MODE_STOP", "1000001000"), ("VK_MODE_WAIT", "-1000001001")]] ∧
    ∃ entries, promoted.extensions? = some entries ∧ ∀ e ∈ m.optionLists, ∃ b,
      promoted.HasLastBlock e.1 b ∧ e.2 = EnumOption.firstOfEachName
        (promoted.givenOptions Vulkan.convention .default entries e.1 b) := by
  have hbuilt : (promoted.build Vulkan.convention .default).map
      (fun m => m.optionLists.map fun e => e.2.map fun o => (o.name, o.value)) =
        .ok [[("VK_MODE_RUN", "0"), ("VK_MODE_STOP", "1000001000"),
          ("VK_MODE_WAIT", "-1000001001")]] := by decide +kernel
  obtain ⟨m, hm, hoptions⟩ := exists_of_map_eq_ok hbuilt
  obtain ⟨entries, hentries, hmerged⟩ := options_of_build hm
  refine ⟨m, hm, hoptions, entries, hentries, fun e he => ?_⟩
  obtain ⟨b, hb, hfirst, -, -⟩ := hmerged e he
  exact ⟨b, hb, hfirst⟩

end Registry

end LayerStencil
