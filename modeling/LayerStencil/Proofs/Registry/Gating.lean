import LayerStencil.Convention.Vulkan
import LayerStencil.Proofs.Failure
import LayerStencil.Registry.Build
import Mathlib.Order.Bounds.Basic
import Mathlib.Tactic.Common

/-! # The extensions that gate what a model lists

A model remembers by name which extension gates a command or a type, as a position among its
extensions.

* `Extension.get?_positions`: the position of a name is that of the first extension that lists it.
* `Extension.Locates`: the same of any dictionary, said without the order in which it was filled.
* `Registry.exists_extensions`: what the extensions of a model and their positions come from.
* `Registry.extensionFor?_of_build`: the extension of an item is the first that lists its name among
  the commands, or else the first that lists it among the types. -/

namespace LayerStencil

/-! ### Positions of names -/

theorem Dict.lookup_map_const {α : Type} (names : List String) (value : α) (name : String) :
    (names.map fun n => (n, value)).lookup name = if name ∈ names then some value else none := by
  induction names with
  | nil => rfl
  | cons n names ih =>
    rw [List.map_cons, List.lookup_cons, ih]
    by_cases hn : name = n
    · subst hn; simp
    · simp [beq_eq_false_iff_ne.mpr hn, hn]

namespace Extension

/-- Filling a dictionary from position `k` on binds the names that were not bound before. -/
theorem get?_foldl_positions (names : Extension → OrderedSet String) (name : String) :
    ∀ (es : List Extension) (k : Nat) (d : Dict Nat),
      ((es.zipIdx k).foldl (fun d e => d.extendNew ((names e.1).toList.map fun n => (n, e.2)))
        d).get? name =
        (d.get? name).or ((es.findIdx? fun e => name ∈ names e).map (· + k))
  | [], _, _ => by simp
  | e :: es, k, d => by
    rw [List.zipIdx_cons, List.foldl_cons, get?_foldl_positions names name es, Dict.get?_extendNew,
      Dict.lookup_map_const, Option.or_assoc, List.findIdx?_cons]
    congr 1
    by_cases hname : name ∈ names e
    · simp [hname]
    · have hplus : ∀ i, i + (k + 1) = i + 1 + k := fun i => by omega
      simp [hname, Function.comp_def, hplus]

/-- **The position of a name** is that of the first extension that lists it. -/
theorem get?_positions (names : Extension → OrderedSet String) (es : List Extension)
    (name : String) :
    (positions names es).get? name = es.findIdx? fun e => name ∈ names e := by
  rw [positions, get?_foldl_positions, Dict.get?_empty, Option.none_or]
  simp

/-- The dictionary binds the names that some extension lists, each to the position of the first
extension that does. -/
structure Locates (names : Extension → OrderedSet String) (es : List Extension) (d : Dict Nat) :
    Prop where
  lt_length : ∀ entry ∈ d.entries, entry.2 < es.length
  mem_keys_iff : ∀ name, name ∈ d.keys ↔ ∃ e ∈ es, name ∈ names e
  isLeast : ∀ entry ∈ d.entries, IsLeast {i | ∃ e, es[i]? = some e ∧ entry.1 ∈ names e} entry.2

theorem locates_positions (names : Extension → OrderedSet String) (es : List Extension) :
    Locates names es (positions names es) where
  lt_length := by
    rintro ⟨name, i⟩ hmem
    rw [Dict.mem_entries_iff, get?_positions, List.findIdx?_eq_some_iff_getElem] at hmem
    exact hmem.1
  mem_keys_iff name := by
    rw [← not_iff_not, ← Dict.get?_eq_none_iff, get?_positions, List.findIdx?_eq_none_iff]
    simp
  isLeast := by
    rintro ⟨name, i⟩ hmem
    rw [Dict.mem_entries_iff, get?_positions, List.findIdx?_eq_some_iff_getElem] at hmem
    obtain ⟨hi, hlists, hbefore⟩ := hmem
    refine ⟨⟨es[i], List.getElem?_eq_getElem hi, by simpa using hlists⟩, ?_⟩
    rintro j ⟨e, he, hname⟩
    obtain ⟨hj, rfl⟩ := List.getElem?_eq_some_iff.mp he
    by_contra hlt
    have hnot := hbefore j (by omega)
    simp [hname] at hnot

end Extension

/-! ### The extensions of a model -/

namespace Registry

variable {c : Convention} {s : Selection} {r : Registry} {m : Model}

/-- The extensions of a model are the chosen ones in document order, and the model has the positions
of what they list. -/
theorem exists_extensions (h : r.build c s = .ok m) : ∃ entries, r.extensions? = some entries ∧
    m.extensions = (entries.filter (·.isChosen s)).map (·.toExtension c) ∧
    m.commandExtensions = Extension.positions Extension.commands m.extensions ∧
    m.typeExtensions = Extension.positions Extension.types m.extensions := by
  unfold build at h
  dsimp only at h
  split at h
  case h_2 => cases h
  rename_i entries hentries
  obtain ⟨_, ⟨⟩, h⟩ := exists_of_bind_eq_ok h
  obtain ⟨types, -, h⟩ := exists_of_bind_eq_ok h
  obtain ⟨commands, -, h⟩ := exists_of_bind_eq_ok h
  cases h
  exact ⟨entries, hentries, rfl, rfl, rfl⟩

end Registry

/-- In a model that has the positions of what its extensions list, what gates a name is the first
extension that lists it among the commands, or else among the types. -/
theorem Model.extensionOfName?_eq {m : Model}
    (hcommands : m.commandExtensions = Extension.positions Extension.commands m.extensions)
    (htypes : m.typeExtensions = Extension.positions Extension.types m.extensions) (name : String) :
    m.extensionOfName? name = (m.extensions.find? fun e => name ∈ e.commands).or
      (m.extensions.find? fun e => name ∈ e.types) := by
  have hcommand : m.extensions.find? (fun e => name ∈ e.commands) =
      (m.extensions.findIdx? fun e => name ∈ e.commands).bind (m.extensions[·]?) :=
    List.find?_eq_bind_findIdx?_getElem?
  have htype : m.extensions.find? (fun e => name ∈ e.types) =
      (m.extensions.findIdx? fun e => name ∈ e.types).bind (m.extensions[·]?) :=
    List.find?_eq_bind_findIdx?_getElem?
  rw [extensionOfName?, hcommands, htypes, Extension.get?_positions, Extension.get?_positions]
  cases hfirst : m.extensions.findIdx? fun e => name ∈ e.commands with
  | some i =>
    -- The position is below the length, so that an extension is found and types do not count.
    rw [hfirst, Option.bind_some] at hcommand
    obtain ⟨hi, -, -⟩ := List.findIdx?_eq_some_iff_getElem.mp hfirst
    have hfound : m.extensions[i]? = some m.extensions[i] := List.getElem?_eq_getElem hi
    rw [Option.some_or, hcommand, hfound, Option.some_or]
    exact hfound
  | none =>
    rw [hfirst, Option.bind_none] at hcommand
    rw [Option.none_or, hcommand, Option.none_or, htype]
    cases m.extensions.findIdx? fun e => name ∈ e.types <;> rfl

namespace Registry

variable {c : Convention} {s : Selection} {r : Registry} {m : Model}

/-- **The extensions of a model are found by name.** The dictionaries of a model that is built bind
what its extensions list to the first extension that does, and what gates an item is the first
extension in document order that lists its name among the commands, or else the first that lists it
among the types. -/
theorem extensionFor?_of_build (h : r.build c s = .ok m) :
    (∃ entries, r.extensions? = some entries ∧
      m.extensions = (entries.filter (·.isChosen s)).map (·.toExtension c)) ∧
    Extension.Locates Extension.commands m.extensions m.commandExtensions ∧
    Extension.Locates Extension.types m.extensions m.typeExtensions ∧
    ∀ item : Item, ∀ kind, item.kind? = some kind → kind ≠ .systemType →
      m.extensionFor? item = (m.extensions.find? fun e => item.name ∈ e.commands).or
        (m.extensions.find? fun e => item.name ∈ e.types) := by
  obtain ⟨entries, hentries, hextensions, hcommands, htypes⟩ := exists_extensions h
  refine ⟨⟨entries, hentries, hextensions⟩, ?_, ?_, fun item kind hkind hsystem => ?_⟩
  · rw [hcommands]
    exact Extension.locates_positions _ _
  · rw [htypes]
    exact Extension.locates_positions _ _
  · rw [← Model.extensionOfName?_eq hcommands htypes]
    cases item with
    | sentinel => cases hkind
    | systemType t => exact absurd (Option.some.inj hkind).symm hsystem
    | _ => rfl

/-- A registry with four extensions, of which the second one is disabled. The others list `vkRun`
as a command or a type, or twice. -/
def gated : Registry where
  parts := [
    .commands [.definition ⟨⟨"vkRun", some "void", "void vkRun"⟩, []⟩],
    .extensions [
      ⟨"VK_KHR_type", some 1, none, none, some "vulkan", [⟨none, [.type "vkRun"]⟩]⟩,
      ⟨"VK_KHR_off", some 2, none, none, some "disabled", [⟨none, [.command "vkRun"]⟩]⟩,
      ⟨"VK_KHR_first", some 3, none, some "device", some "vulkan",
        [⟨none, [.command "vkRun"]⟩, ⟨none, [.command "vkRun", .type "VkInfo"]⟩]⟩,
      ⟨"VK_KHR_second", some 4, none, none, some "vulkan",
        [⟨none, [.command "vkRun", .type "VkInfo", .command "vkStop"]⟩]⟩]]

/-- A disabled extension takes no position, and of two that list a command the first one gates
it. -/
theorem extensionFor?_gated : ∃ m, gated.build Vulkan.convention .default = .ok m ∧
    m.commandExtensions.entries = [("vkRun", 1), ("vkStop", 2)] ∧
    m.typeExtensions.entries = [("vkRun", 0), ("VkInfo", 1)] ∧
    Extension.Locates Extension.commands m.extensions m.commandExtensions ∧
    ∀ command ∈ m.commands, (m.extensionFor? (.command command)).map Extension.name =
      some "VK_KHR_first" ∧
        m.extensionFor? (.command command) =
          (m.extensions.find? fun e => command.name ∈ e.commands).or
            (m.extensions.find? fun e => command.name ∈ e.types) := by
  have hbuilt : (gated.build Vulkan.convention .default).map (fun m =>
      (m.commandExtensions.entries, m.typeExtensions.entries,
        m.commands.map fun command => (m.extensionFor? (.command command)).map Extension.name)) =
      .ok ([("vkRun", 1), ("vkStop", 2)], [("vkRun", 0), ("VkInfo", 1)],
        [some "VK_KHR_first"]) := by decide +kernel
  obtain ⟨m, hm, hmaps⟩ := exists_of_map_eq_ok hbuilt
  obtain ⟨hcommands, hrest⟩ := Prod.mk.inj hmaps
  obtain ⟨htypes, hgates⟩ := Prod.mk.inj hrest
  obtain ⟨-, hlocates, -, hfor⟩ := extensionFor?_of_build hm
  refine ⟨m, hm, hcommands, htypes, hlocates, fun command hcommand => ⟨?_, ?_⟩⟩
  · have hmem := List.mem_map_of_mem (f := fun command =>
      (m.extensionFor? (.command command)).map Extension.name) hcommand
    rw [hgates] at hmem
    exact List.mem_singleton.mp hmem
  · exact hfor (.command command) .command rfl (by decide)

end Registry

end LayerStencil
