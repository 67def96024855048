import LayerStencil.Generation
import LayerStencil.Proofs.Target.EmptyDriver
import LayerStencil.Target.Shipped

/-! # The shipped targets can be generated

The stencil of every shipped target is put together of lines and directives that expand over every
model: the braces of its text are doubled or enclose fields in scope, members are looped over inside
structs, and every condition compares values or asks for membership in a list of names. So no model
makes the generation of a shipped target fail.

* `ApiCost.looped_stencil`, `Systrace.looped_stencil`: the loops of the layers that call the next
  layer.
* `Target.arranged_shipped`: the lines and directives of every stencil expand.
* `Target.expands_shipped`: every stencil is a template that expands.
* `Target.exists_generate`: generation succeeds. -/

namespace LayerStencil

open Grammar (Phrase Quotable Spaces inQuotes)
open Target (AllFit Arranged AreWords Decides Headed IsWord textOf)
open Layer (IsBody Looped looped_defineNamed isBody_declareResult isBody_next isBody_returnResult
  isBody_tellExtensions isBody_tellProperties)

/-! ### The layer that measures commands -/

namespace ApiCost

theorem isBody_start : IsBody start := .cons (.of rfl) (.cons (.of rfl) .nil)

theorem isBody_stop : IsBody stop := .cons (.of rfl) (.cons (.of rfl) .nil)

theorem isBody_report : IsBody report :=
  .cons (.of rfl) (.cons (.of rfl) (.cons (.of rfl) (.cons (.of rfl) .nil)))

theorem isWord_layer : IsWord layer := .of rfl

theorem looped_specials : Looped specials (Layer.ownCommands.map .named) := by
  have hgap : IsBody ["\n"] := .cons (.of rfl) .nil
  have hreturn : IsBody ["    return "] := .cons (.of rfl) .nil
  have hgapReturn : IsBody ["\n    return "] := .cons (.of rfl) .nil
  have hframe : IsBody ["    ApiCostInstance::current().nextFrame();\n"] := .cons (.of rfl) .nil
  have htables := Layer.looped_tables hgap isBody_start isBody_stop isBody_report hgap
  have hextensions : Looped (Layer.defineNamed "vkEnumerateInstanceExtensionProperties" _) _ :=
    looped_defineNamed (.of rfl) (hreturn.append isBody_tellExtensions)
  have hinstance : Looped (Layer.defineNamed "vkEnumerateInstanceLayerProperties" _) _ :=
    looped_defineNamed (.of rfl) (((Layer.isBody_instanceProperties isWord_layer).append
      hgapReturn).append isBody_tellProperties)
  have hdevice : Looped (Layer.defineNamed "vkEnumerateDeviceLayerProperties" _) _ :=
    looped_defineNamed (.of rfl) (((Layer.isBody_deviceProperties isWord_layer).append
      hgapReturn).append isBody_tellProperties)
  have hnext : IsWord "device" := .of rfl
  have hpresent : Looped (Layer.defineNamed "vkQueuePresentKHR" _) _ :=
    looped_defineNamed (.of rfl) (((((isBody_start.append
      (isBody_declareResult (isBody_next hnext))).append isBody_stop).append
        isBody_report).append hframe).append isBody_returnResult)
  exact (((htables.append hextensions).append hinstance).append hdevice).append hpresent

theorem looped_stencil : Looped stencil (Layer.loops Layer.ownCommands Layer.forwardLoops) := by
  have hincludes : AllFit [] ["\"api_cost.h\""] := .cons (.of rfl) .nil
  have hstart : Headed [] (Target.notice "2019" ++ ["\n"] ++ Layer.includes ["\"api_cost.h\""] ++
      ["\n"] ++ Layer.headings) [] :=
    ((((Layer.headed_notice (.of rfl)).append Layer.headed_emptyLine).append
      (Layer.headed_includes hincludes)).append Layer.headed_emptyLine).append
        Layer.headed_headings
  exact (((Looped.of_headed hstart).append looped_specials).append
    (Layer.looped_forward isBody_start (isBody_stop.append isBody_report))).append
      Layer.looped_lookups

end ApiCost

/-! ### The layer that traces commands -/

namespace Systrace

theorem isBody_enter : IsBody enter := .cons (.of rfl) .nil

theorem isBody_leave : IsBody leave := .cons (.of rfl) .nil

theorem isWord_layer : IsWord layer := .of rfl

theorem isBody_traced {value : List String} (hvalue : IsBody value) : IsBody (traced value) :=
  ((isBody_enter.append (isBody_declareResult hvalue)).append isBody_leave).append
    isBody_returnResult

theorem looped_specials : Looped specials (Layer.ownCommands.map .named) := by
  have htables := Layer.looped_tables .nil isBody_enter isBody_leave .nil .nil
  have hextensions : Looped (Layer.defineNamed "vkEnumerateInstanceExtensionProperties" _) _ :=
    looped_defineNamed (.of rfl) (isBody_traced isBody_tellExtensions)
  have hinstance : Looped (Layer.defineNamed "vkEnumerateInstanceLayerProperties" _) _ :=
    looped_defineNamed (.of rfl) ((Layer.isBody_instanceProperties isWord_layer).append
      (isBody_traced isBody_tellProperties))
  have hdevice : Looped (Layer.defineNamed "vkEnumerateDeviceLayerProperties" _) _ :=
    looped_defineNamed (.of rfl) ((Layer.isBody_deviceProperties isWord_layer).append
      (isBody_traced isBody_tellProperties))
  have hnext : IsWord "device" := .of rfl
  have hpresent : Looped (Layer.defineNamed "vkQueuePresentKHR" _) _ :=
    looped_defineNamed (.of rfl) (isBody_traced (isBody_next hnext))
  exact (((htables.append hextensions).append hinstance).append hdevice).append hpresent

theorem looped_stencil : Looped stencil (Layer.loops Layer.ownCommands Layer.forwardLoops) := by
  have hincludes : AllFit [] (["<android/trace.h>"] ++ Layer.loaderHeaders ++
      ["\"vktrace_systrace.h\""]) :=
    (AllFit.append (.cons (.of rfl) .nil) Layer.allFit_loaderHeaders).append (.cons (.of rfl) .nil)
  have hstart : Headed [] (Target.notice "2020" ++ Layer.includes (["<android/trace.h>"] ++
      Layer.loaderHeaders ++ ["\"vktrace_systrace.h\""]) ++ ["\n"] ++ Layer.headings) [] :=
    (((Layer.headed_notice (.of rfl)).append (Layer.headed_includes hincludes)).append
      Layer.headed_emptyLine).append Layer.headed_headings
  exact (((Looped.of_headed hstart).append looped_specials).append
    (Layer.looped_forward isBody_enter isBody_leave)).append Layer.looped_lookups

end Systrace

/-! ### The header with the names of features -/

namespace StructMembers

theorem areWords_structures : AreWords structures := by
  repeat refine .cons (.of rfl) ?_
  exact .nil

theorem spaces_eight : Spaces [' ', ' ', ' ', ' ', ' ', ' ', ' ', ' '] :=
  Grammar.spaces_four.append Grammar.spaces_four

/-- The names of the fields in scope where a member is named. -/
abbrev fields : List String := namesInside [.cond, .each .member, .each .struct]

/-- The condition that holds of boolean members. -/
theorem decides_isBoolean : Decides fields
    ["'\x7bmemName\x7d' != 'pNext' and '\x7bmemType\x7d' == 'VkBool32'"] := by
  have hname : Quotable fields "\x7bmemName\x7d".toList := .of rfl
  have hnext : Quotable fields "pNext".toList := .of rfl
  have htype : Quotable fields "\x7bmemType\x7d".toList := .of rfl
  have hbool : Quotable fields "VkBool32".toList := .of rfl
  have hdiffers := Phrase.equality (.inr rfl) (.string hname) Grammar.relates_ne (.string hnext)
  have hequals := Phrase.equality (.inl rfl) (.string htype) Grammar.relates_eq (.string hbool)
  exact .of_phrase (hdiffers.single.and hequals Grammar.spaces_nil) (by simp [textOf, inQuotes])

/-- The condition that holds of members that are no pointers. -/
theorem decides_isDirect : Decides fields ["\x7bmemPtrLevel\x7d == 0"] := by
  have hne : "memPtrLevel".toList ≠ [] := by decide
  have hname : IsWord "memPtrLevel" := .of rfl
  have hlevel : String.ofList "memPtrLevel".toList ∈ fields := by decide
  have hdigit : ∀ c ∈ ['0'], Text.isAsciiDigit c := List.all_eq_true.mp rfl
  have hequals := Phrase.equality (.inl rfl) (.field hne hname hlevel) Grammar.relates_eq
    (.number (List.cons_ne_nil _ _) hdigit (by decide))
  exact .of_phrase hequals.single (by simp [textOf])

/-- The condition that holds of the structures that list features. -/
theorem decides_isListed : Decides (namesInside [.each .struct])
    (["'\x7bsctName\x7d' in ["] ++ Target.quotedNames gap structures ++ ["]"]) := by
  have hname : Quotable (namesInside [.each .struct]) "\x7bsctName\x7d".toList := .of rfl
  have hgap : Target.IsGap gap := .of rfl
  have hnames := (Target.enlists_quotedNames hgap (namesInside [.each .struct]) (by decide)
    areWords_structures).enumerates
  have hamong := Phrase.membership (.inl rfl) (.string hname) Grammar.relates_isIn
    (.list hnames Grammar.spaces_nil)
  exact .of_phrase hamong.single (by simp [textOf, inQuotes])

/-- The part for boolean members. -/
theorem arranged_boolean : Arranged [.cond, .each .member, .each .struct] [
    "        @if('\x7bmemName\x7d' != 'pNext' and '\x7bmemType\x7d' == 'VkBool32')\n",
    "        \"\x7bmemName\x7d\",\n",
    "        @end if\n"] := by
  have hbody : Arranged [.cond, .cond, .each .member, .each .struct]
      ["        \"\x7bmemName\x7d\",\n"] := .lines (.cons (.of rfl) .nil) rfl rfl
  exact .part spaces_eight spaces_eight decides_isBoolean hbody
    (by simp [textOf, ControlKind.endWords, ControlKind.tag])

/-- The loop over members, with the part for those that are no pointers. -/
theorem arranged_members {inside : List String}
    (hinside : Arranged [.cond, .each .member, .each .struct] inside) :
    Arranged [.each .struct] (
      ["    @foreach member\n"] ++ (["    @if(\x7bmemPtrLevel\x7d == 0)\n"] ++ inside ++
        ["    @end if\n"]) ++ ["    @end member\n"]) := by
  have hpart : Arranged [.each .member, .each .struct]
      (["    @if(\x7bmemPtrLevel\x7d == 0)\n"] ++ inside ++ ["    @end if\n"]) :=
    .part Grammar.spaces_four Grammar.spaces_four decides_isDirect hinside
      (by simp [textOf, ControlKind.endWords, ControlKind.tag])
  have howner : (ControlKind.each .member).HasOwner [.each .struct] :=
    fun _ => ⟨.struct, List.mem_singleton_self _, List.mem_singleton_self _⟩
  refine .loopAll Grammar.spaces_four Grammar.spaces_four ?_ howner hpart
    (by simp [textOf, ControlKind.endWords, ControlKind.tag, Kind.tag])
  simp [textOf, Marker.whereWord, Text.isWhiteSpace]

/-- The loop over the structures that list features. -/
theorem arranged_structures {inside : List String} (hinside : Arranged [.each .struct] inside) :
    Arranged [] (["@foreach struct where('\x7bsctName\x7d' in ["] ++
      Target.quotedNames gap structures ++ ["])\n"] ++ inside ++ ["@end struct\n"]) :=
  .loop Grammar.spaces_nil Grammar.spaces_nil decides_isListed nofun hinside
    (by simp [textOf, ControlKind.endWords, ControlKind.tag, Kind.tag, Marker.whereWord])

theorem arranged_stencil : Arranged [] stencil := by
  have hbefore : Arranged [.each .struct] ["std::string getString\x7bsctName\x7d(int idx)\n",
      "\x7b\x7b\n", "    std::string features[] = \x7b\x7b\n"] :=
    .lines (.cons (.of rfl) (.cons (.of rfl) (.cons (.of rfl) .nil))) rfl rfl
  have hafter : Arranged [.each .struct] ["    \x7d\x7d;\n", "\n", "    return features[idx];\n",
      "\x7d\x7d\n", "\n"] := by
    refine .lines ?_ rfl rfl
    repeat refine .cons (.of rfl) ?_
    exact .nil
  have htail : Arranged [] ["\n", "std::string getStringVkPhysicalDeviceFeatures2(int idx)\n",
      "\x7b\x7b\n", "    return getStringVkPhysicalDeviceFeatures(idx);\n", "\x7d\x7d\n",
      "\n"] := by
    refine .lines ?_ rfl rfl
    repeat refine .cons (.of rfl) ?_
    exact .nil
  have hyear : IsWord "2020" := .of rfl
  have hfunctions := arranged_structures
    ((hbefore.append (arranged_members arranged_boolean)).append hafter)
  exact ((((Layer.headed_notice hyear).arranged.append Layer.headed_emptyLine.arranged).append
    hfunctions).append htail).of_text_eq (congrArg textOf (by simp [stencil]))

end StructMembers

/-! ### All shipped targets -/

namespace Target

/-- The stencils of the shipped targets are put together of expandable fragments. -/
theorem arranged_shipped : ∀ t ∈ shipped, ∃ fs, t.stencil = textOf fs ∧ Arranged [] fs := by
  simp only [shipped, List.forall_mem_cons]
  exact ⟨⟨_, rfl, ApiCost.looped_stencil.arranged⟩, ⟨_, rfl, Systrace.looped_stencil.arranged⟩,
    ⟨_, rfl, EmptyDriver.looped_stencil.arranged⟩, ⟨_, rfl, StructMembers.arranged_stencil⟩, nofun⟩

/-- The stencil of a shipped target is a template that expands over every model. -/
theorem expands_shipped {t : Target} (ht : t ∈ shipped) : ∃ template,
    Template.parse t.stencil = .ok template ∧ ∀ m, ∃ events, template.expand m = .ok events := by
  obtain ⟨fs, hstencil, harranged⟩ := arranged_shipped t ht
  rw [hstencil]
  exact harranged.expands

/-- **Generation of a shipped target succeeds** over every model, guarded or not. -/
theorem exists_generate {t : Target} (ht : t ∈ shipped) (m : Model) (isProtected : Bool) :
    ∃ g, t.generate m isProtected = .ok g := by
  obtain ⟨template, hparse, hexpands⟩ := expands_shipped ht
  obtain ⟨events, hexpand⟩ := hexpands m
  refine ⟨⟨t.filename, t.finish isProtected (Event.printAll events), Event.statistics events⟩, ?_⟩
  simp only [generate, hparse, hexpand]

/-- The header with the names of features, over a model with one structure that lists a feature. -/
theorem exists_generate_structMembers : structMembers ∈ shipped ∧
    ∃ g, structMembers.generate { Model.empty with
      structs := [⟨"VkPhysicalDeviceFeatures", [default], none, [], false, []⟩] } true = .ok g := by
  have hshipped : structMembers ∈ shipped := by simp [shipped]
  exact ⟨hshipped, exists_generate hshipped _ true⟩

end Target

end LayerStencil
