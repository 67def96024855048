import LayerStencil.Proofs.Target.Shipped

/-! # Layers define every command once

A command without a loop of its own is selected by exactly one of the loops over the commands of a
dispatch, if the lists of names in their conditions fit together: a name that is in the list of one
loop and not in that of its counterpart belongs to a command with a loop of its own. That the lists
fit is a fact about names (`mem_iff_of_fit`). What it says of the loops holds of the controls of
the template, since these are the loops, one by one (`Looped.exists_walk`).

* `Layer.countP_forwardLoops`, `EmptyDriver.countP_otherLoops`: the loops of the layers that call
  the next layer, and those of the layer that stands for a driver.
* `Target.exists_parse_selects_once`: the templates of the layers. -/

namespace LayerStencil

open Layer (Loop Looped)
open Target (textOf)

/-! ### Controls over commands -/

namespace Control

/-- The control is a loop for the command of a name. -/
def IsOwn (name : String) (k : Control) : Prop :=
  k.kind = .each .command ∧ ∃ c, k.condition = some c ∧ c.text = textOf (Layer.isNamed name)

/-- The control is a loop over commands, and a field stands in its condition. -/
def Tests (field : String) (k : Control) : Prop :=
  k.kind = .each .command ∧ ∃ c, k.condition = some c ∧ c.expr.Mentions field

/-- The condition of the control is true of the command. -/
def Selects (f : Command) (k : Control) : Prop :=
  ∃ c, k.condition = some c ∧ c.evaluate (Scope.values [.command f]) = .ok true

end Control

namespace Layer

/-- A control of the kind, with the condition, is the loop. -/
def Loop.Describes (loop : Loop) (control : ControlKind × Option Condition) : Prop :=
  control.1 = .each .command ∧
    ∃ condition, Guards condition loop ∧ control.2 = some ⟨textOf condition, loop.expr⟩

section Describes
variable {loop : Loop} {k : Control} (h : loop.Describes (k.kind, k.condition))
include h

theorem Loop.Describes.isOwn_iff {name : String} : k.IsOwn name ↔ loop = .named name := by
  obtain ⟨hkind, condition, hguards, hcondition⟩ := h
  rw [← hguards.isNamed_iff]
  simp_all [Control.IsOwn]

theorem Loop.Describes.tests_dispatch_iff : k.Tests "funcDispatchType" ↔ loop.isOfKind := by
  obtain ⟨hkind, condition, hguards, hcondition⟩ := h
  rw [← Loop.mentions_dispatch_iff hguards.areWords]
  simp_all [Control.Tests]

theorem Loop.Describes.tests_type_iff : k.Tests "funcType" ↔ loop.isOfType := by
  obtain ⟨hkind, condition, hguards, hcondition⟩ := h
  rw [← Loop.mentions_type_iff hguards.areWords]
  simp_all [Control.Tests]

theorem Loop.Describes.selects_iff {f : Command} : k.Selects f ↔ loop.holds f := by
  obtain ⟨-, condition, hguards, hcondition⟩ := h
  have hevaluate := Loop.evaluate (f := f) hguards.areWords (textOf condition)
  simp_all [Control.Selects]

end Describes

/-- **Lines and loops are a template**, and its controls are the loops. -/
theorem Looped.exists_walk {fs : List String} {loops : List Loop} (h : Looped fs loops) :
    ∃ template, Template.parse (textOf fs) = .ok template ∧
      List.Forall₂ (fun loop k => loop.Describes (k.kind, k.condition)) loops template.walk := by
  obtain ⟨heads, hheaded, hopens⟩ := h
  obtain ⟨template, hparse, hwalk⟩ := ExpandableBy.exists_walk hheaded
  have hheads : List.Forall₂ Loop.Describes loops
      (heads.map fun head => (head.kind, head.condition)) := by
    refine List.forall₂_map_right_iff.mpr (hopens.imp ?_)
    rintro loop head ⟨condition, hguards, rfl⟩
    exact ⟨rfl, condition, hguards, rfl⟩
  rw [← hwalk] at hheads
  exact ⟨template, hparse, List.forall₂_map_right_iff.mp hheads⟩

/-! ### Counting loops -/

/-- Controls that are loops one by one can be counted as loops. -/
theorem countP_eq_of_describes {loops : List Loop} {ks : List Control}
    (h : List.Forall₂ (fun loop k => loop.Describes (k.kind, k.condition)) loops ks)
    {p : Control → Bool} {q : Loop → Bool}
    (hpq : ∀ loop k, loop.Describes (k.kind, k.condition) → (q loop ↔ p k)) :
    ks.countP p = loops.countP q := by
  rw [List.countP_eq_length_filter, List.countP_eq_length_filter]
  exact (List.rel_filter (fun loop k hk => hpq loop k hk) h).length_eq.symm

/-- The commands that the layers define elsewhere than in a loop, or not at all. -/
def exemptCommands : List String :=
  ["vkGetInstanceProcAddr", "vkGetDeviceProcAddr", "vkEnumerateDeviceExtensionProperties"]

/-- Two lists fit if the names in only one of them are set apart. -/
theorem mem_iff_of_fit {words words' apart : List String} {name : String} (hname : name ∉ apart)
    (hfit : ∀ w ∈ words, w ∈ words' ++ apart) (hfit' : ∀ w ∈ words', w ∈ words ++ apart) :
    name ∈ words ↔ name ∈ words' := by
  constructor
  · intro h
    exact (List.mem_append.mp (hfit name h)).resolve_right hname
  · intro h
    exact (List.mem_append.mp (hfit' name h)).resolve_right hname

section Count
variable {f : Command} {d : Dispatch} {hasResult : Bool} {words words' : List String}

/-- A loop for the commands of a dispatch that are not in a list. -/
theorem countP_ofKind (hname : f.name ∉ words) :
    [Loop.ofKind d hasResult false words].countP (·.holds f) =
      if f.dispatch = d ∧ decide (f.returnType ≠ "void") = hasResult then 1 else 0 := by
  simp [List.countP_singleton, Loop.holds, hname]

/-- Two loops for the commands of a dispatch, one for those not in a list and the other for those in
a list that fits. -/
theorem countP_ofKind_pair (hname : f.name ∈ words ↔ f.name ∈ words') :
    [Loop.ofKind d hasResult false words, .ofKind d hasResult true words'].countP (·.holds f) =
      if f.dispatch = d ∧ decide (f.returnType ≠ "void") = hasResult then 1 else 0 := by
  rw [List.countP_cons, List.countP_singleton]
  by_cases hmem : f.name ∈ words' <;> simp [Loop.holds, hname, hmem]

/-- A command has one dispatch, and has a result or has none. -/
theorem sum_kinds (f : Command) :
    (((if f.dispatch = .viaInstance ∧ decide (f.returnType ≠ "void") = true then 1 else 0) +
      if f.dispatch = .viaInstance ∧ decide (f.returnType ≠ "void") = false then 1 else 0) +
      if f.dispatch = .viaDevice ∧ decide (f.returnType ≠ "void") = true then 1 else 0) +
      (if f.dispatch = .viaDevice ∧ decide (f.returnType ≠ "void") = false then 1 else 0) = 1 := by
  cases f.dispatch <;> cases decide (f.returnType ≠ "void") <;> rfl

/-- **The layers that call the next layer** select every other command once. -/
theorem countP_forwardLoops (hname : f.name ∉ ownCommands ++ exemptCommands) :
    forwardLoops.countP (·.holds f) = 1 := by
  have hnotIn {words : List String} (h : ∀ w ∈ words, w ∈ ownCommands ++ exemptCommands) :
      f.name ∉ words := fun hmem => hname (h f.name hmem)
  have hinstance : f.name ∉ specialInstanceCommands := hnotIn (by decide +kernel)
  have hresult : f.name ∉ specialDeviceCommands ++ ["vkQueuePresentKHR", "vkGetDeviceProcAddr"] :=
    hnotIn (by decide +kernel)
  have hnothing : f.name ∉ specialDeviceCommands ++ ["vkGetDeviceProcAddr"] :=
    hnotIn (by decide +kernel)
  have hloops : forwardLoops = (([.ofKind .viaInstance true false _] ++
      [.ofKind .viaInstance false false _]) ++ [.ofKind .viaDevice true false _]) ++
      [.ofKind .viaDevice false false _] := rfl
  rw [hloops, List.countP_append, List.countP_append, List.countP_append, countP_ofKind hinstance,
    countP_ofKind hinstance, countP_ofKind hresult, countP_ofKind hnothing, sum_kinds]

end Count

end Layer

namespace EmptyDriver
open Layer (Loop countP_ofKind countP_ofKind_pair exemptCommands mem_iff_of_fit)

/-- **The layer that stands for a driver** selects every other command once. -/
theorem countP_otherLoops {f : Command} (hname : f.name ∉ ownCommands ++ exemptCommands) :
    otherLoops.countP (·.holds f) = 1 := by
  have hnotIn {words : List String} (h : ∀ w ∈ words, w ∈ ownCommands ++ exemptCommands) :
      f.name ∉ words := fun hmem => hname (h f.name hmem)
  have hcreations : f.name ∉ Layer.specialInstanceCommands ++ instanceCreations :=
    hnotIn (by decide +kernel)
  have hreports : f.name ∉ Layer.specialInstanceCommands ++ instanceReports :=
    hnotIn (by decide +kernel)
  have hresult : f.name ∈ notAnsweredCommands ↔ f.name ∈ passedOnCommands :=
    mem_iff_of_fit hname (by decide +kernel) (by decide +kernel)
  have hnothing : f.name ∈ notIgnoredCommands ↔ f.name ∈ releaseCommands :=
    mem_iff_of_fit hname (by decide +kernel) (by decide +kernel)
  have hloops : otherLoops = (([.ofKind .viaInstance true false _] ++
      [.ofKind .viaInstance false false _]) ++
      [.ofKind .viaDevice true false _, .ofKind .viaDevice true true _]) ++
      [.ofKind .viaDevice false false _, .ofKind .viaDevice false true _] := rfl
  rw [hloops, List.countP_append, List.countP_append, List.countP_append, countP_ofKind hcreations,
    countP_ofKind hreports, countP_ofKind_pair hresult, countP_ofKind_pair hnothing,
    Layer.sum_kinds]

end EmptyDriver

/-! ### Templates of layers -/

namespace Layer

/-- The loops for other commands than those with a loop of their own are loops over the commands of
a dispatch, and one of them selects each such command. -/
structure Covers (own : List String) (others : List Loop) : Prop where
  isOfKind : ∀ loop ∈ others, loop.isOfKind
  once : ∀ f : Command, f.name ∉ own ++ exemptCommands → others.countP (·.holds f) = 1

theorem covers_forwardLoops : Covers ownCommands forwardLoops :=
  ⟨by simp [forwardLoops, Loop.isOfKind], fun _ => countP_forwardLoops⟩

section Loops
variable {own : List String} {others : List Loop} (hothers : ∀ loop ∈ others, loop.isOfKind)
include hothers

theorem countP_isOfKind (p : Loop → Bool) :
    (loops own others).countP (fun loop => loop.isOfKind && p loop) = others.countP p := by
  have hown : (own.map Loop.named).countP (fun loop => loop.isOfKind && p loop) = 0 := by
    simp [List.countP_eq_zero, Loop.isOfKind]
  have hothers : others.countP (fun loop => loop.isOfKind && p loop) = others.countP p :=
    List.countP_congr fun loop hloop => by simp [hothers loop hloop]
  have hlookups : lookupLoops.countP (fun loop => loop.isOfKind && p loop) = 0 := rfl
  rw [loops, List.countP_append, List.countP_append, hown, hothers, hlookups, Nat.zero_add,
    Nat.add_zero]

theorem countP_isOfType (p : Loop → Bool) :
    (loops own others).countP (fun loop => loop.isOfType && p loop) = lookupLoops.countP p := by
  have hown : (own.map Loop.named).countP (fun loop => loop.isOfType && p loop) = 0 := by
    simp [List.countP_eq_zero, Loop.isOfType]
  have hothers : others.countP (fun loop => loop.isOfType && p loop) = 0 := by
    rw [List.countP_eq_zero]
    intro loop hloop
    have hkind := hothers loop hloop
    cases loop with
    | ofKind => simp [Loop.isOfType]
    | named | ofType => simp [Loop.isOfKind] at hkind
  have hlookups : lookupLoops.countP (fun loop => loop.isOfType && p loop) =
      lookupLoops.countP p := List.countP_congr (by simp [lookupLoops, Loop.isOfType])
  rw [loops, List.countP_append, List.countP_append, hown, hothers, hlookups, Nat.zero_add]

/-- The commands with a loop of their own are those with a control of their own. -/
theorem exists_isOwn_iff {ks : List Control}
    (h : List.Forall₂ (fun loop k => loop.Describes (k.kind, k.condition)) (loops own others) ks)
    {name : String} : (∃ k ∈ ks, k.IsOwn name) ↔ name ∈ own := by
  classical
  have hcount : ks.countP (·.IsOwn name) = (loops own others).countP (· = .named name) :=
    countP_eq_of_describes h fun loop k hk => by simp [hk.isOwn_iff]
  have hother : Loop.named name ∉ others := fun hmem => by
    simpa [Loop.isOfKind] using hothers _ hmem
  calc (∃ k ∈ ks, k.IsOwn name)
      ↔ 0 < ks.countP (·.IsOwn name) := by simp [List.countP_pos_iff]
    _ ↔ Loop.named name ∈ loops own others := by
      rw [hcount, List.countP_pos_iff]
      simp
    _ ↔ name ∈ own := by simp [loops, lookupLoops, hother]

end Loops

open Classical in
/-- The loops that test the type of a command are those of the two commands that look up others. -/
theorem countP_selects_of_type {own : List String} {others : List Loop} {ks : List Control}
    (hothers : ∀ loop ∈ others, loop.isOfKind = true)
    (h : List.Forall₂ (fun loop k => loop.Describes (k.kind, k.condition)) (loops own others) ks)
    (f : Command) : ks.countP (fun k => k.Tests "funcType" ∧ k.Selects f) =
      lookupLoops.countP (·.holds f) := by
  rw [← countP_isOfType hothers]
  exact countP_eq_of_describes h fun loop k hk => by simp [hk.tests_type_iff, hk.selects_iff]

/-- One of the two commands that look up others knows a command of an instance or of a device, but
neither knows `vkEnumerateDeviceExtensionProperties` as a command of an instance. -/
theorem countP_lookupLoops {f : Command}
    (htype : f.functionType = "instance" ∨ f.functionType = "device") :
    lookupLoops.countP (·.holds f) =
      if f.functionType = "instance" ∧ f.name = "vkEnumerateDeviceExtensionProperties" then 0
      else 1 := by
  rcases htype with htype | htype
  · by_cases hname : f.name = "vkEnumerateDeviceExtensionProperties" <;>
      simp [lookupLoops, Loop.holds, htype, hname]
  · simp [lookupLoops, Loop.holds, htype]

end Layer

theorem EmptyDriver.covers_otherLoops : Layer.Covers ownCommands otherLoops :=
  ⟨by simp [otherLoops, Loop.isOfKind], fun _ => countP_otherLoops⟩

namespace Target

/-- The loops of a layer cover all commands. -/
theorem exists_looped {t : Target} (ht : t ∈ [apiCost, systrace, emptyDriver]) :
    ∃ fs own others, t.stencil = textOf fs ∧ Looped fs (Layer.loops own others) ∧
      Layer.Covers own others := by
  simp only [List.mem_cons, List.not_mem_nil, or_false] at ht
  rcases ht with rfl | rfl | rfl
  · exact ⟨_, _, _, rfl, ApiCost.looped_stencil, Layer.covers_forwardLoops⟩
  · exact ⟨_, _, _, rfl, Systrace.looped_stencil, Layer.covers_forwardLoops⟩
  · exact ⟨_, _, _, rfl, EmptyDriver.looped_stencil, EmptyDriver.covers_otherLoops⟩

open Classical in
/-- **A layer defines every command once.** A command that has no loop of its own is selected by one
of the loops that test the dispatch, unless it is one of the two commands that look up others or
`vkEnumerateDeviceExtensionProperties`. A command of an instance or of a device is selected by one
of the two loops that test the type, and so is found by one look-up, unless it is the instance
command `vkEnumerateDeviceExtensionProperties`: that one is left out by the condition of the
loop. -/
theorem exists_parse_selects_once {t : Target} (ht : t ∈ [apiCost, systrace, emptyDriver]) :
    ∃ template, Template.parse t.stencil = .ok template ∧ ∀ f : Command,
      ((∀ k ∈ template.walk, ¬ k.IsOwn f.name) →
        f.name ∉ ["vkGetInstanceProcAddr", "vkGetDeviceProcAddr",
          "vkEnumerateDeviceExtensionProperties"] →
        template.walk.countP (fun k => k.Tests "funcDispatchType" ∧ k.Selects f) = 1) ∧
      template.walk.countP (·.Tests "funcType") = 2 ∧
      (f.functionType = "instance" ∧ f.name ≠ "vkEnumerateDeviceExtensionProperties" ∨
          f.functionType = "device" →
        template.walk.countP (fun k => k.Tests "funcType" ∧ k.Selects f) = 1) := by
  obtain ⟨fs, own, others, hstencil, hlooped, hcovers⟩ := exists_looped ht
  obtain ⟨template, hparse, hwalk⟩ := hlooped.exists_walk
  rw [← hstencil] at hparse
  refine ⟨template, hparse, fun f => ⟨fun hnoOwn hexempt => ?_, ?_, fun htype => ?_⟩⟩
  · have hown : f.name ∉ own := by
      rw [← Layer.exists_isOwn_iff hcovers.isOfKind hwalk]
      rintro ⟨k, hk, hisOwn⟩
      exact hnoOwn k hk hisOwn
    have hname : f.name ∉ own ++ Layer.exemptCommands := by
      rw [List.mem_append, not_or]
      exact ⟨hown, hexempt⟩
    calc template.walk.countP (fun k => k.Tests "funcDispatchType" ∧ k.Selects f)
        = (Layer.loops own others).countP (fun loop => loop.isOfKind && loop.holds f) :=
          Layer.countP_eq_of_describes hwalk fun loop k hk => by
            simp [hk.tests_dispatch_iff, hk.selects_iff]
      _ = others.countP (·.holds f) := Layer.countP_isOfKind hcovers.isOfKind _
      _ = 1 := hcovers.once f hname
  · calc template.walk.countP (·.Tests "funcType")
        = (Layer.loops own others).countP (fun loop => loop.isOfType && true) :=
          Layer.countP_eq_of_describes hwalk fun loop k hk => by simp [hk.tests_type_iff]
      _ = Layer.lookupLoops.countP (fun _ => true) := Layer.countP_isOfType hcovers.isOfKind _
      _ = 2 := rfl
  · have hexception : ¬ (f.functionType = "instance" ∧
        f.name = "vkEnumerateDeviceExtensionProperties") := by
      rintro ⟨hinstance, hname⟩
      simp [hinstance, hname] at htype
    calc template.walk.countP (fun k => k.Tests "funcType" ∧ k.Selects f)
        = Layer.lookupLoops.countP (·.holds f) :=
          Layer.countP_selects_of_type hcovers.isOfKind hwalk f
      _ = 1 := by rw [Layer.countP_lookupLoops (htype.imp_left And.left), if_neg hexception]

open Classical in
/-- The layer that stands for a driver, and a command that creates a buffer. -/
theorem exists_parse_selects_once_createBuffer :
    emptyDriver ∈ [apiCost, systrace, emptyDriver] ∧
    ∃ template, Template.parse emptyDriver.stencil = .ok template ∧
      (∀ k ∈ template.walk, ¬ k.IsOwn "vkCreateBuffer") ∧
      template.walk.countP (fun k => k.Tests "funcDispatchType" ∧
        k.Selects ⟨"vkCreateBuffer", "VkResult", [], .viaDevice, none, none, none⟩) = 1 ∧
      template.walk.countP (fun k => k.Tests "funcType" ∧
        k.Selects ⟨"vkCreateBuffer", "VkResult", [], .viaDevice, none, none, none⟩) = 1 := by
  have ht : emptyDriver ∈ [apiCost, systrace, emptyDriver] := by simp
  obtain ⟨template, hparse, honce⟩ := exists_parse_selects_once ht
  obtain ⟨hdispatch, -, htype⟩ :=
    honce ⟨"vkCreateBuffer", "VkResult", [], .viaDevice, none, none, none⟩
  have hnoOwn : ∀ k ∈ template.walk, ¬ k.IsOwn "vkCreateBuffer" := by
    obtain ⟨template', hparse', hwalk⟩ := EmptyDriver.looped_stencil.exists_walk
    obtain rfl : template' = template := Except.ok.inj (hparse'.symm.trans hparse)
    have hown : "vkCreateBuffer" ∉ EmptyDriver.ownCommands := by decide +kernel
    intro k hk hisOwn
    exact hown ((Layer.exists_isOwn_iff EmptyDriver.covers_otherLoops.isOfKind hwalk).mp
      ⟨k, hk, hisOwn⟩)
  exact ⟨ht, template, hparse, hnoOwn, hdispatch hnoOwn (by decide), htype (.inr rfl)⟩

open Classical in
/-- The instance command that lists the extensions of a device is found by no look-up of the layer
that measures what calls cost. -/
theorem lookups_leave_out_enumerateDeviceExtensions :
    ∃ template, Template.parse apiCost.stencil = .ok template ∧
      (⟨"vkEnumerateDeviceExtensionProperties", "VkResult", [], .viaInstance, none, none, none⟩ :
        Command).functionType = "instance" ∧
      template.walk.countP (fun k => k.Tests "funcType" ∧
        k.Selects ⟨"vkEnumerateDeviceExtensionProperties", "VkResult", [], .viaInstance, none,
          none, none⟩) = 0 := by
  obtain ⟨template, hparse, hwalk⟩ := ApiCost.looped_stencil.exists_walk
  refine ⟨template, hparse, rfl, ?_⟩
  rw [Layer.countP_selects_of_type Layer.covers_forwardLoops.isOfKind hwalk,
    Layer.countP_lookupLoops (.inl rfl), if_pos ⟨rfl, rfl⟩]

end Target

end LayerStencil
