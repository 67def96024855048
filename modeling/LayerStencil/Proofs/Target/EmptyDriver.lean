import LayerStencil.Proofs.Target.Layer
import LayerStencil.Target.EmptyDriver

/-! # The stencil of the layer that stands for a driver expands

Besides what layers share, the stencil answers calls itself (`isBody_answer`), defines commands that
make handles up from a table of their names (`Creation.Named`), and excepts from the rest long lists
of names, which are put together from groups (`enlists_group`). `looped_stencil` says which loops
over commands it consists of. -/

namespace LayerStencil.EmptyDriver

open Grammar (Relates)
open Target (AllFit AreWords Enlists Headed IsGap IsWord)
open Layer (Guards IsBody Loop Looped isBody_call isBody_declareResult isBody_next
  isBody_returnResult isBody_tellExtensions isBody_tellProperties looped_define looped_defineNamed)

/-! ### Bodies of definitions -/

theorem isBody_returning {value : List String} (hvalue : IsBody value) :
    IsBody (returning value) :=
  (isBody_declareResult hvalue).append isBody_returnResult

theorem isBody_unlessDriver {body otherwise : List String} (hbody : IsBody body)
    (hotherwise : IsBody otherwise) : IsBody (unlessDriver body otherwise) :=
  ((AllFit.append (.cons (.of rfl) .nil) hbody).append hotherwise).append (.cons (.of rfl) .nil)

theorem isBody_answer {table result : String} {otherwise : List String} (htable : IsWord table)
    (hresult : IsWord result) (hotherwise : IsBody otherwise) :
    IsBody (answer table result otherwise) := by
  have hdeclared : IsBody [result, ";\n"] := .cons hresult.fits (.cons (.of rfl) .nil)
  have hassigned : IsBody ["    result = "] := .cons (.of rfl) .nil
  exact ((isBody_declareResult hdeclared).append
    (isBody_unlessDriver (hassigned.append (isBody_next htable)) hotherwise)).append
      isBody_returnResult

theorem isBody_ignore {table : String} (htable : IsWord table) : IsBody (ignore table) :=
  isBody_unlessDriver (isBody_call htable) .nil

theorem isBody_newHandle : IsBody newHandle := .cons (.of rfl) .nil

theorem isBody_store {pointer type : String} (hpointer : IsWord pointer) (htype : IsWord type) :
    IsBody (store pointer type) :=
  .cons (.of rfl) (.cons hpointer.fits (.cons (.of rfl) (.cons htype.fits (.cons (.of rfl) .nil))))

theorem isBody_storeIndex : IsBody storeIndex := .cons (.of rfl) .nil

theorem isBody_else : IsBody ["#else\n"] := .cons (.of rfl) .nil

theorem isWord_layer : IsWord layer := .of rfl

theorem isWord_device : IsWord "device" := .of rfl

theorem isWord_instance : IsWord "instance" := .of rfl

theorem looped_creates {table command pointer type : String} (htable : IsWord table)
    (hcommand : IsWord command) (hpointer : IsWord pointer) (htype : IsWord type) :
    Looped (creates table command pointer type) [.named command] :=
  looped_defineNamed hcommand (isBody_answer htable (.of rfl)
    ((isBody_else.append isBody_newHandle).append (isBody_store hpointer htype)))

theorem looped_answers {command result : String} {otherwise : List String}
    (hcommand : IsWord command) (hresult : IsWord result) (hotherwise : IsBody otherwise) :
    Looped (answers command result otherwise) [.named command] :=
  looped_defineNamed hcommand (isBody_answer isWord_device hresult hotherwise)

/-! ### Instance commands -/

theorem looped_ignored {command : String} (hcommand : IsWord command) :
    Looped (ignored command) [.named command] :=
  looped_defineNamed hcommand ((isBody_ignore isWord_instance).append (.cons (.of rfl) .nil))

theorem areWords_instanceReports : AreWords instanceReports := by
  repeat refine .cons (.of rfl) ?_
  exact .nil

theorem looped_instanceCommands :
    Looped instanceCommands ((instanceCreations ++ instanceReports).map .named) := by
  have hbegin : Headed [] ["// instance function begin\n"] [] :=
    .lines (.cons (.of rfl) .nil) rfl rfl
  have hend : Headed [] ["// instance function end\n", "\n", "\n"] [] :=
    .lines (.cons (.of rfl) (.cons (.of rfl) (.cons (.of rfl) .nil))) rfl rfl
  have hcallback : Looped (creates "instance" "vkCreateDebugReportCallbackEXT" "pCallback"
      "VkDebugReportCallbackEXT") _ := looped_creates isWord_instance (.of rfl) (.of rfl) (.of rfl)
  have hmessenger : Looped (creates "instance" "vkCreateDebugUtilsMessengerEXT" "pMessenger"
      "VkDebugUtilsMessengerEXT") _ := looped_creates isWord_instance (.of rfl) (.of rfl) (.of rfl)
  have hreports : Looped (instanceReports.flatMap ignored) (instanceReports.map .named) :=
    .flatMap fun command hcommand => looped_ignored (areWords_instanceReports command hcommand)
  exact ((((Looped.of_headed hbegin).append hcallback).append hmessenger).append hreports).append
    (.of_headed hend)

/-! ### Device commands -/

/-- The command, the pointer and the type of a creation are words. -/
structure Creation.Named (c : Creation) : Prop where
  command : IsWord c.1
  pointer : IsWord c.2.1
  type : IsWord c.2.2

theorem Creation.Named.looped {c : Creation} (h : c.Named) : Looped c.define [.named c.1] :=
  looped_creates isWord_device h.command h.pointer h.type

theorem named_creations : ∀ c ∈ creations, c.Named := by
  repeat refine List.forall_mem_cons.mpr ⟨⟨.of rfl, .of rfl, .of rfl⟩, ?_⟩
  exact nofun

theorem named_templateCreations : ∀ c ∈ templateCreations, c.Named := by
  repeat refine List.forall_mem_cons.mpr ⟨⟨.of rfl, .of rfl, .of rfl⟩, ?_⟩
  exact nofun

theorem named_spacedCreations : ∀ c ∈ spacedCreations, c.Named := by
  repeat refine List.forall_mem_cons.mpr ⟨⟨.of rfl, .of rfl, .of rfl⟩, ?_⟩
  exact nofun

/-- The device commands with a definition of their own. -/
def ownDeviceCommands : List String :=
  ["vkQueuePresentKHR", "vkCreateFramebuffer"] ++ creations.map Prod.fst ++
    ["vkAcquireNextImageKHR", "vkAcquireNextImage2KHR"] ++ templateCreations.map Prod.fst ++
    spacedCreations.map Prod.fst ++ ["vkCreateQueryPool", "vkGetEventStatus"]

theorem looped_deviceCommands : Looped deviceCommands (ownDeviceCommands.map .named) := by
  have hsuccess : IsWord "VK_SUCCESS" := .of rfl
  have hotherwise : IsBody ["else\n"] := .cons (.of rfl) .nil
  have hbegin : Headed [] ["// device function begin\n", "\n"] [] :=
    .lines (.cons (.of rfl) (.cons (.of rfl) .nil)) rfl rfl
  have hend : Headed [] ["// device function end\n", "\n"] [] :=
    .lines (.cons (.of rfl) (.cons (.of rfl) .nil)) rfl rfl
  have hpresent : Looped (answers "vkQueuePresentKHR" "VK_SUCCESS" []) _ :=
    looped_answers (.of rfl) hsuccess .nil
  have hframebuffer : Looped (answers "vkCreateFramebuffer" "VK_SUCCESS"
      (["else\n"] ++ newHandle ++ store "pFramebuffer" "VkFramebuffer")) _ :=
    looped_answers (.of rfl) hsuccess ((hotherwise.append isBody_newHandle).append
      (isBody_store (.of rfl) (.of rfl)))
  have hcreations : Looped (creations.flatMap Creation.define) _ :=
    .flatMap fun c hc => (named_creations c hc).looped
  have hacquire : Looped (answers "vkAcquireNextImageKHR" "VK_SUCCESS"
      (["#else\n"] ++ storeIndex)) _ :=
    looped_answers (.of rfl) hsuccess (isBody_else.append isBody_storeIndex)
  have hacquire2 : Looped (answers "vkAcquireNextImage2KHR" "VK_SUCCESS"
      (["#else\n"] ++ newHandle ++ storeIndex)) _ :=
    looped_answers (.of rfl) hsuccess
      ((isBody_else.append isBody_newHandle).append isBody_storeIndex)
  have htemplates : Looped (templateCreations.flatMap Creation.define) _ :=
    .flatMap fun c hc => (named_templateCreations c hc).looped
  have hspaced : Looped (spacedCreations.flatMap fun c => c.define ++ ["\n"]) _ :=
    .flatMap fun c hc =>
      (named_spacedCreations c hc).looped.append (.of_headed Layer.headed_emptyLine)
  have hquery : Looped (Creation.define ("vkCreateQueryPool", "pQueryPool", "VkQueryPool")) _ :=
    Creation.Named.looped ⟨.of rfl, .of rfl, .of rfl⟩
  have hstatus : Looped (answers "vkGetEventStatus" "VK_EVENT_SET" []) _ :=
    looped_answers (.of rfl) (.of rfl) .nil
  exact ((((((((((Looped.of_headed hbegin).append hpresent).append hframebuffer).append
    hcreations).append hacquire).append hacquire2).append htemplates).append hspaced).append
      hquery).append hstatus).append (.of_headed hend)

/-! ### Lists of commands -/

theorem areWords_commands {cs : List Creation} (h : ∀ c ∈ cs, c.Named) :
    AreWords (cs.map Prod.fst) := by
  intro w hw
  obtain ⟨c, hc, rfl⟩ := List.mem_map.mp hw
  exact (h c hc).command

theorem areWords_instanceCreations : AreWords instanceCreations :=
  .cons (.of rfl) (.cons (.of rfl) .nil)

theorem areWords_memoryCreations : AreWords memoryCreations := by
  repeat refine .cons (.of rfl) ?_
  exact .nil

theorem areWords_memoryUses : AreWords memoryUses := by
  repeat refine .cons (.of rfl) ?_
  exact .nil

theorem areWords_memoryHandles : AreWords memoryHandles := by
  repeat refine .cons (.of rfl) ?_
  exact .nil

theorem areWords_bufferAddresses : AreWords bufferAddresses := by
  repeat refine .cons (.of rfl) ?_
  exact .nil

theorem areWords_bufferProperties : AreWords bufferProperties := .cons (.of rfl) .nil

theorem areWords_memoryReleases : AreWords memoryReleases := by
  repeat refine .cons (.of rfl) ?_
  exact .nil

theorem areWords_requirements : AreWords requirements := by
  repeat refine .cons (.of rfl) ?_
  exact .nil

theorem areWords_imageRequirements : AreWords imageRequirements :=
  .cons (.of rfl) (.cons (.of rfl) .nil)

/-- A list of commands goes on after the gap between two groups. -/
theorem enlists_group {fs words words' : List String} (h : Enlists Layer.fields fs words)
    (hne : words' ≠ []) (hwords : AreWords words') :
    Enlists Layer.fields (fs ++ groupGap ++ Layer.quoted words') (words ++ words') :=
  h.append (.of rfl) (Layer.enlists_quoted hne hwords)

/-- The device commands with a result that are passed on either way. -/
def passedOnCommands : List String :=
  memoryCreations ++ memoryUses ++ memoryHandles ++ bufferAddresses ++ bufferProperties

theorem enlists_passedOn : Enlists Layer.fields passedOn passedOnCommands := by
  have hwide : IsGap ",      " := .of rfl
  have hnarrow : IsGap ",  " := .of rfl
  have hcreations := Layer.enlists_quoted (by decide) areWords_memoryCreations
  have huses := hcreations.append hwide
    (Layer.enlists_quoted (by decide) areWords_memoryUses)
  have hhandles := enlists_group huses (by decide) areWords_memoryHandles
  have haddresses := hhandles.append hnarrow
    (Layer.enlists_quoted (by decide) areWords_bufferAddresses)
  exact enlists_group haddresses (by decide) areWords_bufferProperties

/-- The device commands without a result that are passed on either way. -/
def releaseCommands : List String := memoryReleases ++ requirements ++ imageRequirements

theorem enlists_releases : Enlists Layer.fields releases releaseCommands := by
  have hreleases := Layer.enlists_quoted (by decide) areWords_memoryReleases
  have hrequirements := enlists_group hreleases (by decide) areWords_requirements
  exact enlists_group hrequirements (by decide) areWords_imageRequirements

/-- The device commands without a result that are not ignored. -/
def notIgnoredCommands : List String :=
  Layer.specialDeviceCommands ++ ["vkGetDeviceProcAddr"] ++ releaseCommands

theorem enlists_notIgnored : Enlists Layer.fields notIgnored notIgnoredCommands := by
  have hlookup : AreWords ["vkGetDeviceProcAddr"] := .cons (.of rfl) .nil
  have hspecial := Layer.enlists_quoted (by decide)
    (Layer.areWords_specialDeviceCommands.append hlookup)
  exact hspecial.append (.of rfl) enlists_releases

/-- The device commands with a result that are not answered alike. -/
def notAnsweredCommands : List String :=
  Layer.specialDeviceCommands ++ ["vkQueuePresentKHR", "vkGetDeviceProcAddr"] ++
    (["vkCreateFramebuffer"] ++ (creations.take 8).map Prod.fst ++ memoryCreations ++
      ["vkCreateShaderModule", "vkAcquireNextImageKHR", "vkAcquireNextImage2KHR"]) ++
    ((templateCreations ++ spacedCreations).map Prod.fst ++
      ["vkCreateQueryPool", "vkGetEventStatus"]) ++
    memoryUses ++ (memoryHandles ++ bufferAddresses) ++ bufferProperties

theorem enlists_notAnswered : Enlists Layer.fields notAnswered notAnsweredCommands := by
  have hpresent : AreWords ["vkQueuePresentKHR", "vkGetDeviceProcAddr"] :=
    .cons (.of rfl) (.cons (.of rfl) .nil)
  have hframebuffer : AreWords ["vkCreateFramebuffer"] := .cons (.of rfl) .nil
  have hacquire : AreWords ["vkCreateShaderModule", "vkAcquireNextImageKHR",
      "vkAcquireNextImage2KHR"] := .cons (.of rfl) (.cons (.of rfl) (.cons (.of rfl) .nil))
  have hquery : AreWords ["vkCreateQueryPool", "vkGetEventStatus"] :=
    .cons (.of rfl) (.cons (.of rfl) .nil)
  have hcreations : AreWords ((creations.take 8).map Prod.fst) :=
    areWords_commands fun c hc => named_creations c (List.mem_of_mem_take hc)
  have htemplates : AreWords ((templateCreations ++ spacedCreations).map Prod.fst) :=
    areWords_commands (List.forall_mem_append.mpr ⟨named_templateCreations, named_spacedCreations⟩)
  have hspecial := Layer.enlists_quoted (by decide)
    (Layer.areWords_specialDeviceCommands.append hpresent)
  have hobjects := enlists_group hspecial (by decide)
    (((hframebuffer.append hcreations).append areWords_memoryCreations).append hacquire)
  have hothers := enlists_group hobjects (by decide) (htemplates.append hquery)
  have huses := enlists_group hothers (by decide) areWords_memoryUses
  have haddresses := enlists_group huses (by decide)
    (areWords_memoryHandles.append areWords_bufferAddresses)
  exact enlists_group haddresses (by decide) areWords_bufferProperties

/-! ### All other commands -/

theorem relates_isIn : Relates .isIn (' ' :: "in    ".toList) := by
  simpa using Grammar.relates_isIn.space Grammar.spaces_four

theorem relates_notIn : Relates .notIn (' ' :: "not in    ".toList) := by
  simpa using Grammar.relates_notIn.space Grammar.spaces_four

/-- The loops for the commands without a definition of their own. -/
def otherLoops : List Loop := [
  .ofKind .viaInstance true false (Layer.specialInstanceCommands ++ instanceCreations),
  .ofKind .viaInstance false false (Layer.specialInstanceCommands ++ instanceReports),
  .ofKind .viaDevice true false notAnsweredCommands,
  .ofKind .viaDevice true true passedOnCommands,
  .ofKind .viaDevice false false notIgnoredCommands,
  .ofKind .viaDevice false true releaseCommands]

theorem looped_otherCommands : Looped otherCommands otherLoops := by
  have hforInstance : Headed [] ["// Autogen instance functions\n", "\n"] [] :=
    .lines (.cons (.of rfl) (.cons (.of rfl) .nil)) rfl rfl
  have hforDevice : Headed [] ["// Autogen device functions\n", "\n"] [] :=
    .lines (.cons (.of rfl) (.cons (.of rfl) .nil)) rfl rfl
  have hpassed : Guards (Layer.isOfKind Dispatch.viaInstance.word "!=" "not in    " _)
      (.ofKind .viaInstance true false _) :=
    Layer.guards_isOfKind Layer.relates_differs relates_notIn (Layer.enlists_quoted (by decide)
      (Layer.areWords_specialInstanceCommands.append areWords_instanceCreations))
  have hcalled : Guards (Layer.isOfKind Dispatch.viaInstance.word "==" "not in    " _)
      (.ofKind .viaInstance false false _) :=
    Layer.guards_isOfKind Layer.relates_equals relates_notIn (Layer.enlists_quoted (by decide)
      (Layer.areWords_specialInstanceCommands.append areWords_instanceReports))
  have hanswered : Guards (Layer.isOfKind Dispatch.viaDevice.word "!=" "not in    " notAnswered)
      (.ofKind .viaDevice true false _) :=
    Layer.guards_isOfKind Layer.relates_differs relates_notIn enlists_notAnswered
  have hpassedOn : Guards (Layer.isOfKind Dispatch.viaDevice.word "!=" "in    " passedOn)
      (.ofKind .viaDevice true true _) :=
    Layer.guards_isOfKind Layer.relates_differs relates_isIn enlists_passedOn
  have hignored : Guards (Layer.isOfKind Dispatch.viaDevice.word "==" "not in    " notIgnored)
      (.ofKind .viaDevice false false _) :=
    Layer.guards_isOfKind Layer.relates_equals relates_notIn enlists_notIgnored
  have hreleases : Guards (Layer.isOfKind Dispatch.viaDevice.word "==" "in    " releases)
      (.ofKind .viaDevice false true _) :=
    Layer.guards_isOfKind Layer.relates_equals relates_isIn enlists_releases
  exact (((((((Looped.of_headed hforInstance).append
    (looped_define hpassed (isBody_returning (isBody_next isWord_instance)))).append
    (looped_define hcalled (isBody_call isWord_instance))).append (.of_headed hforDevice)).append
    (looped_define hanswered (isBody_answer isWord_device (.of rfl) .nil))).append
    (looped_define hpassedOn (isBody_returning (isBody_next isWord_device)))).append
    (looped_define hignored (isBody_ignore isWord_device))).append
    (looped_define hreleases (isBody_call isWord_device))

/-! ### The stencil -/

/-- The commands with a definition of their own. -/
def ownCommands : List String :=
  Layer.tableCommands ++ Layer.reportCommands ++ (instanceCreations ++ instanceReports) ++
    ownDeviceCommands

theorem looped_specials : Looped specials (ownCommands.map .named) := by
  have hgap : IsBody ["\n"] := .cons (.of rfl) .nil
  have htables := Layer.looped_tables .nil .nil .nil .nil .nil
  have hextensions : Looped (Layer.defineNamed "vkEnumerateInstanceExtensionProperties"
      (returning Layer.tellExtensions)) _ :=
    looped_defineNamed (.of rfl) (isBody_returning isBody_tellExtensions)
  have hinstance : Looped (Layer.defineNamed "vkEnumerateInstanceLayerProperties"
      (Layer.instanceProperties layer ++ ["\n"] ++ Layer.declareResult Layer.tellProperties ++
        ["\n"] ++ Layer.returnResult)) _ :=
    looped_defineNamed (.of rfl) (((((Layer.isBody_instanceProperties isWord_layer).append
      hgap).append (isBody_declareResult isBody_tellProperties)).append hgap).append
        isBody_returnResult)
  have hdevice : Looped (Layer.defineNamed "vkEnumerateDeviceLayerProperties"
      (Layer.deviceProperties layer ++ returning Layer.tellProperties)) _ :=
    looped_defineNamed (.of rfl) ((Layer.isBody_deviceProperties isWord_layer).append
      (isBody_returning isBody_tellProperties))
  exact ((((htables.append hextensions).append hinstance).append hdevice).append
    looped_instanceCommands).append looped_deviceCommands

theorem looped_stencil : Looped stencil (Layer.loops ownCommands otherLoops) := by
  have hincludes : AllFit [] (Layer.loaderHeaders ++ ["\"vktrace_emptydriver.h\""]) :=
    Layer.allFit_loaderHeaders.append (.cons (.of rfl) .nil)
  have hhandle : Headed [] ["\n", "static uint64_t  dummy_handle = 0x0000FFFF;\n"] [] :=
    .lines (.cons (.of rfl) (.cons (.of rfl) .nil)) rfl rfl
  have hstart : Headed [] (Target.notice "2020" ++
      Layer.includes (Layer.loaderHeaders ++ ["\"vktrace_emptydriver.h\""]) ++
      ["\n", "static uint64_t  dummy_handle = 0x0000FFFF;\n"] ++ Layer.headings) [] :=
    (((Layer.headed_notice (.of rfl)).append (Layer.headed_includes hincludes)).append
      hhandle).append Layer.headed_headings
  exact (((Looped.of_headed hstart).append looped_specials).append looped_otherCommands).append
    Layer.looped_lookups

end LayerStencil.EmptyDriver
