import LayerStencil.Target.Layer
import LayerStencil.Target.Notice

/-! # The layer that stands for a driver

Compiled one way the layer passes every call on; compiled the other way it answers most calls
itself, and makes handles up.
-/

namespace LayerStencil

namespace EmptyDriver

/-- The name of the layer. -/
def layer : String := "emptydriver"

/-! ### Bodies -/

/-- A body that declares a result and returns it. -/
def returning (value : List String) : List String :=
  Layer.declareResult value ++ Layer.returnResult

/-- Fragments that count only where the layer is no driver. -/
def unlessDriver (body otherwise : List String) : List String :=
  ["#ifndef USE_EMPTYDRIVER\n"] ++ body ++ otherwise ++ ["#endif\n"]

/-- A body that calls the next layer for its result, or else has a given result and does something
besides. -/
def answer (table result : String) (otherwise : List String) : List String :=
  Layer.declareResult [result, ";\n"] ++
    unlessDriver (["    result = "] ++ Layer.next table) otherwise ++ Layer.returnResult

/-- A body that calls the next layer or does nothing. -/
def ignore (table : String) : List String := unlessDriver (Layer.call table) []

/-- The lines that make a handle up. -/
def newHandle : List String := ["    dummy_handle++;\n"]

/-- The line that stores the new handle. -/
def store (pointer type : String) : List String :=
  ["    *", pointer, " = (", type, ")dummy_handle;\n"]

/-- The definition of a command that creates an object, which is stored behind a pointer. -/
def creates (table command pointer type : String) : List String :=
  Layer.defineNamed command
    (answer table "VK_SUCCESS" (["#else\n"] ++ newHandle ++ store pointer type))

/-! ### Instance commands -/

/-- The definition of an instance command without a result. -/
def ignored (command : String) : List String :=
  Layer.defineNamed command (ignore "instance" ++ ["\n"])

/-- The definitions of the instance commands that report what goes on. -/
def instanceCommands : List String :=
  ["// instance function begin\n"] ++
    creates "instance" "vkCreateDebugReportCallbackEXT" "pCallback" "VkDebugReportCallbackEXT" ++
    creates "instance" "vkCreateDebugUtilsMessengerEXT" "pMessenger" "VkDebugUtilsMessengerEXT" ++
    ["vkSubmitDebugUtilsMessageEXT", "vkDestroyDebugReportCallbackEXT",
      "vkDestroyDebugUtilsMessengerEXT", "vkDebugReportMessageEXT"].flatMap ignored ++
    ["// instance function end\n", "\n", "\n"]

/-! ### Device commands -/

/-- The line that stores the index of an image. -/
def storeIndex : List String := ["    *pImageIndex = 1;\n"]

/-- The definition of a device command with a given result and more to do. -/
def answers (command result : String) (otherwise : List String) : List String :=
  Layer.defineNamed command (answer "device" result otherwise)

/-- A device command that creates an object, the pointer behind which the object is stored, and its
type. -/
abbrev Creation := String × String × String

/-- Commands that create objects, up to the one that creates modules of shaders. -/
def creations : List Creation := [
  ("vkCreateRenderPass", "pRenderPass", "VkRenderPass"),
  ("vkCreateRenderPass2", "pRenderPass", "VkRenderPass"),
  ("vkCreateRenderPass2KHR", "pRenderPass", "VkRenderPass"),
  ("vkCreateComputePipelines", "pPipelines", "VkPipeline"),
  ("vkCreatePipelineCache", "pPipelineCache", "VkPipelineCache"),
  ("vkCreatePipelineLayout", "pPipelineLayout", "VkPipelineLayout"),
  ("vkCreateGraphicsPipelines", "pPipelines", "VkPipeline"),
  ("vkCreateRayTracingPipelinesNV", "pPipelines", "VkPipeline"),
  ("vkCreateShaderModule", "pShaderModule", "VkShaderModule")]

/-- Commands that create objects, from templates of descriptors on. -/
def templateCreations : List Creation := [
  ("vkCreateDescriptorUpdateTemplate", "pDescriptorUpdateTemplate", "VkDescriptorUpdateTemplate"),
  ("vkCreateSamplerYcbcrConversion", "pYcbcrConversion", "VkSamplerYcbcrConversion")]

/-- Commands that create objects and have two empty lines after their definition. -/
def spacedCreations : List Creation := [
  ("vkCreateFence", "pFence", "VkFence"),
  ("vkCreateSampler", "pSampler", "VkSampler"),
  ("vkCreateIndirectCommandsLayoutNVX", "pIndirectCommandsLayout", "VkIndirectCommandsLayoutNVX"),
  ("vkCreateObjectTableNVX", "pObjectTable", "VkObjectTableNVX"),
  ("vkCreateSamplerYcbcrConversionKHR", "pYcbcrConversion", "VkSamplerYcbcrConversion"),
  ("vkCreateValidationCacheEXT", "pValidationCache", "VkValidationCacheEXT"),
  ("vkCreateDescriptorUpdateTemplateKHR", "pDescriptorUpdateTemplate",
    "VkDescriptorUpdateTemplate"),
  ("vkCreateAccelerationStructureNV", "pAccelerationStructure", "VkAccelerationStructureNV"),
  ("vkCreateSemaphore", "pSemaphore", "VkSemaphore"),
  ("vkCreateEvent", "pEvent", "VkEvent")]

/-- The definition of a command that creates an object. -/
def Creation.define (c : Creation) : List String := creates "device" c.1 c.2.1 c.2.2

/-- The definitions of device commands that make handles up. -/
def deviceCommands : List String :=
  ["// device function begin\n", "\n"] ++
    answers "vkQueuePresentKHR" "VK_SUCCESS" [] ++
    answers "vkCreateFramebuffer" "VK_SUCCESS"
      (["else\n"] ++ newHandle ++ store "pFramebuffer" "VkFramebuffer") ++
    creations.flatMap Creation.define ++
    answers "vkAcquireNextImageKHR" "VK_SUCCESS" (["#else\n"] ++ storeIndex) ++
    answers "vkAcquireNextImage2KHR" "VK_SUCCESS" (["#else\n"] ++ newHandle ++ storeIndex) ++
    templateCreations.flatMap Creation.define ++
    spacedCreations.flatMap (fun c => c.define ++ ["\n"]) ++
    Creation.define ("vkCreateQueryPool", "pQueryPool", "VkQueryPool") ++
    answers "vkGetEventStatus" "VK_EVENT_SET" [] ++
    ["// device function end\n", "\n"]

/-! ### All other commands -/

/-- The space between two groups of names in a list. -/
def groupGap : List String := [",     "]

/-- Instance commands with a result that have a definition of their own. -/
def instanceCreations : List String :=
  ["vkCreateDebugReportCallbackEXT", "vkCreateDebugUtilsMessengerEXT"]

/-- Instance commands without a result that have a definition of their own. -/
def instanceReports : List String :=
  ["vkSubmitDebugUtilsMessageEXT", "vkDestroyDebugReportCallbackEXT",
    "vkDestroyDebugUtilsMessengerEXT", "vkDebugReportMessageEXT"]

/-- Commands that create objects that hold memory. -/
def memoryCreations : List String := [
  "vkCreateSwapchainKHR", "vkCreateSharedSwapchainsKHR", "vkAllocateMemory", "vkCreateImage",
  "vkCreateImageView", "vkCreateBuffer", "vkCreateBufferView"]

/-- Commands that bind memory, allocate, or share memory. -/
def memoryUses : List String := [
  "vkBindBufferMemory2KHR", "vkBindImageMemory2KHR", "vkBindAccelerationStructureMemoryNV",
  "vkBindBufferMemory2", "vkBindImageMemory2", "vkBindBufferMemory", "vkBindImageMemory",
  "vkMapMemory", "vkGetSwapchainImagesKHR", "vkCreateDescriptorPool", "vkAllocateDescriptorSets",
  "vkFreeDescriptorSets", "vkCreateDescriptorSetLayout", "vkCreateCommandPool",
  "vkAllocateCommandBuffers", "vkGetDeviceMemoryOpaqueCaptureAddressKHR"]

/-- Commands that tell the handle or the properties of memory. -/
def memoryHandles : List String := [
  "vkGetDeviceMemoryOpaqueCaptureAddress", "vkGetMemoryWin32HandleNV",
  "vkGetMemoryHostPointerPropertiesEXT", "vkGetMemoryWin32HandleKHR",
  "vkGetMemoryWin32HandlePropertiesKHR", "vkGetMemoryAndroidHardwareBufferANDROID",
  "vkGetMemoryFdKHR", "vkGetMemoryFdPropertiesKHR"]

/-- Commands that tell the address of a buffer. -/
def bufferAddresses : List String := [
  "vkGetBufferDeviceAddressKHR", "vkGetBufferOpaqueCaptureAddressKHR", "vkGetBufferDeviceAddress",
  "vkGetBufferOpaqueCaptureAddress", "vkGetBufferDeviceAddressEXT"]

/-- The command that tells the properties of a buffer of the platform. -/
def bufferProperties : List String := ["vkGetAndroidHardwareBufferPropertiesANDROID"]

/-- Commands without a result that free memory, and that ask for queues and requirements. -/
def memoryReleases : List String := [
  "vkFreeMemory", "vkDestroyImage", "vkDestroyImageView", "vkDestroyBuffer", "vkDestroyBufferView",
  "vkUnmapMemory", "vkDestroyDescriptorPool", "vkDestroyDescriptorSetLayout", "vkGetDeviceQueue",
  "vkGetDeviceQueue2", "vkFreeCommandBuffers", "vkDestroyCommandPool",
  "vkGetBufferMemoryRequirements", "vkGetBufferMemoryRequirements2"]

/-- Commands without a result that ask for requirements. -/
def requirements : List String := [
  "vkGetDeviceGroupPeerMemoryFeaturesKHR", "vkGetDeviceGroupPeerMemoryFeatures",
  "vkGetImageSparseMemoryRequirements2KHR", "vkGetImageMemoryRequirements2",
  "vkGetImageSparseMemoryRequirements2", "vkGetImageMemoryRequirements2KHR",
  "vkGetBufferMemoryRequirements2KHR", "vkGetDeviceMemoryCommitment",
  "vkGetAccelerationStructureMemoryRequirementsNV"]

/-- Commands without a result that ask for the requirements of images. -/
def imageRequirements : List String :=
  ["vkGetImageMemoryRequirements", "vkGetImageSparseMemoryRequirements"]

/-- The names of the device commands with a result that are passed on either way. -/
def passedOn : List String :=
  Layer.quoted memoryCreations ++ [",      "] ++ Layer.quoted memoryUses ++ groupGap ++
    Layer.quoted memoryHandles ++ [",  "] ++ Layer.quoted bufferAddresses ++ groupGap ++
    Layer.quoted bufferProperties

/-- The names of the device commands without a result that are passed on either way. -/
def releases : List String :=
  Layer.quoted memoryReleases ++ groupGap ++ Layer.quoted requirements ++ groupGap ++
    Layer.quoted imageRequirements

/-- The names of the device commands with a result that are passed on or have a definition of their
own. -/
def notAnswered : List String :=
  Layer.quoted (Layer.specialDeviceCommands ++ ["vkQueuePresentKHR", "vkGetDeviceProcAddr"]) ++
    groupGap ++
    Layer.quoted (["vkCreateFramebuffer"] ++ (creations.take 8).map Prod.fst ++ memoryCreations ++
      ["vkCreateShaderModule", "vkAcquireNextImageKHR", "vkAcquireNextImage2KHR"]) ++
    groupGap ++
    Layer.quoted ((templateCreations ++ spacedCreations).map Prod.fst ++
      ["vkCreateQueryPool", "vkGetEventStatus"]) ++
    groupGap ++ Layer.quoted memoryUses ++ groupGap ++
    Layer.quoted (memoryHandles ++ bufferAddresses) ++ groupGap ++ Layer.quoted bufferProperties

/-- The names of the device commands without a result that are passed on or special. -/
def notIgnored : List String :=
  Layer.quoted (Layer.specialDeviceCommands ++ ["vkGetDeviceProcAddr"]) ++ groupGap ++ releases

/-- The definitions of the commands without a definition of their own. -/
def otherCommands : List String :=
  ["// Autogen instance functions\n", "\n"] ++
    Layer.define
      (Layer.isOfKind "instance" "!=" "not in    "
        (Layer.quoted (Layer.specialInstanceCommands ++ instanceCreations)))
      (returning (Layer.next "instance")) ++
    Layer.define
      (Layer.isOfKind "instance" "==" "not in    "
        (Layer.quoted (Layer.specialInstanceCommands ++ instanceReports)))
      (Layer.call "instance") ++
    ["// Autogen device functions\n", "\n"] ++
    Layer.define (Layer.isOfKind "device" "!=" "not in    " notAnswered)
      (answer "device" "VK_SUCCESS" []) ++
    Layer.define (Layer.isOfKind "device" "!=" "in    " passedOn)
      (returning (Layer.next "device")) ++
    Layer.define (Layer.isOfKind "device" "==" "not in    " notIgnored) (ignore "device") ++
    Layer.define (Layer.isOfKind "device" "==" "in    " releases) (Layer.call "device")

/-! ### The stencil -/

/-- The definitions of commands with a definition of their own. -/
def specials : List String :=
  Layer.tables [] [] [] [] [] ++
    Layer.defineNamed "vkEnumerateInstanceExtensionProperties" (returning Layer.tellExtensions) ++
    Layer.defineNamed "vkEnumerateInstanceLayerProperties"
      (Layer.instanceProperties layer ++ ["\n"] ++ Layer.declareResult Layer.tellProperties ++
        ["\n"] ++ Layer.returnResult) ++
    Layer.defineNamed "vkEnumerateDeviceLayerProperties"
      (Layer.deviceProperties layer ++ returning Layer.tellProperties) ++
    instanceCommands ++ deviceCommands

/-- The stencil of the layer. -/
def stencil : List String :=
  Target.notice "2020" ++
    Layer.includes (Layer.loaderHeaders ++ ["\"vktrace_emptydriver.h\""]) ++
    ["\n", "static uint64_t  dummy_handle = 0x0000FFFF;\n"] ++ Layer.headings ++ specials ++
    otherCommands ++ Layer.lookups

end EmptyDriver

/-- The layer that stands for a driver. -/
def Target.emptyDriver : Target where
  name := "vktrace_emptydriver.cpp"
  filename := "vktrace_emptydriver.cpp"
  stencil := textOf EmptyDriver.stencil
  isHeader := false

end LayerStencil
