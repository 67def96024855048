import LayerStencil.Convention.Basic

/-! # Conventions of Vulkan

The conventions of the Vulkan API: its names, the commands that an instance provides, and the state
that pipelines and command buffers hand down to the structs they embed.
-/

namespace LayerStencil.Vulkan

/-- Holds if a pipeline leaves a piece of state dynamic. -/
def dynamicState (state : String) : String :=
  "object.pDynamicState && " ++
  "std::count(object.pDynamicState->pDynamicStates, " ++
  "object.pDynamicState->pDynamicStates + object.pDynamicState->dynamicStateCount, " ++
  state ++ ")"

/-- Holds if a descriptor has one of some types. -/
def descriptorIn (types : List String) : String :=
  Text.joined " || "
    (types.map fun type => "(object.descriptorType == VK_DESCRIPTOR_TYPE_" ++ type ++ ")")

/-- Holds if a resource is shared between queue families. -/
def isConcurrent (mode : String) : String := "object." ++ mode ++ " == VK_SHARING_MODE_CONCURRENT"

/-- The state that structs receive. -/
def inheritedStates : List InheritedState := [
  ⟨"VkPipelineViewportStateCreateInfo", "VkGraphicsPipelineCreateInfo", [
    ⟨"is_dynamic_viewport", "bool", dynamicState "VK_DYNAMIC_STATE_VIEWPORT"⟩,
    ⟨"is_dynamic_scissor", "bool", dynamicState "VK_DYNAMIC_STATE_SCISSOR"⟩]⟩,
  ⟨"VkCommandBufferBeginInfo", "vkBeginCommandBuffer", [
    ⟨"cmd_buffer", "VkCommandBuffer", "commandBuffer"⟩]⟩]

/-- The members that are valid only under a condition. -/
def validityChecks : List ValidityCheck := [
  ⟨"VkBufferCreateInfo", "pQueueFamilyIndices", isConcurrent "sharingMode"⟩,
  ⟨"VkCommandBufferBeginInfo", "pInheritanceInfo",
    "ApiDumpInstance::current().getCmdBufferLevel(cmd_buffer) == " ++
      "VK_COMMAND_BUFFER_LEVEL_SECONDARY"⟩,
  ⟨"VkDescriptorSetLayoutBinding", "pImmutableSamplers",
    descriptorIn ["SAMPLER", "COMBINED_IMAGE_SAMPLER"]⟩,
  ⟨"VkImageCreateInfo", "pQueueFamilyIndices", isConcurrent "sharingMode"⟩,
  ⟨"VkPipelineViewportStateCreateInfo", "pViewports", "!is_dynamic_viewport"⟩,
  ⟨"VkPipelineViewportStateCreateInfo", "pScissors", "!is_dynamic_scissor"⟩,
  ⟨"VkSwapchainCreateInfoKHR", "pQueueFamilyIndices", isConcurrent "imageSharingMode"⟩,
  ⟨"VkWriteDescriptorSet", "pImageInfo",
    descriptorIn ["SAMPLER", "COMBINED_IMAGE_SAMPLER", "SAMPLED_IMAGE", "STORAGE_IMAGE",
      "INPUT_ATTACHMENT"]⟩,
  ⟨"VkWriteDescriptorSet", "pBufferInfo",
    descriptorIn ["STORAGE_BUFFER", "UNIFORM_BUFFER", "UNIFORM_BUFFER_DYNAMIC",
      "STORAGE_BUFFER_DYNAMIC"]⟩,
  ⟨"VkWriteDescriptorSet", "pTexelBufferView",
    descriptorIn ["UNIFORM_TEXEL_BUFFER", "STORAGE_TEXEL_BUFFER"]⟩]

/-- The statements that keep track of command buffers. -/
def trackedStates : List (String × String) := [
  ("vkAllocateCommandBuffers",
    "if(result == VK_SUCCESS)\n" ++
    "ApiDumpInstance::current().addCmdBuffers(\n" ++
    "device,\n" ++
    "pAllocateInfo->commandPool,\n" ++
    "std::vector<VkCommandBuffer>(pCommandBuffers, " ++
    "pCommandBuffers + pAllocateInfo->commandBufferCount),\n" ++
    "pAllocateInfo->level\n" ++
    ");"),
  ("vkDestroyCommandPool",
    "ApiDumpInstance::current().eraseCmdBufferPool(device, commandPool);"),
  ("vkFreeCommandBuffers",
    "ApiDumpInstance::current().eraseCmdBuffers(device, commandPool, " ++
    "std::vector<VkCommandBuffer>(pCommandBuffers, pCommandBuffers + commandBufferCount));")]

/-- The conventions of Vulkan. -/
def convention : Convention where
  name := "vulkan"
  registryFile := "vk.xml"
  typeLead := ['V', 'k']
  constantsBlock := "API Constants"
  platformHeader := "vk_platform"
  objectTypeLead := "VK_OBJECT_TYPE_"
  tagMember := "sType"
  instanceCommands := ["vkCreateInstance"]
  instanceTypes := ["VkInstance", "VkPhysicalDevice"]
  excludedCommands := ["vkEnumerateInstanceVersion"]
  defineTypes := ["ANativeWindow", "AHardwareBuffer"]
  inheritedStates := inheritedStates
  validityChecks := validityChecks
  trackedStates := trackedStates

end LayerStencil.Vulkan
