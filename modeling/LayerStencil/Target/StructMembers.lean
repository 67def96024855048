import LayerStencil.Target.Notice
import LayerStencil.Target.Basic

/-! # The names of features

For every structure that lists optional features, a function of the generated header tells the names
of its features by their positions.
-/

namespace LayerStencil

namespace StructMembers

/-- The structures that list features. -/
def structures : List String := [
  "VkPhysicalDeviceVulkan11Features", "VkPhysicalDeviceASTCDecodeFeaturesEXT",
  "VkPhysicalDeviceScalarBlockLayoutFeatures", "VkPhysicalDeviceMultiviewFeatures",
  "VkPhysicalDeviceVulkan12Features", "VkPhysicalDeviceVariablePointersFeatures",
  "VkPhysicalDeviceShaderAtomicFloatFeaturesEXT", "VkPhysicalDeviceShaderAtomicInt64Features",
  "VkPhysicalDeviceShaderImageAtomicInt64FeaturesEXT", "VkPhysicalDevice8BitStorageFeatures",
  "VkPhysicalDevice16BitStorageFeatures", "VkPhysicalDeviceShaderFloat16Int8Features",
  "VkPhysicalDeviceShaderClockFeaturesKHR", "VkPhysicalDeviceSamplerYcbcrConversionFeatures",
  "VkPhysicalDeviceProtectedMemoryFeatures", "VkPhysicalDeviceBlendOperationAdvancedFeaturesEXT",
  "VkPhysicalDeviceConditionalRenderingFeaturesEXT",
  "VkPhysicalDeviceShaderDrawParametersFeatures", "VkPhysicalDeviceDescriptorIndexingFeatures",
  "VkPhysicalDeviceVertexAttributeDivisorFeaturesEXT",
  "VkPhysicalDeviceTransformFeedbackFeaturesEXT", "VkPhysicalDeviceVulkanMemoryModelFeatures",
  "VkPhysicalDeviceInlineUniformBlockFeaturesEXT", "VkPhysicalDeviceInlineUniformBlockFeatures",
  "VkPhysicalDeviceFragmentDensityMapFeaturesEXT",
  "VkPhysicalDeviceFragmentDensityMap2FeaturesEXT",
  "VkPhysicalDeviceUniformBufferStandardLayoutFeatures",
  "VkPhysicalDeviceDepthClipEnableFeaturesEXT", "VkPhysicalDeviceBufferDeviceAddressFeatures",
  "VkPhysicalDeviceImagelessFramebufferFeatures", "VkPhysicalDeviceYcbcrImageArraysFeaturesEXT",
  "VkPhysicalDeviceShaderSubgroupExtendedTypesFeatures", "VkPhysicalDeviceHostQueryResetFeatures",
  "VkPhysicalDeviceTimelineSemaphoreFeatures", "VkPhysicalDeviceIndexTypeUint8FeaturesEXT",
  "VkPhysicalDeviceSeparateDepthStencilLayoutsFeatures",
  "VkPhysicalDevicePipelineExecutablePropertiesFeaturesKHR",
  "VkPhysicalDeviceShaderDemoteToHelperInvocationFeaturesEXT",
  "VkPhysicalDeviceShaderDemoteToHelperInvocationFeatures",
  "VkPhysicalDeviceTexelBufferAlignmentFeaturesEXT",
  "VkPhysicalDeviceTextureCompressionASTCHDRFeaturesEXT",
  "VkPhysicalDeviceTextureCompressionASTCHDRFeatures",
  "VkPhysicalDeviceLineRasterizationFeaturesEXT", "VkPhysicalDeviceSubgroupSizeControlFeaturesEXT",
  "VkPhysicalDeviceSubgroupSizeControlFeatures",
  "VkPhysicalDeviceAccelerationStructureFeaturesKHR",
  "VkPhysicalDeviceRayTracingPipelineFeaturesKHR", "VkPhysicalDeviceRayQueryFeaturesKHR",
  "VkPhysicalDeviceExtendedDynamicStateFeaturesEXT",
  "VkPhysicalDeviceDeviceMemoryReportFeaturesEXT",
  "VkPhysicalDevicePipelineCreationCacheControlFeaturesEXT",
  "VkPhysicalDevicePipelineCreationCacheControlFeatures",
  "VkPhysicalDeviceImageRobustnessFeaturesEXT", "VkPhysicalDeviceImageRobustnessFeatures",
  "VkPhysicalDeviceShaderTerminateInvocationFeaturesKHR",
  "VkPhysicalDeviceShaderTerminateInvocationFeatures",
  "VkPhysicalDeviceCustomBorderColorFeaturesEXT", "VkPhysicalDevicePortabilitySubsetFeaturesKHR",
  "VkPhysicalDevicePerformanceQueryFeaturesKHR", "VkPhysicalDevice4444FormatsFeaturesEXT",
  "VkPhysicalDeviceFragmentShadingRateFeaturesKHR", "VkPhysicalDeviceFeatures"]

/-- What stands between two names of the list. -/
def gap : String := ",                                      "

/-- The stencil of the header. -/
def stencil : List String :=
  Target.notice "2020" ++ [
  "\n",
  "@foreach struct where('\x7bsctName\x7d' in ["] ++ Target.quotedNames gap structures ++ ["])\n",
  "std::string getString\x7bsctName\x7d(int idx)\n",
  "\x7b\x7b\n",
  "    std::string features[] = \x7b\x7b\n",
  "    @foreach member\n",
  "    @if(\x7bmemPtrLevel\x7d == 0)\n",
  "        @if('\x7bmemName\x7d' != 'pNext' and '\x7bmemType\x7d' == 'VkBool32')\n",
  "        \"\x7bmemName\x7d\",\n",
  "        @end if\n",
  "    @end if\n",
  "    @end member\n",
  "    \x7d\x7d;\n",
  "\n",
  "    return features[idx];\n",
  "\x7d\x7d\n",
  "\n",
  "@end struct\n",
  "\n",
  "std::string getStringVkPhysicalDeviceFeatures2(int idx)\n",
  "\x7b\x7b\n",
  "    return getStringVkPhysicalDeviceFeatures(idx);\n",
  "\x7d\x7d\n",
  "\n"]

end StructMembers

/-- The header with the names of features. -/
def Target.structMembers : Target where
  name := "vk_struct_member.h"
  filename := "vk_struct_member.h"
  stencil := textOf StructMembers.stencil
  isHeader := true

end LayerStencil
