import LayerStencil.Target.Basic

/-! # Stencils of layers

A layer stands between an application and a driver: it defines every command, does something of its
own, and passes the call on through a dispatch table. The stencils of the shipped layers differ in
what they do around a call, and share what is here: the loops that define commands, the definitions
that create and destroy the dispatch tables, and the two commands that look up others by name.

Fragments of a stencil are kept short. A brace of the generated text is doubled, and a name between
single braces is a field.
-/

namespace LayerStencil.Layer

/-! ### Conditions -/

/-- The names of a list, each in quotes, with commas between them. -/
def quoted (names : List String) : List String := Target.quotedNames ", " names

/-- The condition that holds of the command of a given name. -/
def isNamed (name : String) : List String := ["'\x7bfuncName\x7d' == '", name, "'"]

/-- A condition on the dispatch of a command, on its result and on its name: `comparison` relates
the result to the empty one, and `membership` the name to the names of a list. -/
def isOfKind (dispatch comparison membership : String) (names : List String) : List String :=
  ["'\x7bfuncDispatchType\x7d' == '", dispatch, "' and '\x7bfuncReturn\x7d' ", comparison,
    " 'void' and '\x7bfuncName\x7d' ", membership, " ["] ++ names ++ ["]"]

/-! ### Definitions of commands -/

/-- The first line of the definition of a command. -/
def signature : List String := [
  "VK_LAYER_EXPORT VKAPI_ATTR \x7bfuncReturn\x7d ",
  "VKAPI_CALL \x7bfuncName\x7d(\x7bfuncTypedParams\x7d)\n"]

/-- A definition with a given body for each command that a condition keeps. -/
def define (condition body : List String) : List String :=
  ["@foreach function where("] ++ condition ++ [")\n"] ++ signature ++ ["\x7b\x7b\n"] ++ body ++
    ["\x7d\x7d\n", "@end function\n\n"]

/-- The definition of the command of a given name. -/
def defineNamed (name : String) (body : List String) : List String := define (isNamed name) body

/-- The call of the next layer through a dispatch table. -/
def next (table : String) : List String :=
  [table, "_dispatch_table(\x7bfuncDispatchParam\x7d)->",
    "\x7bfuncShortName\x7d(\x7bfuncNamedParams\x7d);\n"]

/-- The line that calls the next layer. -/
def call (table : String) : List String := ["    "] ++ next table

/-- The line that declares the result of a command. -/
def declareResult (value : List String) : List String :=
  ["    \x7bfuncReturn\x7d result = "] ++ value

/-- The line that returns the result. -/
def returnResult : List String := ["    return result;\n"]

/-! ### Dispatch tables -/

/-- The definition of the command that creates an instance, with fragments right before and right
after the call. -/
def createInstance (before after : List String) : List String :=
  defineNamed "vkCreateInstance" ([
    "    // Get the function pointer\n",
    "    VkLayerInstanceCreateInfo* chain_info = ",
    "get_chain_info(pCreateInfo, VK_LAYER_LINK_INFO);\n",
    "    assert(chain_info->u.pLayerInfo != 0);\n",
    "    PFN_vkGetInstanceProcAddr fpGetInstanceProcAddr = ",
    "chain_info->u.pLayerInfo->pfnNextGetInstanceProcAddr;\n",
    "    assert(fpGetInstanceProcAddr != 0);\n",
    "    PFN_vkCreateInstance fpCreateInstance = ",
    "(PFN_vkCreateInstance) fpGetInstanceProcAddr(NULL, \"vkCreateInstance\");\n",
    "    if(fpCreateInstance == NULL) \x7b\x7b\n",
    "        return VK_ERROR_INITIALIZATION_FAILED;\n",
    "    \x7d\x7d\n",
    "\n",
    "    // Call the function and create the dispatch table\n",
    "    chain_info->u.pLayerInfo = ",
    "chain_info->u.pLayerInfo->pNext;\n"] ++
    before ++ declareResult ["fpCreateInstance(\x7bfuncNamedParams\x7d);\n"] ++ after ++ [
    "    if(result == VK_SUCCESS) \x7b\x7b\n",
    "        initInstanceTable(*pInstance, fpGetInstanceProcAddr);\n",
    "    \x7d\x7d\n"] ++ returnResult)

/-- The definition of the command that creates a device, with fragments right before and right after
the call. -/
def createDevice (before after : List String) : List String :=
  defineNamed "vkCreateDevice" ([
    "    // Get the function pointer\n",
    "    VkLayerDeviceCreateInfo* chain_info = ",
    "get_chain_info(pCreateInfo, VK_LAYER_LINK_INFO);\n",
    "    assert(chain_info->u.pLayerInfo != 0);\n",
    "    PFN_vkGetInstanceProcAddr fpGetInstanceProcAddr = ",
    "chain_info->u.pLayerInfo->pfnNextGetInstanceProcAddr;\n",
    "    PFN_vkGetDeviceProcAddr fpGetDeviceProcAddr = ",
    "chain_info->u.pLayerInfo->pfnNextGetDeviceProcAddr;\n",
    "    PFN_vkCreateDevice fpCreateDevice = ",
    "(PFN_vkCreateDevice) fpGetInstanceProcAddr(NULL, \"vkCreateDevice\");\n",
    "    if(fpCreateDevice == nullptr) \x7b\x7b\n",
    "        return VK_ERROR_INITIALIZATION_FAILED;\n",
    "    \x7d\x7d\n",
    "\n",
    "    // Call the function and create the dispatch table\n",
    "    chain_info->u.pLayerInfo = ",
    "chain_info->u.pLayerInfo->pNext;\n"] ++
    before ++ declareResult ["fpCreateDevice(\x7bfuncNamedParams\x7d);\n"] ++ after ++ [
    "    if(result == VK_SUCCESS) \x7b\x7b\n",
    "        initDeviceTable(*pDevice, fpGetDeviceProcAddr);\n",
    "    \x7d\x7d\n",
    "\n"] ++ returnResult)

/-- The definition of a command that destroys what a dispatch table belongs to, with fragments right
before and right after the call and at the end. -/
def destroy (table object : String) (before after atEnd : List String) : List String :=
  define (["'\x7bfuncName\x7d' == 'vkDestroy", object, "'"]) ([
    "    // Destroy the dispatch table\n",
    "    dispatch_key key = get_dispatch_key(\x7bfuncDispatchParam\x7d);\n"] ++
    before ++
    ["    ", table, "_dispatch_table(\x7bfuncDispatchParam\x7d)->Destroy", object,
      "(\x7bfuncNamedParams\x7d);\n"] ++
    after ++ ["    destroy_", table, "_dispatch_table(key);\n"] ++ atEnd)

/-- The definitions of the four commands that create and destroy the dispatch tables; `report` comes
last where a table is destroyed, and after the call where one is created. -/
def tables (beforeInstance before after report gap : List String) : List String :=
  createInstance (beforeInstance ++ before) (after ++ report ++ gap) ++
    destroy "instance" "Instance" before after report ++
    createDevice before (after ++ report ++ gap) ++ destroy "device" "Device" before after report

/-! ### Properties of layers -/

/-- The table of the properties of the layer; the notes follow its version numbers. -/
def properties (layer specNote implementationNote : String) : List String := [
  "    static const VkLayerProperties layerProperties[] = \x7b\x7b\n",
  "        \x7b\x7b\n",
  "            \"VK_LAYER_ARM_", layer, "\",\n",
  "            VK_MAKE_VERSION(1, 2, VK_HEADER_VERSION),", specNote, "\n",
  "            VK_MAKE_VERSION(0, 2, 0),", implementationNote, "\n",
  "            \"layer: ", layer, "\",\n",
  "        \x7d\x7d\n",
  "    \x7d\x7d;\n"]

/-- The properties of an instance, with notes. -/
def instanceProperties (layer : String) : List String :=
  properties layer " // specVersion" " // implementationVersion"

/-- The properties of a device, without notes. -/
def deviceProperties (layer : String) : List String := properties layer "" ""

/-- The value that tells the properties of the layer. -/
def tellProperties : List String :=
  ["util_GetLayerProperties(ARRAY_SIZE(layerProperties), ",
    "layerProperties, pPropertyCount, pProperties);\n"]

/-- The value that tells the extensions of the layer. -/
def tellExtensions : List String :=
  ["util_GetExtensionProperties(0, NULL, ", "pPropertyCount, pProperties);\n"]

/-! ### Commands without a definition of their own -/

/-- The instance commands that no layer defines for all alike. -/
def specialInstanceCommands : List String := [
  "vkCreateInstance", "vkDestroyInstance", "vkCreateDevice", "vkGetInstanceProcAddr",
  "vkEnumerateDeviceExtensionProperties", "vkEnumerateDeviceLayerProperties"]

/-- The device commands that no layer defines for all alike. -/
def specialDeviceCommands : List String := [
  "vkDestroyDevice", "vkEnumerateInstanceExtensionProperties",
  "vkEnumerateInstanceLayerProperties"]

/-- The definitions of all other commands, which call the next layer between fragments before and
after the call. -/
def forward (before after : List String) : List String :=
  let result (table : String) := before ++ declareResult (next table) ++ after ++ returnResult
  let nothing (table : String) := before ++ call table ++ after
  ["// Autogen instance functions\n\n"] ++
    define (isOfKind "instance" "!=" "not in" (quoted specialInstanceCommands))
      (result "instance") ++
    define (isOfKind "instance" "==" "not in" (quoted specialInstanceCommands))
      (nothing "instance") ++
    ["// Autogen device functions\n\n"] ++
    define (isOfKind "device" "!=" "not in"
        (quoted (specialDeviceCommands ++ ["vkQueuePresentKHR", "vkGetDeviceProcAddr"])))
      (result "device") ++
    define (isOfKind "device" "==" "not in"
        (quoted (specialDeviceCommands ++ ["vkGetDeviceProcAddr"])))
      (nothing "device")

/-! ### Looking up commands by name -/

/-- The definition of a command that looks up others by name: first those that a condition keeps,
then in the next layer. -/
def lookup (command table parameter : String) (condition : List String) : List String := [
  "VK_LAYER_EXPORT VKAPI_ATTR ", "PFN_vkVoidFunction VKAPI_CALL vk", command, "(", parameter, " ",
  table, ", const char* pName)\n",
  "\x7b\x7b\n",
  "    @foreach function where("] ++ condition ++ [")\n",
  "    if(strcmp(pName, \"\x7bfuncName\x7d\") == 0)\n",
  "        return reinterpret_cast<PFN_vkVoidFunction>",
  "(\x7bfuncName\x7d);\n",
  "    @end function\n",
  "\n",
  "    if(", table, "_dispatch_table(", table, ")->", command, " == NULL)\n",
  "        return NULL;\n",
  "    return ", table, "_dispatch_table(", table, ")->", command, "(", table, ", pName);\n",
  "\x7d\x7d\n"]

/-- The definitions of the two commands that look up others by name. -/
def lookups : List String :=
  lookup "GetInstanceProcAddr" "instance" "VkInstance"
      ["'\x7bfuncType\x7d' == 'instance'  and ",
        "'\x7bfuncName\x7d' not in [ 'vkEnumerateDeviceExtensionProperties' ]"] ++
    ["\n"] ++ lookup "GetDeviceProcAddr" "device" "VkDevice" ["'\x7bfuncType\x7d' == 'device'"]

/-! ### The start of a stencil -/

/-- The headings before the first definition. -/
def headings : List String := [
  "//============================= ", "API EntryPoints =============================//\n",
  "\n",
  "// Specifically implemented functions\n",
  "\n"]

/-- The lines that include files; each name comes with its brackets or quotes. -/
def includes (names : List String) : List String :=
  names.flatMap fun name => ["#include ", name, "\n"]

/-- The headers of the loader that layers use. -/
def loaderHeaders : List String := [
  "\"vk_loader_platform.h\"", "\"vulkan/vk_layer.h\"", "\"vk_layer_config.h\"",
  "\"vk_layer_table.h\"", "\"vk_layer_extension_utils.h\"", "\"vk_layer_utils.h\""]

end LayerStencil.Layer
