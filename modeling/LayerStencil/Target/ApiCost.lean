import LayerStencil.Target.Layer
import LayerStencil.Target.Notice

/-! # The layer that measures commands

The layer measures how long every command takes, and writes the times to a file.
-/

namespace LayerStencil

namespace ApiCost

/-- The line that starts the clock. -/
def start : List String :=
  ["    uint64_t start = ", "ApiCostInstance::current().getCurrentTime();\n"]

/-- The line that stops the clock. -/
def stop : List String :=
  ["    uint64_t elapse = ", "ApiCostInstance::current().getCurrentTime() - start;\n"]

/-- The lines that write the time. -/
def report : List String := [
  "\n",
  "    // Output the API cost\n",
  "    ApiCostInstance::current().writeFile(", "\"\x7bfuncName\x7d\",elapse);\n"]

/-- The name of the layer. -/
def layer : String := "api_cost"

/-- The definitions of commands with a definition of their own. -/
def specials : List String :=
  Layer.tables ["\n"] start stop report ["\n"] ++
    Layer.defineNamed "vkEnumerateInstanceExtensionProperties"
      (["    return "] ++ Layer.tellExtensions) ++
    Layer.defineNamed "vkEnumerateInstanceLayerProperties"
      (Layer.instanceProperties layer ++ ["\n    return "] ++ Layer.tellProperties) ++
    Layer.defineNamed "vkEnumerateDeviceLayerProperties"
      (Layer.deviceProperties layer ++ ["\n    return "] ++ Layer.tellProperties) ++
    Layer.defineNamed "vkQueuePresentKHR"
      (start ++ Layer.declareResult (Layer.next "device") ++ stop ++ report ++
        ["    ApiCostInstance::current().nextFrame();\n"] ++ Layer.returnResult)

/-- The stencil of the layer. -/
def stencil : List String :=
  Target.notice "2019" ++ ["\n"] ++ Layer.includes ["\"api_cost.h\""] ++ ["\n"] ++ Layer.headings ++
    specials ++ Layer.forward start (stop ++ report) ++ Layer.lookups

end ApiCost

/-- The layer that measures commands. -/
def Target.apiCost : Target where
  name := "api_cost.cpp"
  filename := "api_cost.cpp"
  stencil := textOf ApiCost.stencil
  isHeader := false

end LayerStencil
