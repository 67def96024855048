import LayerStencil.Target.Layer
import LayerStencil.Target.Notice

/-! # The layer that traces commands

The layer opens a section of the system trace before every command and closes it afterwards.
-/

namespace LayerStencil

namespace Systrace

/-- The line that opens a section. -/
def enter : List String := ["    ATrace_beginSection(\"\x7bfuncName\x7d\");\n"]

/-- The line that closes a section. -/
def leave : List String := ["    ATrace_endSection();\n"]

/-- The name of the layer. -/
def layer : String := "systrace"

/-- A body that returns a value and has a section around its evaluation. -/
def traced (value : List String) : List String :=
  enter ++ Layer.declareResult value ++ leave ++ Layer.returnResult

/-- The definitions of commands with a definition of their own. -/
def specials : List String :=
  Layer.tables [] enter leave [] [] ++
    Layer.defineNamed "vkEnumerateInstanceExtensionProperties" (traced Layer.tellExtensions) ++
    Layer.defineNamed "vkEnumerateInstanceLayerProperties"
      (Layer.instanceProperties layer ++ traced Layer.tellProperties) ++
    Layer.defineNamed "vkEnumerateDeviceLayerProperties"
      (Layer.deviceProperties layer ++ traced Layer.tellProperties) ++
    Layer.defineNamed "vkQueuePresentKHR" (traced (Layer.next "device"))

/-- The stencil of the layer. -/
def stencil : List String :=
  Target.notice "2020" ++
    Layer.includes
      (["<android/trace.h>"] ++ Layer.loaderHeaders ++ ["\"vktrace_systrace.h\""]) ++
    ["\n"] ++ Layer.headings ++ specials ++ Layer.forward enter leave ++ Layer.lookups

end Systrace

/-- The layer that traces commands. -/
def Target.systrace : Target where
  name := "vktrace_systrace.cpp"
  filename := "vktrace_systrace.cpp"
  stencil := textOf Systrace.stencil
  isHeader := false

end LayerStencil
