import LayerStencil.Target.ApiCost
import LayerStencil.Target.EmptyDriver
import LayerStencil.Target.StructMembers
import LayerStencil.Target.Systrace

/-! # The shipped targets

Four targets come with the library: three layers and a header. A target is found by its name.
-/

namespace LayerStencil.Target

/-- The shipped targets, in the order in which they are listed. -/
def shipped : List Target := [apiCost, systrace, emptyDriver, structMembers]

/-- The names of the shipped targets. -/
def names : List String := shipped.map Target.name

/-- The shipped target of a given name. -/
def find? (name : String) : Option Target := shipped.find? (·.name = name)

end LayerStencil.Target
