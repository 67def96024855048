import LayerStencil.Collection.Dict
import LayerStencil.Registry.Value

/-! # Index of a registry

The index finds the types, commands and blocks of a registry by name. Of several types of one name
that apply to the API the first counts; of several commands or blocks the last.
-/

namespace LayerStencil

/-- The parts of a registry by name. -/
structure RegistryIndex where
  types : Dict TypeEntry
  /-- The names of the types that are headers. -/
  includes : List String
  definitions : Dict CommandDefinition
  /-- The target of every command alias. -/
  commandAliases : Dict String
  blocks : Dict ValueBlock
deriving Repr

namespace Registry

/-- The types that apply to the API and have a name, with their names. -/
def namedTypes (c : Convention) (r : Registry) : List (String × TypeEntry) :=
  (r.types.filter fun t => c.applies t.apis).filterMap fun t => t.name?.map fun name => (name, t)

/-- The definitions of commands, with their names. -/
def namedDefinitions (r : Registry) : List (String × CommandDefinition) :=
  r.commands.filterMap fun
    | .definition d => some (d.proto.name, d)
    | .aliasOf _ _ => none

/-- The aliases of commands, with their targets. -/
def namedAliases (r : Registry) : List (String × String) :=
  r.commands.filterMap fun
    | .definition _ => none
    | .aliasOf name target => some (name, target)

/-- The blocks that have a name, with their names. -/
def namedBlocks (r : Registry) : List (String × ValueBlock) :=
  r.blocks.filterMap fun b => b.name.map fun name => (name, b)

/-- The index of a registry. -/
def index (c : Convention) (r : Registry) : RegistryIndex where
  types := .ofFirsts (r.namedTypes c)
  includes := (r.namedTypes c).filterMap fun e =>
    if e.2.category = some "include" then some e.1 else none
  definitions := .ofList r.namedDefinitions
  commandAliases := .ofList r.namedAliases
  blocks := .ofList r.namedBlocks

end Registry

namespace RegistryIndex

/-- Does the block of a given name hold the values of a bitmask? -/
def isBitmask (x : RegistryIndex) (name : String) : Bool :=
  match x.blocks.get? name with
  | some b => b.isBitmask
  | none => false

/-- The constants of the API, with their values; no value of the block is left out. -/
def constants (c : Convention) (x : RegistryIndex) : Dict String :=
  match x.blocks.get? c.constantsBlock with
  | none => .empty
  | some b => .ofList (b.values.filterMap fun v => (v.written? none).map fun w => (v.name, w.value))

end RegistryIndex

end LayerStencil
