import LayerStencil.Model.Item

/-! # The model

The selected part of an API: its entities by kind, in declaration order, with the extensions that
gate them by name, the aliases and the constants.
-/

namespace LayerStencil

/-- The selected part of an API. -/
structure Model where
  commands : List Command
  structs : List Struct
  unions : List Union
  enums : List Enum
  bitmasks : List Bitmask
  flags : List Flag
  handles : List Handle
  baseTypes : List BaseType
  functionPointers : List FunctionPointer
  externalTypes : List ExternalType
  extensions : List Extension
  systemTypes : List SystemType
  /-- The position among the extensions of the one that gates a command. -/
  commandExtensions : Dict Nat
  /-- The position among the extensions of the one that gates a type. -/
  typeExtensions : Dict Nat
  /-- The name that an alias stands for. -/
  aliases : Dict String
  /-- The values of the API constants. -/
  constants : Dict String
deriving DecidableEq, Repr, Inhabited

namespace Model

/-- The model without entities. -/
def empty : Model :=
  ⟨[], [], [], [], [], [], [], [], [], [], [], [], .empty, .empty, .empty, .empty⟩

/-- The items of a kind that the model lists itself; scoped kinds have none. -/
def items (m : Model) : Kind → List Item
  | .command => m.commands.map .command
  | .struct => m.structs.map .struct
  | .union => m.unions.map .union
  | .enum => m.enums.map .enum
  | .bitmask => m.bitmasks.map .bitmask
  | .flag => m.flags.map .flag
  | .handle => m.handles.map .handle
  | .baseType => m.baseTypes.map .baseType
  | .functionPointer => m.functionPointers.map .functionPointer
  | .externalType => m.externalTypes.map .externalType
  | .extension => m.extensions.map .extension
  | .systemType => m.systemTypes.map .systemType
  | .parameter | .member | .choice | .option => []

/-- The extension that gates what has a given name: the one of the command of that name, else the
one of the type. -/
def extensionOfName? (m : Model) (name : String) : Option Extension :=
  match (m.commandExtensions.get? name).or (m.typeExtensions.get? name) with
  | some index => m.extensions[index]?
  | none => none

/-- The extension that gates an item. -/
def extensionFor? (m : Model) : Item → Option Extension
  | .sentinel => none
  | .systemType t => m.extensions.find? fun e => e.name = t.extension
  | item => m.extensionOfName? item.name

/-- The macro that guards an item. -/
def guardFor? (m : Model) (item : Item) : Option String :=
  (m.extensionFor? item).bind fun e => e.guard

/-- The value of a constant. -/
def constant? (m : Model) (name : String) : Option String := m.constants.get? name

/-- The command of a given name. -/
def command? (m : Model) (name : String) : Option Command :=
  m.commands.find? fun c => c.name = name

/-- The struct of a given name. -/
def struct? (m : Model) (name : String) : Option Struct :=
  m.structs.find? fun s => s.name = name

/-- What an alias stands for; any other name stands for itself. -/
def canonicalName (m : Model) (name : String) : String := (m.aliases.get? name).getD name

/-- How many items of each kind the model lists itself. -/
def summary (m : Model) : List (Kind × Nat) :=
  Kind.topLevel.map fun kind => (kind, (m.items kind).length)

end Model

end LayerStencil
