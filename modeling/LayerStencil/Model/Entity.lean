import LayerStencil.Collection.OrderedSet
import LayerStencil.Model.Declaration

/-! # Entities of the model

The commands, types and extensions that make up the selected part of an API, and the parts they are
made of. Entities are plain data; what stencils see of them is in the module on items.
-/

namespace LayerStencil

/-! ### Commands -/

/-- Through which object a command is looked up. -/
inductive Dispatch where
  | viaInstance
  | viaDevice
deriving DecidableEq, Repr, Inhabited

/-- The word for a dispatch. -/
def Dispatch.word : Dispatch → String
  | .viaInstance => "instance"
  | .viaDevice => "device"

/-- A parameter of a command. -/
structure Parameter where
  declaration : Declaration
  /-- The position among the parameters. -/
  index : Nat
  /-- Expressions passed on to the struct that the parameter points to. -/
  inheritedConditions : String
deriving DecidableEq, Repr, Inhabited

/-- A command with its signature. -/
structure Command where
  name : String
  returnType : String
  parameters : List Parameter
  dispatch : Dispatch
  /-- The type of the extension that provides the command. -/
  extensionType : Option String
  /-- The command that this one is another name for. -/
  aliasOf : Option String
  /-- Statements that follow the call. -/
  trackedState : Option String
deriving DecidableEq, Repr, Inhabited

namespace Command

/-- The name without the lead-in of the API. -/
def shortName (c : Command) : String := Text.withoutLead ['v', 'k'] c.name

/-- The type of the providing extension, or else the dispatch. -/
def functionType (c : Command) : String :=
  match c.extensionType with
  | some type => if type = "" then c.dispatch.word else type
  | none => c.dispatch.word

/-- The parameters as a prototype declares them. -/
def typedParameters (c : Command) : String :=
  Text.joined ", " (c.parameters.map fun p => p.declaration.fullText)

/-- The names of the parameters, as a call passes them. -/
def namedParameters (c : Command) : String :=
  Text.joined ", " (c.parameters.map fun p => p.declaration.name)

/-- The name of the first parameter. -/
def dispatchParameter (c : Command) : String :=
  match c.parameters with
  | [] => ""
  | p :: _ => p.declaration.name

end Command

/-! ### Structs and unions -/

/-- A variable that a struct receives from whatever embeds it. -/
structure InheritedVariable where
  name : String
  type : String
deriving DecidableEq, Repr, Inhabited

/-- A member of a struct. -/
structure Member where
  declaration : Declaration
  /-- The position among the members. -/
  index : Nat
  /-- Does the length name another member? -/
  lengthIsMember : Bool
  /-- The expression under which the member is valid. -/
  condition : Option String
  /-- Expressions passed on to the struct that the member points to. -/
  inheritedConditions : String
deriving DecidableEq, Repr, Inhabited

/-- A struct with its members. -/
structure Struct where
  name : String
  members : List Member
  /-- The value that tags the struct. -/
  structureType : Option String
  /-- The structs that this one extends. -/
  extended : List String
  isReturnedOnly : Bool
  inherited : List InheritedVariable
deriving DecidableEq, Repr, Inhabited

/-- One of the alternatives of a union. -/
structure Choice where
  declaration : Declaration
  /-- The position among the choices. -/
  index : Nat
deriving DecidableEq, Repr, Inhabited

/-- A union with its choices. -/
structure Union where
  name : String
  choices : List Choice
deriving DecidableEq, Repr, Inhabited

/-! ### Enums and bitmasks -/

/-- A named value of an enum or bitmask. -/
structure EnumOption where
  name : String
  value : String
  /-- Does the value of a bitmask cover more than one bit? -/
  isMultiValue : Bool
  isAlias : Bool
deriving DecidableEq, Repr, Inhabited

/-- An enum with its named values. -/
structure Enum where
  name : String
  options : List EnumOption
deriving DecidableEq, Repr, Inhabited

/-- A set of bits with names. -/
structure Bitmask where
  name : String
  width : Nat
  options : List EnumOption
deriving DecidableEq, Repr, Inhabited

/-- A type that holds bits, with the bitmask that names them. -/
structure Flag where
  name : String
  type : String
  bits : Option String
deriving DecidableEq, Repr, Inhabited

/-! ### Other types -/

/-- A handle of an object. -/
structure Handle where
  name : String
  /-- The macro that declares the handle. -/
  type : String
  isDispatchable : Bool
  parent : Option String
  objectType : String
deriving DecidableEq, Repr, Inhabited

/-- Another name for a type of C. -/
structure BaseType where
  name : String
  type : String
deriving DecidableEq, Repr, Inhabited

/-- A pointer to a function. -/
structure FunctionPointer where
  name : String
  returnType : String
deriving DecidableEq, Repr, Inhabited

/-- A type that the platform header declares. -/
structure ExternalType where
  name : String
  header : String
deriving DecidableEq, Repr, Inhabited

/-! ### Extensions -/

/-- An extension of the API with what it contributes. -/
structure Extension where
  name : String
  type : String
  number : Int
  /-- The macro that guards what the extension contributes. -/
  guard : Option String
  types : OrderedSet String
  commands : OrderedSet String
deriving DecidableEq, Repr, Inhabited

/-- A platform type that an extension uses. -/
structure SystemType where
  name : String
  extension : String
  guard : Option String
deriving DecidableEq, Repr, Inhabited

end LayerStencil
