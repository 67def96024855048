import LayerStencil.Convention.Naming
import LayerStencil.Model.Entity

/-! # Conventions of an API

What a registry does not say about its API: how types and constants are named, which commands are
looked up through an instance or left out, and the extra state, checks and statements of single
structs and commands.
-/

namespace LayerStencil

/-- A variable that a struct receives, with the expression that its value is taken from. -/
structure StateVariable where
  name : String
  type : String
  /-- An expression in the scope of whatever embeds the struct. -/
  expr : String
deriving DecidableEq, Repr

/-- The state that a struct receives from a struct or command. -/
structure InheritedState where
  /-- The struct that receives the state. -/
  receiver : String
  source : String
  stateVariables : List StateVariable
deriving DecidableEq, Repr

/-- The expression under which a member of a struct is valid. -/
structure ValidityCheck where
  /-- The struct that has the member. -/
  owner : String
  member : String
  condition : String
deriving DecidableEq, Repr

/-- The conventions of an API. -/
structure Convention where
  /-- The name of the API in lists of APIs. -/
  name : String
  registryFile : String
  /-- How the names of types start. -/
  typeLead : List Char
  /-- The block of values that are constants of the API. -/
  constantsBlock : String
  /-- The header that declares the types of the platform. -/
  platformHeader : String
  /-- How the names of object types start. -/
  objectTypeLead : String
  /-- The member that tags a struct with its type. -/
  tagMember : String
  /-- Commands that are looked up through the instance whatever their parameters. -/
  instanceCommands : List String
  /-- Types of a first parameter that select the instance. -/
  instanceTypes : List String
  /-- Commands that never make part of a model. -/
  excludedCommands : List String
  /-- Platform types that a macro declares, and no header. -/
  defineTypes : List String
  inheritedStates : List InheritedState
  validityChecks : List ValidityCheck
  /-- Statements that follow a command. -/
  trackedStates : List (String × String)
deriving DecidableEq, Repr

namespace Convention

/-- Does a list of APIs contain this one? -/
def isListed (c : Convention) (apis : String) : Bool := (Text.fields ',' apis).contains c.name

/-- Does something apply to this API? What names no APIs applies to all. -/
def applies (c : Convention) (apis : Option String) : Bool :=
  match apis with
  | some apis => c.isListed apis
  | none => true

/-- How a command is looked up, given the type of its first parameter. -/
def dispatch (c : Convention) (command : String) (firstParameter : Option String) : Dispatch :=
  let byParameter := match firstParameter with
    | some type => c.instanceTypes.contains type
    | none => false
  if c.instanceCommands.contains command || byParameter then .viaInstance else .viaDevice

/-- Is a command left out of every model? -/
def isExcluded (c : Convention) (command : String) : Bool := c.excludedCommands.contains command

/-- Is a platform type declared by a macro? -/
def isDefineType (c : Convention) (name : String) : Bool := c.defineTypes.contains name

/-- The state that a struct receives. -/
def inheritedState? (c : Convention) (struct : String) : Option InheritedState :=
  c.inheritedStates.find? fun s => s.receiver = struct

/-- The state that a struct receives from a given source. -/
def inheritedFrom? (c : Convention) (struct source : String) : Option InheritedState :=
  c.inheritedStates.find? fun s => s.receiver = struct ∧ s.source = source

/-- The expression under which a member of a struct is valid. -/
def validityCheck? (c : Convention) (struct member : String) : Option String :=
  (c.validityChecks.find? fun v => v.owner = struct ∧ v.member = member).map
    ValidityCheck.condition

/-- The statements that follow a command. -/
def trackedState? (c : Convention) (command : String) : Option String :=
  c.trackedStates.lookup command

/-- The object type of a handle. -/
def objectType (c : Convention) (handle : String) : String :=
  c.objectTypeLead ++ Naming.constant (Text.withoutLead c.typeLead handle)

end Convention

end LayerStencil
