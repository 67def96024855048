/-! # Registries

A registry describes all versions and extensions of a family of APIs: types, blocks of values,
commands, features and extensions, in document order. What carries a list of APIs applies to these
only. This module holds the parts of a registry that a model is built from, and the views that
collect the parts of one sort.
-/

namespace LayerStencil

/-! ### Types -/

/-- The code of a type with the names that are marked in it. -/
structure TypeCode where
  code : String
  /-- The names marked as the one that is declared. -/
  names : List String
  /-- The names marked as types, in order. -/
  types : List String
deriving DecidableEq, Repr, Inhabited

/-- A member of a struct or union. -/
structure MemberEntry where
  length : Option String
  optional : Option String
  values : Option String
  apis : Option String
  code : String
  /-- The names marked as types, in order. -/
  types : List String
deriving DecidableEq, Repr, Inhabited

/-- What a type consists of. -/
inductive TypeBody where
  | none
  | code (c : TypeCode)
  | members (ms : List MemberEntry)
deriving DecidableEq, Repr, Inhabited

/-- A type. -/
structure TypeEntry where
  name : Option String
  aliasOf : Option String
  apis : Option String
  requires : Option String
  category : Option String
  parent : Option String
  returnedOnly : Option String
  extended : Option String
  bitValues : Option String
  body : TypeBody
deriving DecidableEq, Repr, Inhabited

namespace TypeEntry

/-- The code of a type that has one. -/
def code? (t : TypeEntry) : Option TypeCode :=
  match t.body with
  | .code c => some c
  | _ => none

/-- The name of a type: the one given, or else the one that its code declares. -/
def name? (t : TypeEntry) : Option String :=
  t.name.or (t.code?.bind fun c => c.names.head?)

/-- The first type that the code of a type names. -/
def codeType? (t : TypeEntry) : Option String := t.code?.bind fun c => c.types.head?

/-- The members of a type that has members. -/
def members (t : TypeEntry) : List MemberEntry :=
  match t.body with
  | .members ms => ms
  | _ => []

end TypeEntry

/-! ### Values -/

/-- How a value is given. -/
inductive ValueSpec where
  | none
  | aliasOf (target : String) (extended : Option String)
  | bit (position : Int) (extended : Option String)
  | literal (value : String) (extended : Option String)
  /-- A value in the range of an extension, whose number is that of the extension that lists the
  value if none is given. -/
  | offset (offset : Int) (extended : String) (number : Option Int) (isPositive : Bool)
deriving DecidableEq, Repr, Inhabited

/-- A named value. -/
structure ValueEntry where
  name : String
  apis : Option String
  spec : ValueSpec
deriving DecidableEq, Repr, Inhabited

/-- A block of values. -/
structure ValueBlock where
  name : Option String
  kind : Option String
  width : Option Nat
  values : List ValueEntry
deriving DecidableEq, Repr, Inhabited

/-! ### Commands -/

/-- A declaration with its name and its type marked. -/
structure MarkedDeclaration where
  name : String
  type : Option String
  code : String
deriving DecidableEq, Repr, Inhabited

/-- A parameter of a command. -/
structure ParameterEntry where
  declaration : MarkedDeclaration
  length : Option String
  optional : Option String
  apis : Option String
deriving DecidableEq, Repr, Inhabited

/-- The definition of a command. -/
structure CommandDefinition where
  proto : MarkedDeclaration
  parameters : List ParameterEntry
deriving DecidableEq, Repr, Inhabited

/-- A command, defined or as another name for one. -/
inductive CommandEntry where
  | definition (d : CommandDefinition)
  | aliasOf (name target : String)
deriving DecidableEq, Repr, Inhabited

/-- The name of a command. -/
def CommandEntry.name : CommandEntry → String
  | definition d => d.proto.name
  | aliasOf name _ => name

/-! ### Features and extensions -/

/-- What a requirement lists. -/
inductive RequiredItem where
  | type (name : String)
  | command (name : String)
  | value (v : ValueEntry)
deriving DecidableEq, Repr, Inhabited

/-- A list of what a feature or extension needs. -/
structure Requirement where
  apis : Option String
  items : List RequiredItem
deriving DecidableEq, Repr, Inhabited

/-- A version of an API. -/
structure Feature where
  apis : String
  name : String
  requirements : List Requirement
deriving DecidableEq, Repr, Inhabited

/-- An extension of an API. -/
structure ExtensionEntry where
  name : String
  number : Option Int
  protect : Option String
  type : Option String
  supported : Option String
  requirements : List Requirement
deriving DecidableEq, Repr, Inhabited

/-! ### Registries -/

/-- A part of a registry. -/
inductive RegistryPart where
  | types (entries : List TypeEntry)
  | values (block : ValueBlock)
  | commands (entries : List CommandEntry)
  | feature (f : Feature)
  | extensions (entries : List ExtensionEntry)
deriving DecidableEq, Repr, Inhabited

/-- The parts of a registry in document order. -/
structure Registry where
  parts : List RegistryPart
deriving DecidableEq, Repr, Inhabited

namespace Registry

/-- All types. -/
def types (r : Registry) : List TypeEntry :=
  r.parts.flatMap fun
    | .types entries => entries
    | _ => []

/-- All blocks of values. -/
def blocks (r : Registry) : List ValueBlock :=
  r.parts.filterMap fun
    | .values block => some block
    | _ => none

/-- All commands. -/
def commands (r : Registry) : List CommandEntry :=
  r.parts.flatMap fun
    | .commands entries => entries
    | _ => []

/-- All features. -/
def features (r : Registry) : List Feature :=
  r.parts.filterMap fun
    | .feature f => some f
    | _ => none

/-- The extensions of the first part that holds extensions. -/
def extensions? (r : Registry) : Option (List ExtensionEntry) :=
  r.parts.findSome? fun
    | .extensions entries => some entries
    | _ => none

end Registry

end LayerStencil
