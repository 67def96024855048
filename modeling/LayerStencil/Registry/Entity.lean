import LayerStencil.Model.Basic
import LayerStencil.Registry.Demand

/-! # Entities of a registry

How the entries of a registry become entities of the model. The declarations of members and
parameters are read from their code; what applies to other APIs is left out; and the conventions of
the API add what the registry does not say.
-/

namespace LayerStencil

/-- Why no model can be built from a registry. -/
inductive RegistryError where
  /-- The registry has no part that holds extensions. -/
  | noExtensions
  | declaration (owner : String) (cause : DeclarationError)
  /-- A command that is another name for a command that is not defined. -/
  | danglingAlias (name target : String)
deriving DecidableEq, Repr

/-- The message of a registry from which no model can be built. -/
def RegistryError.message : RegistryError → String
  | noExtensions => "failed to find extensions child in registry"
  | declaration owner cause => "declaration of `" ++ owner ++ "`: " ++ cause.message
  | danglingAlias name target =>
    "command alias `" ++ name ++ "` refers to unknown command `" ++ target ++ "`"

/-! ### Declarations -/

/-- The first of several lengths; each belongs to one level of pointer, the outermost first. -/
def firstLength (length : Option String) : Option String :=
  length.bind fun l => (Text.fields ',' l).head?

/-- Is the outermost level optional? -/
def isOptional (optional : Option String) : Bool :=
  (optional.bind fun o => (Text.fields ',' o).head?) = some "true"

/-- The declaration of a part of `owner`, with the length and optionality given beside its code. -/
def partDeclaration (owner code : String) (length optional : Option String) :
    Except RegistryError Declaration :=
  match Declaration.ofCode code with
  | .error cause => .error (.declaration owner cause)
  | .ok d => .ok { d with length := firstLength length, isOptional := isOptional optional }

/-- The expressions that `source` passes on to a part whose base type receives state from it. -/
def Convention.inheritedConditions (c : Convention) (baseType source : String) : String :=
  match c.inheritedFrom? baseType source with
  | some state => String.join (state.stateVariables.map fun v => ", " ++ v.expr)
  | none => ""

/-- The members of a type that apply to the API, with their declarations. -/
def TypeEntry.declarations (c : Convention) (owner : String) (t : TypeEntry) :
    Except RegistryError (List (MemberEntry × Declaration)) :=
  (t.members.filter fun m => c.applies m.apis).mapM fun m =>
    (partDeclaration owner m.code m.length m.optional).map fun d => (m, d)

/-! ### Types -/

/-- The struct of an entry. -/
def Struct.ofEntry (c : Convention) (name : String) (t : TypeEntry) :
    Except RegistryError Struct := do
  let declarations ← t.declarations c name
  let siblings := declarations.map fun e => e.2.name
  let member (e : (MemberEntry × Declaration) × Nat) : Member :=
    { declaration := e.1.2
      index := e.2
      lengthIsMember := match e.1.2.length with
        | some length => siblings.contains length
        | none => false
      condition := c.validityCheck? name e.1.2.name
      inheritedConditions := c.inheritedConditions e.1.2.baseType name }
  return {
    name
    members := declarations.zipIdx.map member
    structureType := (declarations.find? fun e => e.2.name = c.tagMember).bind fun e => e.1.values
    extended := match t.extended with
      | some structs => Text.fields ',' structs
      | none => []
    isReturnedOnly := t.returnedOnly = some "true"
    inherited := match c.inheritedState? name with
      | some state => state.stateVariables.map fun v => ⟨v.name, v.type⟩
      | none => [] }

/-- The union of an entry. -/
def Union.ofEntry (c : Convention) (name : String) (t : TypeEntry) :
    Except RegistryError Union := do
  let declarations ← t.declarations c name
  return ⟨name, declarations.zipIdx.map fun e => ⟨e.1.2, e.2⟩⟩

/-- The handle of an entry; the macro that declares it says whether it is dispatchable. -/
def Handle.ofEntry (c : Convention) (name : String) (t : TypeEntry) : Handle :=
  let macroName := t.codeType?.getD ""
  ⟨name, macroName, macroName = "VK_DEFINE_HANDLE", t.parent, c.objectType name⟩

/-- The characters before the first occurrence of `needle`, if it occurs. -/
def before? (needle : List Char) : List Char → Option (List Char)
  | [] => if needle.isEmpty then some [] else none
  | c :: r =>
    if needle.isPrefixOf (c :: r) then some [] else (before? needle r).map (c :: ·)

/-- The result of a pointer to a function, which stands between `typedef` and the macro before the
asterisk. -/
def resultOfPointer? (code : List Char) : Option (List Char) :=
  match Text.after? ['t', 'y', 'p', 'e', 'd', 'e', 'f'] code with
  | some (c :: r) =>
    if Text.isBlank c then
      (before? ['(', 'V', 'K', 'A', 'P', 'I', '_', 'P', 'T', 'R'] (r.dropWhile Text.isBlank)).map
        (Text.trim Text.isWhiteSpace)
    else none
  | _ => none

/-- The pointer to a function of an entry; one whose result cannot be read returns nothing. -/
def FunctionPointer.ofEntry (name : String) (t : TypeEntry) : FunctionPointer :=
  let result := t.code?.bind fun code => resultOfPointer? code.code.toList
  ⟨name, (result.map String.ofList).getD "void"⟩

/-- The options whose names are not in `seen`, the first one of each name. -/
def EnumOption.firsts (seen : List String) : List EnumOption → List EnumOption
  | [] => []
  | o :: os =>
    if seen.contains o.name then firsts seen os else o :: firsts (o.name :: seen) os

/-- The options of a block of values, and those that demands add to it. -/
def ValueBlock.options (c : Convention) (x : RegistryIndex) (ds : List Demand) (name : String)
    (b : ValueBlock) : List EnumOption :=
  EnumOption.firsts []
    ((b.values.filter fun v => c.applies v.apis).filterMap (EnumOption.ofEntry? b.isBitmask none) ++
      Demand.options c x name ds)

/-- What an entry of a registry becomes. -/
inductive BuiltType where
  /-- Another name for a type. -/
  | aliasOf (target : String)
  | struct (s : Struct)
  | union (u : Union)
  | handle (h : Handle)
  | baseType (b : BaseType)
  | flag (f : Flag)
  | functionPointer (p : FunctionPointer)
  | enum (e : Enum)
  | bitmask (b : Bitmask)
  | externalType (t : ExternalType)
  /-- Nothing that a model lists. -/
  | nothing
deriving DecidableEq, Repr

/-- The enum or bitmask of a type that has a block of values of such a kind. -/
def BuiltType.ofBlock (c : Convention) (x : RegistryIndex) (ds : List Demand) (name : String) :
    BuiltType :=
  match x.blocks.get? name with
  | none => .nothing
  | some b =>
    if b.isBitmask then .bitmask ⟨name, b.width.getD 32, b.options c x ds name⟩
    else if b.isEnum then .enum ⟨name, b.options c x ds name⟩
    else .nothing

/-- What the entry of a given name becomes. -/
def BuiltType.ofEntry (c : Convention) (x : RegistryIndex) (ds : List Demand) (name : String)
    (t : TypeEntry) : Except RegistryError BuiltType :=
  match t.aliasOf with
  | some target => .ok (.aliasOf target)
  | none =>
    match t.category with
    | some "struct" => (Struct.ofEntry c name t).map .struct
    | some "union" => (Union.ofEntry c name t).map .union
    | some "handle" => .ok (.handle (Handle.ofEntry c name t))
    | some "basetype" => .ok (.baseType ⟨name, t.codeType?.getD ""⟩)
    | some "bitmask" =>
      .ok (.flag ⟨name, t.codeType?.getD "VkFlags", t.requires.or t.bitValues⟩)
    | some "funcpointer" => .ok (.functionPointer (FunctionPointer.ofEntry name t))
    | some "enum" => .ok (BuiltType.ofBlock c x ds name)
    | some _ => .ok .nothing
    | none =>
      if t.requires = some c.platformHeader then .ok (.externalType ⟨name, c.platformHeader⟩)
      else .ok .nothing

/-! ### Commands -/

/-- The result of a command: the type that its code declares, or else the one that is marked. -/
def CommandDefinition.returnType (d : CommandDefinition) : String :=
  match Declaration.ofCode d.proto.code with
  | .ok declaration => declaration.typeText
  | .error _ => d.proto.type.getD "void"

/-- The parameters of a command of a given name that apply to the API. -/
def CommandDefinition.parametersOf (c : Convention) (name : String) (d : CommandDefinition) :
    Except RegistryError (List Parameter) := do
  let declarations ← (d.parameters.filter fun p => c.applies p.apis).mapM fun p =>
    partDeclaration name p.declaration.code p.length p.optional
  return declarations.zipIdx.map fun e => ⟨e.1, e.2, c.inheritedConditions e.1.baseType name⟩

/-- The type, if it is not empty, of the extension that gates a command. -/
def extensionType? (extensions : List Extension) (positions : Dict Nat) (name : String) :
    Option String :=
  ((positions.get? name).bind fun index => extensions[index]?).bind fun e =>
    if e.type = "" then none else some e.type

/-- The command of a given name with a given definition. -/
def Command.ofDefinition (c : Convention) (extensions : List Extension) (positions : Dict Nat)
    (name : String) (aliasOf : Option String) (d : CommandDefinition) :
    Except RegistryError Command := do
  let parameters ← d.parametersOf c name
  return {
    name
    returnType := d.returnType
    parameters
    dispatch := c.dispatch name (parameters.head?.map fun p => p.declaration.baseType)
    extensionType := extensionType? extensions positions name
    aliasOf
    trackedState := c.trackedState? name }

end LayerStencil
