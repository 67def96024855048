import LayerStencil.Model.Entity
import LayerStencil.Model.Kind
import LayerStencil.Value

/-! # Items

An item is what a loop of a stencil visits: an entity of the model, a part of one, or the sentinel
that a conditional part visits once. Every item offers the fields of its kind. Main statement:
`keys_values`, the bound names of an item are the vocabulary of its kind.
-/

namespace LayerStencil

/-- What a loop visits. -/
inductive Item where
  /-- The single item of a conditional part, which has no fields. -/
  | sentinel
  | command (c : Command)
  | parameter (p : Parameter)
  | struct (s : Struct)
  | member (m : Member)
  | union (u : Union)
  | choice (c : Choice)
  | enum (e : Enum)
  | bitmask (b : Bitmask)
  | option (o : EnumOption)
  | flag (f : Flag)
  | handle (h : Handle)
  | baseType (b : BaseType)
  | functionPointer (p : FunctionPointer)
  | externalType (t : ExternalType)
  | extension (e : Extension)
  | systemType (t : SystemType)
deriving DecidableEq, Repr, Inhabited

/-- The names of the fields that every item of a kind offers, in order. -/
def Kind.vocabulary : Kind → List String
  | command =>
    ["funcName", "funcShortName", "funcReturn", "funcTypedParams", "funcNamedParams",
      "funcDispatchParam", "funcDispatchType", "funcType", "funcIsVoid", "funcIsAlias",
      "funcAlias", "funcStateTrackingCode"]
  | parameter =>
    ["prmName", "prmType", "prmBaseType", "prmPtrLevel", "prmArrayLength", "prmLength",
      "prmIsConst", "prmIsOptional", "prmIndex", "prmInheritedConditions"]
  | struct =>
    ["sctName", "sctStructureType", "sctExtends", "sctIsReturnedOnly", "sctMemberCount",
      "sctHasInheritedState", "sctConditionVars", "sctConditionNames"]
  | member =>
    ["memName", "memType", "memBaseType", "memPtrLevel", "memArrayLength", "memLength",
      "memLengthIsMember", "memIsConst", "memIsOptional", "memIndex", "memCondition",
      "memHasCondition", "memInheritedConditions"]
  | union => ["unName", "unChoiceCount"]
  | choice =>
    ["chcName", "chcType", "chcBaseType", "chcPtrLevel", "chcArrayLength", "chcIndex"]
  | enum => ["enumName", "enumOptionCount"]
  | bitmask => ["bitName", "bitWidth", "bitOptionCount"]
  | option => ["optName", "optValue", "optMultiValue", "optIsAlias"]
  | flag => ["flagName", "flagType", "flagEnum", "flagHasEnum"]
  | handle => ["hdlName", "hdlType", "hdlIsDispatchable", "hdlParent", "hdlObjectType"]
  | baseType => ["baseName", "baseType"]
  | functionPointer => ["pfnName", "pfnReturn"]
  | externalType => ["etyName", "etyHeader"]
  | extension => ["extName", "extType", "extNumber", "extGuard", "extHasGuard"]
  | systemType => ["sysName", "sysExtension", "sysGuard"]

/-- A text that may be missing, then empty. -/
def optionalText (s : Option String) : Value := .str (s.getD "")

/-! ### Fields of the kinds -/

/-- The fields of a command. -/
def Command.fields (c : Command) : List (String × Value) :=
  [("funcName", .str c.name),
    ("funcShortName", .str c.shortName),
    ("funcReturn", .str c.returnType),
    ("funcTypedParams", .str c.typedParameters),
    ("funcNamedParams", .str c.namedParameters),
    ("funcDispatchParam", .str c.dispatchParameter),
    ("funcDispatchType", .str c.dispatch.word),
    ("funcType", .str c.functionType),
    ("funcIsVoid", .bool (c.returnType = "void")),
    ("funcIsAlias", .bool c.aliasOf.isSome),
    ("funcAlias", optionalText c.aliasOf),
    ("funcStateTrackingCode", optionalText c.trackedState)]

/-- The fields of a parameter. -/
def Parameter.fields (p : Parameter) : List (String × Value) :=
  [("prmName", .str p.declaration.name),
    ("prmType", .str p.declaration.typeText),
    ("prmBaseType", .str p.declaration.baseType),
    ("prmPtrLevel", .int p.declaration.pointerLevel),
    ("prmArrayLength", .str p.declaration.arrayLength),
    ("prmLength", optionalText p.declaration.length),
    ("prmIsConst", .bool p.declaration.isConst),
    ("prmIsOptional", .bool p.declaration.isOptional),
    ("prmIndex", .ofCount p.index),
    ("prmInheritedConditions", .str p.inheritedConditions)]

/-- The fields of a struct. -/
def Struct.fields (s : Struct) : List (String × Value) :=
  [("sctName", .str s.name),
    ("sctStructureType", optionalText s.structureType),
    ("sctExtends", .str (Text.joined "," s.extended)),
    ("sctIsReturnedOnly", .bool s.isReturnedOnly),
    ("sctMemberCount", .ofCount s.members.length),
    ("sctHasInheritedState", .bool !s.inherited.isEmpty),
    ("sctConditionVars",
      .str (String.join (s.inherited.map fun v => ", " ++ v.type ++ " " ++ v.name))),
    ("sctConditionNames", .str (String.join (s.inherited.map fun v => ", " ++ v.name)))]

/-- The fields of a member. -/
def Member.fields (m : Member) : List (String × Value) :=
  [("memName", .str m.declaration.name),
    ("memType", .str m.declaration.typeText),
    ("memBaseType", .str m.declaration.baseType),
    ("memPtrLevel", .int m.declaration.pointerLevel),
    ("memArrayLength", .str m.declaration.arrayLength),
    ("memLength", optionalText m.declaration.length),
    ("memLengthIsMember", .bool m.lengthIsMember),
    ("memIsConst", .bool m.declaration.isConst),
    ("memIsOptional", .bool m.declaration.isOptional),
    ("memIndex", .ofCount m.index),
    ("memCondition", optionalText m.condition),
    ("memHasCondition", .bool m.condition.isSome),
    ("memInheritedConditions", .str m.inheritedConditions)]

/-- The fields of a choice. -/
def Choice.fields (c : Choice) : List (String × Value) :=
  [("chcName", .str c.declaration.name),
    ("chcType", .str c.declaration.typeText),
    ("chcBaseType", .str c.declaration.baseType),
    ("chcPtrLevel", .int c.declaration.pointerLevel),
    ("chcArrayLength", .str c.declaration.arrayLength),
    ("chcIndex", .ofCount c.index)]

/-- The fields of an extension. -/
def Extension.fields (e : Extension) : List (String × Value) :=
  [("extName", .str e.name),
    ("extType", .str e.type),
    ("extNumber", .int e.number),
    ("extGuard", optionalText e.guard),
    ("extHasGuard", .bool e.guard.isSome)]

/-- The fields of a handle. -/
def Handle.fields (h : Handle) : List (String × Value) :=
  [("hdlName", .str h.name),
    ("hdlType", .str h.type),
    ("hdlIsDispatchable", .bool h.isDispatchable),
    ("hdlParent", optionalText h.parent),
    ("hdlObjectType", .str h.objectType)]

namespace Item

/-- The kind of an item; the sentinel has none. -/
def kind? : Item → Option Kind
  | sentinel => none
  | command _ => some .command
  | parameter _ => some .parameter
  | struct _ => some .struct
  | member _ => some .member
  | union _ => some .union
  | choice _ => some .choice
  | enum _ => some .enum
  | bitmask _ => some .bitmask
  | option _ => some .option
  | flag _ => some .flag
  | handle _ => some .handle
  | baseType _ => some .baseType
  | functionPointer _ => some .functionPointer
  | externalType _ => some .externalType
  | extension _ => some .extension
  | systemType _ => some .systemType

/-- The name of an item; the sentinel's is empty. -/
def name : Item → String
  | sentinel => ""
  | command c => c.name
  | parameter p => p.declaration.name
  | struct s => s.name
  | member m => m.declaration.name
  | union u => u.name
  | choice c => c.declaration.name
  | enum e => e.name
  | bitmask b => b.name
  | option o => o.name
  | flag f => f.name
  | handle h => h.name
  | baseType b => b.name
  | functionPointer p => p.name
  | externalType t => t.name
  | extension e => e.name
  | systemType t => t.name

/-- The fields of an item, in the order of the vocabulary. -/
def fields : Item → List (String × Value)
  | sentinel => []
  | command c => c.fields
  | parameter p => p.fields
  | struct s => s.fields
  | member m => m.fields
  | union u => [("unName", .str u.name), ("unChoiceCount", .ofCount u.choices.length)]
  | choice c => c.fields
  | enum e => [("enumName", .str e.name), ("enumOptionCount", .ofCount e.options.length)]
  | bitmask b =>
    [("bitName", .str b.name), ("bitWidth", .int b.width),
      ("bitOptionCount", .ofCount b.options.length)]
  | option o =>
    [("optName", .str o.name), ("optValue", .str o.value), ("optMultiValue", .bool o.isMultiValue),
      ("optIsAlias", .bool o.isAlias)]
  | flag f =>
    [("flagName", .str f.name), ("flagType", .str f.type), ("flagEnum", optionalText f.bits),
      ("flagHasEnum", .bool f.bits.isSome)]
  | handle h => h.fields
  | baseType b => [("baseName", .str b.name), ("baseType", .str b.type)]
  | functionPointer p => [("pfnName", .str p.name), ("pfnReturn", .str p.returnType)]
  | externalType t => [("etyName", .str t.name), ("etyHeader", .str t.header)]
  | extension e => e.fields
  | systemType t =>
    [("sysName", .str t.name), ("sysExtension", .str t.extension),
      ("sysGuard", optionalText t.guard)]

/-- The names of the fields that an item offers. -/
def vocabulary (item : Item) : List String := (item.kind?.map Kind.vocabulary).getD []

theorem map_fst_fields (item : Item) : item.fields.map Prod.fst = item.vocabulary := by
  cases item <;> rfl

theorem nodup_vocabulary (item : Item) : item.vocabulary.Nodup := by
  cases item <;> simp [vocabulary, kind?, Kind.vocabulary]

/-- The values of an item by field name. -/
def values (item : Item) : Values :=
  ⟨item.fields, by rw [map_fst_fields]; exact nodup_vocabulary item⟩

theorem keys_values (item : Item) : item.values.keys = item.vocabulary := map_fst_fields item

/-- The parts of an item that a loop over a scoped kind visits, if the item owns parts of the
kind. -/
def parts? : Kind → Item → Option (List Item)
  | .parameter, command c => some (c.parameters.map parameter)
  | .member, struct s => some (s.members.map member)
  | .choice, union u => some (u.choices.map choice)
  | .option, enum e => some (e.options.map option)
  | .option, bitmask b => some (b.options.map option)
  | _, _ => none

/-- All parts of an item. -/
def parts : Item → List Item
  | command c => c.parameters.map parameter
  | struct s => s.members.map member
  | union u => u.choices.map choice
  | enum e => e.options.map option
  | bitmask b => b.options.map option
  | _ => []

end Item

end LayerStencil
