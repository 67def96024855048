import LayerStencil.Registry.Basic
import LayerStencil.Xml.Element

/-! # Registries in XML

The registry that an XML text holds. Elements and attributes that a registry does not use are passed
over, and so are values with more than one form, with a number that cannot be read, or in no range.
A value, an extension, an alias of a command and what a requirement lists must have a name, and are
refused in their places without one, and so is anything else in a requirement but a comment. A
feature that is not complete is read to its end and then passed over.
-/

namespace LayerStencil.Registry

open Xml

/-! ### Numbers -/

/-- A number of 64 bits with a sign, with digits in a base that `digits?` reads. -/
def signed? (digits? : List Char → Option Nat) (cs : List Char) : Option Int :=
  let n : Option Int := match cs with
    | '-' :: r => (digits? r).map fun n => -(n : Int)
    | '+' :: r => (digits? r).map fun n => (n : Int)
    | cs => (digits? cs).map fun n => (n : Int)
  n.bind fun n => if Text.isSigned64 n then some n else none

/-- The number that an attribute gives, in base 10 or after `0x` in base 16. -/
def integer? (s : String) : Option Int :=
  match s.toList with
  | '0' :: 'x' :: r => signed? hexNumber? r
  | cs => signed? decimalNumber? cs

/-! ### Types -/

/-- The member that an element describes. -/
def memberOf (a : Attributes) (children : List Node) : MemberEntry where
  length := a.value? "len"
  optional := a.value? "optional"
  values := a.value? "values"
  apis := a.value? "api"
  code := String.ofList (Node.markedText ["name", "type", "enum"] children)
  types := Node.textsOf "type" children

/-- What a type consists of: its members if it has members or comments, else its code if that is not
empty. -/
def bodyOf (children : List Node) : TypeBody :=
  let hasMembers := children.any fun
    | .element name _ _ => name = "member" || name = "comment"
    | .text _ => false
  if hasMembers then
    .members (children.filterMap fun
      | .element "member" a inner => some (memberOf a inner)
      | _ => none)
  else
    match Node.markedText ["name", "type", "apientry"] children with
    | [] => .none
    | code =>
      .code ⟨String.ofList code, Node.textsOf "name" children, Node.textsOf "type" children⟩

/-- The type that an element describes. -/
def typeOf (a : Attributes) (children : List Node) : TypeEntry where
  name := a.value? "name"
  aliasOf := a.value? "alias"
  apis := a.value? "api"
  requires := a.value? "requires"
  category := a.value? "category"
  parent := a.value? "parent"
  returnedOnly := a.value? "returnedonly"
  extended := a.value? "structextends"
  bitValues := a.value? "bitvalues"
  body := bodyOf children

/-! ### Values -/

/-- How the attributes of an element give a value: in one of four forms, or in none. -/
def specOf? (a : Attributes) : Option ValueSpec :=
  match a.value? "alias", a.value? "value", a.value? "bitpos", a.value? "offset" with
  | none, none, none, none => some .none
  | some target, none, none, none => some (.aliasOf target (a.value? "extends"))
  | none, some value, none, none => some (.literal value (a.value? "extends"))
  | none, none, some position, none =>
    (integer? position).map fun position => .bit position (a.value? "extends")
  | none, none, none, some offset => do
    let offset ← integer? offset
    let extended ← a.value? "extends"
    let number := (a.value? "extnumber").bind integer?
    return .offset offset extended number (a.value? "dir" ≠ some "-")
  | _, _, _, _ => none

/-- The value that an element describes. -/
def valueOf? (a : Attributes) : Option ValueEntry := do
  let name ← a.value? "name"
  let spec ← specOf? a
  return ⟨name, a.value? "api", spec⟩

/-- The block of values that an element describes. -/
def blockOf (a : Attributes) (children : List Node) : ValueBlock where
  name := a.value? "name"
  kind := a.value? "type"
  width := ((a.value? "bitwidth").bind integer?).map fun n => (n % 4294967296).toNat
  values := children.filterMap fun
    | .element "enum" a _ => valueOf? a
    | _ => none

/-! ### Commands -/

/-- The declaration that an element holds, if a name is marked in it. -/
def declarationOf? (children : List Node) : Option MarkedDeclaration :=
  (Node.textsOf "name" children).getLast?.map fun name =>
    ⟨name, (Node.textsOf "type" children).getLast?,
      String.ofList (Node.markedText ["name", "type"] children)⟩

/-- The parameter that an element describes. -/
def parameterOf? (a : Attributes) (children : List Node) : Option ParameterEntry :=
  (declarationOf? children).map fun d => ⟨d, a.value? "len", a.value? "optional", a.value? "api"⟩

/-- The command that an element describes. -/
def commandOf? (a : Attributes) (children : List Node) : Option CommandEntry :=
  match a.value? "alias" with
  | some target => (a.value? "name").map fun name => .aliasOf name target
  | none =>
    let protos := children.filterMap fun
      | .element "proto" _ inner => some (declarationOf? inner)
      | _ => none
    protos.getLast?.join.map fun proto =>
      .definition ⟨proto, children.filterMap fun
        | .element "param" a inner => parameterOf? a inner
        | _ => none⟩

/-! ### Features and extensions -/

/-- What an element in a requirement lists. -/
def requiredOf? : Node → Option RequiredItem
  | .element "type" a _ => (a.value? "name").map .type
  | .element "command" a _ => (a.value? "name").map .command
  | .element "enum" a _ => (valueOf? a).map .value
  | _ => none

/-- The requirements in an element. -/
def requirementsOf (children : List Node) : List Requirement :=
  children.filterMap fun
    | .element "require" a inner => some ⟨a.value? "api", inner.filterMap requiredOf?⟩
    | _ => none

/-- The feature that an element describes. -/
def featureOf? (a : Attributes) (children : List Node) : Option Feature := do
  let apis ← a.value? "api"
  let name ← a.value? "name"
  let _ ← a.value? "number"
  return ⟨apis, name, requirementsOf children⟩

/-- The extension that an element describes. -/
def extensionOf? (a : Attributes) (children : List Node) : Option ExtensionEntry :=
  (a.value? "name").map fun name =>
    { name
      number := (a.value? "number").bind integer?
      protect := a.value? "protect"
      type := a.value? "type"
      supported := a.value? "supported"
      requirements := requirementsOf children }

/-! ### The registry -/

/-- The part of a registry that an element describes. -/
def partOf? : Node → Option RegistryPart
  | .element "types" _ children =>
    some (.types (children.filterMap fun
      | .element "type" a inner => some (typeOf a inner)
      | _ => none))
  | .element "enums" a children => some (.values (blockOf a children))
  | .element "commands" _ children =>
    some (.commands (children.filterMap fun
      | .element "command" a inner => commandOf? a inner
      | _ => none))
  | .element "feature" a children => (featureOf? a children).map .feature
  | .element "extensions" _ children =>
    some (.extensions (children.filterMap fun
      | .element "extension" a inner => extensionOf? a inner
      | _ => none))
  | _ => none

/-- Is an element refused in a requirement? All but comments are, unless they are something that a
requirement lists by its name. -/
def isRefusedInRequirement (item : String) (a : Attributes) : Bool :=
  item ≠ "comment" && ((item ≠ "type" && item ≠ "enum" && item ≠ "command") || a.lacks "name")

/-- Is an element refused where it stands? Then what is around it ends with it. Refused are elements
that lack the name they must have there, and what a requirement does not know. The names around the
element come innermost first. -/
def isRefused : (around : List String) → String → Attributes → Bool
  | ["enums", "registry"], "enum", a => a.lacks "name"
  | ["commands", "registry"], "command", a => !a.lacks "alias" && a.lacks "name"
  | ["extensions", "registry"], "extension", a => a.lacks "name"
  | list :: around, item, a =>
    (list = "require" || list = "remove") &&
      (around = ["feature", "registry"] || around = ["extension", "extensions", "registry"]) &&
      isRefusedInRequirement item a
  | _, _, _ => false

/-- The registry that a text holds: the last of its outermost elements that is one. -/
def ofXml? (cs : List Char) : Option Registry :=
  (Node.parse isRefused cs).reverse.findSome? fun
    | .element "registry" _ children => some ⟨children.filterMap partOf?⟩
    | _ => none

end LayerStencil.Registry
