import LayerStencil.Model.Basic
import LayerStencil.Text.Classes

/-! # References between entities

Members, parameters and flags name other types. A reference dangles if it names no type of the
model, not even through an alias; of members and parameters only names in the style of the API
count.
-/

namespace LayerStencil

/-- Is a name in the style of the API's types: `Vk`, a capital, then letters and digits? -/
def isApiTypeName (name : String) : Bool :=
  match name.toList with
  | 'V' :: 'k' :: c :: r => Text.isAsciiUpper c && r.all Text.isAsciiAlphanumeric
  | _ => false

namespace Model

/-- Does the model define a type of this very name? -/
def definesType (m : Model) (name : String) : Bool :=
  m.structs.any (·.name = name) || m.unions.any (·.name = name) || m.enums.any (·.name = name) ||
    m.bitmasks.any (·.name = name) || m.flags.any (·.name = name) ||
    m.handles.any (·.name = name) || m.baseTypes.any (·.name = name) ||
    m.functionPointers.any (·.name = name)

/-- Does the model define a type of this name or of what it stands for? -/
def isKnown (m : Model) (name : String) : Bool := m.definesType (m.canonicalName name)

/-- Is the base type of a declaration one of the API that the model does not define? -/
def dangles (m : Model) (d : Declaration) : Bool :=
  isApiTypeName d.baseType && !m.isKnown d.baseType

/-- One message for every reference that dangles: of members, of parameters, and of flags. -/
def danglingReferences (m : Model) : List String :=
  (m.structs.flatMap fun s =>
      (s.members.filter fun mem => m.dangles mem.declaration).map fun mem =>
        s.name ++ "::" ++ mem.declaration.name ++ " has unknown type " ++
          mem.declaration.baseType) ++
    (m.commands.flatMap fun c =>
      (c.parameters.filter fun p => m.dangles p.declaration).map fun p =>
        c.name ++ "(" ++ p.declaration.name ++ ") has unknown type " ++ p.declaration.baseType) ++
    m.flags.filterMap fun f =>
      f.bits.bind fun bits =>
        if m.isKnown bits then none else some (f.name ++ " refers to unknown bits " ++ bits)

end Model

end LayerStencil
