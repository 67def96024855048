import LayerStencil.Declarator
import LayerStencil.Text.Quoted

/-! # Declarations of the model

The declared variables of the model, that is members, parameters and choices, with the shape that
stencils ask for. `Declaration.ofCode` reads one from the code of a registry.
-/

namespace LayerStencil

/-- A declared variable. -/
structure Declaration where
  name : String
  /-- The declaration without the name and the array suffixes. -/
  typeText : String
  baseType : String
  pointerLevel : Nat
  isConst : Bool
  /-- The sizes of the array as they are written. -/
  arrayLengths : List String
  /-- What the length of a pointer's target is given by. -/
  length : Option String
  isOptional : Bool
deriving DecidableEq, Repr, Inhabited

/-- A code that is no declaration, with its white space reduced to single spaces. -/
structure DeclarationError where
  code : String
deriving DecidableEq, Repr

/-- The message of a code that is no declaration. -/
def DeclarationError.message (e : DeclarationError) : String :=
  "malformed C declaration: " ++ Text.quoted e.code

namespace Declaration

/-- The array suffixes as they are written. -/
def arrayLength (d : Declaration) : String :=
  String.join (d.arrayLengths.map fun size => "[" ++ size ++ "]")

/-- The declaration as it stands in a prototype. -/
def fullText (d : Declaration) : String := d.typeText ++ " " ++ d.name ++ d.arrayLength

/-- A code with single spaces in the place of white space, and none at its ends. -/
def normalize (code : List Char) : List Char :=
  [' '].intercalate (Text.words Text.isWhiteSpace code)

/-- The written form of the size of an array that has one. -/
def writtenSize? : ArraySize → Option String
  | .dynamic => none
  | .static n => some (Text.decimal n)
  | .constant name => some name

/-- The variable that a code declares. Pointers of more than 255 levels are refused. -/
def ofCode (code : String) : Except DeclarationError Declaration :=
  let code := normalize code.toList
  match Declarator.parse? code with
  | none => .error ⟨String.ofList code⟩
  | some (d, _) =>
    if d.pointerLevel ≤ 255 then
      .ok {
        name := d.name
        typeText := String.ofList d.typeText
        baseType := d.type.name
        pointerLevel := d.pointerLevel
        isConst := d.type.isConst
        arrayLengths := d.arrays.filterMap writtenSize?
        length := none
        isOptional := false }
    else .error ⟨String.ofList code⟩

end Declaration

end LayerStencil
