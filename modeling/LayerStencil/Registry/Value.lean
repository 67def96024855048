import LayerStencil.Convention.Basic
import LayerStencil.Registry.Basic

/-! # Values of enums

A value of a registry is written out as stencils show it: a bit in hexadecimal with at least eight
digits, a value in the range of an extension in base 10, and other values as the registry gives
them. Bits and values in ranges have 64 bits, and what does not fit into them is cut off.
`EnumOption.ofEntry?` makes a value an option of an enum or bitmask.
-/

namespace LayerStencil

/-- A number in hexadecimal with at least eight digits. -/
def hexWord (n : Nat) : String :=
  let digits := Text.hexDigits n
  String.ofList (['0', 'x'] ++ List.replicate (8 - digits.length) '0' ++ digits)

/-- The word of 64 bits with a single bit; places count around the word. -/
def singleBit (position : Int) : Nat := Nat.pow 2 (position % 64).toNat

/-- What 64 bits with a sign keep of a number. -/
def wrapSigned64 (n : Int) : Int := n.bmod 18446744073709551616

/-- The value at an offset in the range of an extension; a thousand values belong to each. Keeping
64 bits at the end is keeping them after every step. -/
def rangeValue (number offset : Int) (isPositive : Bool) : Int :=
  let value := 1000000000 + (number - 1) * 1000 + offset
  wrapSigned64 (if isPositive then value else -value)

/-- A value as it is written out. -/
structure WrittenValue where
  value : String
  /-- The enum or bitmask that the value is added to. -/
  extended : Option String
  isAlias : Bool
  /-- Is the value given as it is, and not as a single bit? -/
  isLiteral : Bool
deriving DecidableEq, Repr

/-- The written form of a value, given the number of the extension that lists it. A value without a
form, or in the range of an unknown extension, has none. -/
def ValueEntry.written? (v : ValueEntry) (number : Option Int) : Option WrittenValue :=
  match v.spec with
  | .none => none
  | .aliasOf target extended => some ⟨target, extended, true, false⟩
  | .bit position extended => some ⟨hexWord (singleBit position), extended, false, false⟩
  | .literal value extended => some ⟨value, extended, false, true⟩
  | .offset offset extended own isPositive =>
    (own.or number).map fun number =>
      ⟨Text.decimal (rangeValue number offset isPositive), some extended, false, true⟩

/-- The option of an enum or bitmask that a value gives. -/
def EnumOption.ofEntry? (isBitmask : Bool) (number : Option Int) (v : ValueEntry) :
    Option EnumOption :=
  (v.written? number).map fun w => ⟨v.name, w.value, isBitmask && w.isLiteral, w.isAlias⟩

/-- The enum or bitmask that a value is added to, if it has a written form. -/
def ValueEntry.extended? (v : ValueEntry) (number : Option Int) : Option String :=
  (v.written? number).bind WrittenValue.extended

/-- Does a block hold the values of a bitmask? -/
def ValueBlock.isBitmask (b : ValueBlock) : Bool := b.kind = some "bitmask"

/-- Does a block hold the values of an enum? -/
def ValueBlock.isEnum (b : ValueBlock) : Bool := b.kind = some "enum"

end LayerStencil
