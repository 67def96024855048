import LayerStencil.Collection.Dict
import LayerStencil.Text.Basic

/-! # Values of fields

A field of an item holds a text, a truth value or a whole number. A value has one printed form, and
the truth values and the numbers 0 and 1 also stand for a condition.
-/

namespace LayerStencil

/-- What a field holds. -/
inductive Value where
  | str (s : String)
  | bool (b : Bool)
  | int (n : Int)
deriving DecidableEq, Repr, Inhabited

namespace Value

/-- The printed form: a text as it is, `true` or `false`, a number in base 10. -/
def render : Value → String
  | str s => s
  | bool true => "true"
  | bool false => "false"
  | int n => Text.decimal n

/-- The text of a text value. -/
def str? : Value → Option String
  | str s => some s
  | _ => none

/-- The truth value that a condition reads off: truth values themselves, 0 and 1. -/
def truth? : Value → Option Bool
  | bool b => some b
  | int n => if n = 0 then some false else if n = 1 then some true else none
  | str _ => none

/-- The name of the type in messages. -/
def typeName : Value → String
  | str _ => "string"
  | bool _ => "bool"
  | int _ => "int"

/-- A count as a number of 64 bits with a sign, in which counts from 2 ^ 63 on wrap around. -/
def ofCount (n : Nat) : Value := int ((n : Int).bmod (Nat.pow 2 64))

end Value

/-- The values of the fields in scope, by field name. -/
abbrev Values := Dict Value

end LayerStencil
