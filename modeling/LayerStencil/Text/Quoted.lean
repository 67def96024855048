import LayerStencil.Text.Classes
import LayerStencil.Text.Ranges.Shown

/-! # Quoted text

Messages that cite a text put it between double quotes. A quote, a backslash and the usual control
characters are written with a backslash, every other character that would not be seen as itself by
its code point in hexadecimal, and all else as it stands.
-/

namespace LayerStencil.Text

/-- Is the character seen as itself when it is printed? -/
def isShown (c : Char) : Bool :=
  if c.toNat < 0x80 then 0x20 ≤ c.toNat && c.toNat < 0x7f else inRanges shownRanges c

/-- The digits of `n` in base 16, lower case, without leading zeros. -/
def hexDigits (n : Nat) : List Char := Nat.toDigits 16 n

/-- One character inside a quoted text. -/
def quotedChar (c : Char) : List Char :=
  if c = '"' then ['\\', '"']
  else if c = '\\' then ['\\', '\\']
  else if c = '\n' then ['\\', 'n']
  else if c = '\r' then ['\\', 'r']
  else if c = '\t' then ['\\', 't']
  else if c = '\x00' then ['\\', '0']
  else if isShown c then [c]
  else ['\\', 'u', '{'] ++ hexDigits c.toNat ++ ['}']

/-- The text between double quotes. -/
def quoted (s : String) : String :=
  String.ofList ('"' :: s.toList.flatMap quotedChar ++ ['"'])

end LayerStencil.Text
