import LayerStencil.Text.Ranges.Alphanumeric
import LayerStencil.Text.Ranges.DecimalDigit
import LayerStencil.Text.Ranges.Word

/-! # Classes of characters

The classes that the readers test: white space, letters and numbers, word characters and decimal
digits over all of Unicode, and the narrower sets of single formats. Each Unicode class decides
ASCII by comparisons and looks the rest up in a table of ranges.
-/

namespace LayerStencil.Text

/-- Does a table of ranges hold the character? -/
def inRanges (ranges : List (Nat × Nat)) (c : Char) : Bool :=
  ranges.any fun range => range.1 ≤ c.toNat && c.toNat ≤ range.2

/-- The decimal digits `0` to `9`. -/
def isAsciiDigit (c : Char) : Bool := '0' ≤ c && c ≤ '9'

/-- The letters `a` to `z`. -/
def isAsciiLower (c : Char) : Bool := 'a' ≤ c && c ≤ 'z'

/-- The letters `A` to `Z`. -/
def isAsciiUpper (c : Char) : Bool := 'A' ≤ c && c ≤ 'Z'

/-- The letters of ASCII and the decimal digits. -/
def isAsciiAlphanumeric (c : Char) : Bool := isAsciiLower c || isAsciiUpper c || isAsciiDigit c

/-- The characters of a field name: ASCII letters, digits and the underscore. -/
def isNameChar (c : Char) : Bool := isAsciiAlphanumeric c || c = '_'

/-- Space, tab, carriage return and line feed, the blanks between the words of a language. -/
def isBlank (c : Char) : Bool := c = ' ' || c = '\t' || c = '\r' || c = '\n'

/-- The Unicode property White_Space. -/
def isWhiteSpace (c : Char) : Bool :=
  let n := c.toNat
  if n < 0x80 then n = 0x20 || (0x09 ≤ n && n ≤ 0x0d)
  else n = 0x85 || n = 0xa0 || n = 0x1680 || (0x2000 ≤ n && n ≤ 0x200a) || n = 0x2028 ||
    n = 0x2029 || n = 0x202f || n = 0x205f || n = 0x3000

/-- Letters and numbers: the property Alphabetic and all number categories. -/
def isAlphanumeric (c : Char) : Bool :=
  if c.toNat < 0x80 then isAsciiAlphanumeric c else inRanges alphanumericRanges c

/-- The characters of an identifier of C: letters, numbers and the underscore. -/
def isIdentifierChar (c : Char) : Bool := isAlphanumeric c || c = '_'

/-- Word characters: letters, marks, decimal digits and connector punctuation. -/
def isWordChar (c : Char) : Bool :=
  if c.toNat < 0x80 then isNameChar c else inRanges wordRanges c

/-- Decimal digits of any script. -/
def isDecimalDigit (c : Char) : Bool :=
  if c.toNat < 0x80 then isAsciiDigit c else inRanges decimalDigitRanges c

end LayerStencil.Text
