import LayerStencil.Text.Basic
import LayerStencil.Text.Classes

/-! # Characters of XML

Which characters may stand in an XML text and in its names, and the references by which a text
names characters. A text is *decoded* by replacing its references.
-/

namespace LayerStencil.Xml

/-- The versions of XML. -/
inductive Version where
  | one
  | oneDotOne
deriving DecidableEq, Repr

namespace Version

/-- The version with a given number. -/
def ofNumber? (s : String) : Option Version :=
  if s = "1.0" then some one else if s = "1.1" then some oneDotOne else none

/-- Is the character one of a text, at least when a reference names it? -/
def allows (v : Version) (c : Char) : Bool :=
  let n := c.toNat
  n ≠ 0xfffe && n ≠ 0xffff && match v with
    | one => 0x20 ≤ n || c = '\t' || c = '\n' || c = '\r'
    | oneDotOne => 0 < n

/-- May the character stand in a text or a value as itself? In version 1.1 the control characters,
which a reference may name, may not. -/
def admits (v : Version) (c : Char) : Bool :=
  v.allows c && match v with
    | one => true
    | oneDotOne =>
      let n := c.toNat
      Text.isBlank c || n = 0x85 || (0x20 ≤ n && n < 0x7f) || 0xa0 ≤ n

end Version

/-! ### Names -/

/-- The ranges of characters that may begin a name. -/
def nameStartRanges : List (Nat × Nat) := [
  (0x3a, 0x3a), (0x41, 0x5a), (0x5f, 0x5f), (0x61, 0x7a), (0xc0, 0xd6), (0xd8, 0xf6),
  (0xf8, 0x2ff), (0x370, 0x37d), (0x37f, 0x1fff), (0x200c, 0x200d), (0x2070, 0x218f),
  (0x2c00, 0x2fef), (0x3001, 0xd7ff), (0xf900, 0xfdcf), (0xfdf0, 0xfffd), (0x10000, 0xeffff)]

/-- The ranges of characters that may be part of a name but not begin it. -/
def nameRestRanges : List (Nat × Nat) := [
  (0x2d, 0x2e), (0x30, 0x39), (0xb7, 0xb7), (0x300, 0x36f), (0x203f, 0x2040)]

/-- May the character begin a name? -/
def isNameStart (c : Char) : Bool := Text.inRanges nameStartRanges c

/-- May the character be part of a name? -/
def isNameChar (c : Char) : Bool := isNameStart c || Text.inRanges nameRestRanges c

/-! ### References -/

/-- The value of a hexadecimal digit. -/
def hexDigit? (c : Char) : Option Nat :=
  if Text.isAsciiDigit c then some (c.toNat - '0'.toNat)
  else if 'a' ≤ c && c ≤ 'f' then some (c.toNat - 'a'.toNat + 10)
  else if 'A' ≤ c && c ≤ 'F' then some (c.toNat - 'A'.toNat + 10)
  else none

/-- The number that a run of hexadecimal digits denotes. -/
def hexNumber? (digits : List Char) : Option Nat :=
  if digits.isEmpty then none
  else digits.foldl (fun n c => n.bind fun n => (hexDigit? c).map (16 * n + ·)) (some 0)

/-- The number that a run of decimal digits denotes. -/
def decimalNumber? (digits : List Char) : Option Nat :=
  if digits.isEmpty || !digits.all Text.isAsciiDigit then none else some (Text.numberOf digits)

/-- The character with a given code point, if a text may hold it. -/
def charOfCode? (v : Version) (n : Nat) : Option Char :=
  if n.isValidChar ∧ v.allows (Char.ofNat n) then some (Char.ofNat n) else none

/-- The character that a reference stands for, given what is between the ampersand and the
semicolon. -/
def reference? (v : Version) (body : List Char) : Option Char :=
  match body with
  | ['l', 't'] => some '<'
  | ['g', 't'] => some '>'
  | ['a', 'm', 'p'] => some '&'
  | ['a', 'p', 'o', 's'] => some '\''
  | ['q', 'u', 'o', 't'] => some '"'
  | '#' :: 'x' :: digits => (hexNumber? digits).bind (charOfCode? v)
  | '#' :: digits => (decimalNumber? digits).bind (charOfCode? v)
  | _ => none

/-- A text with its references replaced, if all can be and every other character may stand in it;
`pending` is the reference that is being read, newest character first. -/
def decode? (v : Version) : (pending : Option (List Char)) → List Char → Option (List Char)
  | none, [] => some []
  | some _, [] => none
  | none, c :: r =>
    if c = '&' then decode? v (some []) r
    else if v.admits c then (decode? v none r).map (c :: ·)
    else none
  | some body, c :: r =>
    if c = ';' then
      match reference? v body.reverse with
      | some ref => (decode? v none r).map (ref :: ·)
      | none => none
    else decode? v (some (c :: body)) r

end LayerStencil.Xml
