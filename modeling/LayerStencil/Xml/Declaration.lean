import LayerStencil.Xml.Tag

/-! # The declaration of an XML text

A text may begin with a declaration of its version, of how its characters are encoded, and of
whether it stands alone. A mark of the byte order may come before it, and settles the encoding.
-/

namespace LayerStencil.Xml

/-- How the bytes of a text stand for its characters. -/
inductive Encoding where
  | utf8
  /-- Each byte is the character with its number. -/
  | latin1
  /-- No byte is above 127. -/
  | ascii
deriving DecidableEq, Repr

namespace Encoding

/-- The labels of the encodings, the ones that are tried first in front. -/
def labels : List (String × Encoding) := [
  ("utf-8", utf8), ("utf8", utf8), ("iso-8859-1", latin1), ("latin1", latin1),
  ("ascii", ascii), ("us-ascii", ascii)]

/-- Does a name agree with a label, in letters of either case, as far as the shorter of the two
goes? -/
def agrees (name label : String) : Bool :=
  (name.toList.zip label.toList).all fun (c, d) => c.toLower = d

/-- The encoding with a given name: that of the first label with which the name agrees. A name may
so be cut short or go on after the label, and an empty name is one of UTF-8. -/
def ofName? (name : String) : Option Encoding :=
  (labels.find? fun (label, _) => agrees name label).map Prod.snd

/-- What a text in UTF-8 reads in another encoding, up to the first byte that has no meaning. -/
def reread : Encoding → List Char → List Char
  | utf8, cs => cs
  | latin1, cs => cs.flatMap fun c => (String.utf8EncodeChar c).map fun b => Char.ofNat b.toNat
  | ascii, cs => cs.takeWhile (·.toNat < 0x80)

end Encoding

/-- How a declaration ends. -/
def declarationEnd? : List Char → Option (Unit × List Char)
  | '?' :: '>' :: rest => some ((), rest)
  | _ => none

/-- The encoding that a declaration gives after the version: it comes before the field that says
whether the text stands alone, and both may be missing. -/
def declaredEncoding? (fields : List Attribute) : Option Encoding :=
  match fields with
  | [] => some .utf8
  | [⟨⟨none, "standalone"⟩, answer⟩] =>
    if answer = "yes" ∨ answer = "no" then some .utf8 else none
  | [⟨⟨none, "encoding"⟩, name⟩] => Encoding.ofName? name
  | [⟨⟨none, "encoding"⟩, name⟩, ⟨⟨none, "standalone"⟩, answer⟩] =>
    if answer = "yes" ∨ answer = "no" then Encoding.ofName? name else none
  | _ => none

/-- The version and the encoding that a declaration gives, read after its opening, and what
follows it. -/
def declaration? (cs : List Char) : Option (Version × Encoding × List Char) := do
  let (fields, _, rest) ← attributes? .one declarationEnd? 4 cs
  match fields with
  | ⟨⟨none, "version"⟩, number⟩ :: fields =>
    return (← Version.ofNumber? number, ← declaredEncoding? fields, rest)
  | _ => none

/-- The text after a mark of the byte order, if there is one. -/
def afterMark? : List Char → Option (List Char)
  | '\uFEFF' :: cs => some cs
  | _ => none

/-- The version of a text and its body, read as the declaration says; none if the declaration is
wrong or contradicts the mark of the byte order. -/
def body? (cs : List Char) : Option (Version × List Char) :=
  let text := (afterMark? cs).getD cs
  match text with
  | '<' :: '?' :: 'x' :: 'm' :: 'l' :: c :: r =>
    if Text.isBlank c then do
      let (version, encoding, rest) ← declaration? (c :: r)
      if (afterMark? cs).isSome ∧ encoding ≠ .utf8 then none
      else return (version, encoding.reread rest)
    else some (.one, text)
  | _ => some (.one, text)

end LayerStencil.Xml
