import LayerStencil.Xml.Character

/-! # Tags of XML

What stands between angle brackets: names, attributes with their values, and tags that open and
close elements. A name may have a prefix before a colon, which an attribute of the element or of
one around it binds.
-/

namespace LayerStencil.Xml

/-! ### Names -/

/-- A name, with the prefix before its colon. -/
structure Name where
  space : Option String
  base : String
deriving DecidableEq, Repr

/-- The name that is written with given characters: at most one colon, and something on both sides
of it. -/
def Name.ofChars? (cs : List Char) : Option Name :=
  match cs.splitOn ':' with
  | [base] => if base.isEmpty then none else some ⟨none, String.ofList base⟩
  | [space, base] =>
    if space.isEmpty || base.isEmpty then none
    else some ⟨some (String.ofList space), String.ofList base⟩
  | _ => none

/-- The characters of a name at the start of a text, and what follows them. -/
def nameChars? (cs : List Char) : Option (List Char × List Char) :=
  match cs with
  | [] => none
  | c :: r =>
    if isNameStart c then some (c :: r.takeWhile isNameChar, r.dropWhile isNameChar) else none

/-- The name at the start of a text, and what follows it. -/
def name? (cs : List Char) : Option (Name × List Char) := do
  let (name, r) ← nameChars? cs
  return (← Name.ofChars? name, r)

/-! ### Attributes -/

/-- A name with a value. -/
structure Attribute where
  name : Name
  value : String
deriving DecidableEq, Repr

/-- A text without the white space at its start. -/
def skipSpace (cs : List Char) : List Char := cs.dropWhile Text.isBlank

/-- Does every opening angle bracket stand before a slash? No others may stand in a value. -/
def hasNoMarkup : List Char → Bool
  | '<' :: '/' :: r => hasNoMarkup r
  | c :: r => c ≠ '<' && hasNoMarkup r
  | [] => true

/-- A value between quotes at the start of a text, and what follows it. -/
def attributeValue? (v : Version) (cs : List Char) : Option (String × List Char) :=
  match cs with
  | [] => none
  | quote :: r =>
    if quote = '"' ∨ quote = '\'' then
      match r.takeWhile (· ≠ quote), r.dropWhile (· ≠ quote) with
      | body, _ :: rest =>
        if hasNoMarkup body then
          (decode? v none body).map fun value => (String.ofList value, rest)
        else none
      | _, [] => none
    else none

/-- An attribute at the start of a text, and what follows it. -/
def attribute? (v : Version) (cs : List Char) : Option (Attribute × List Char) := do
  let (name, r) ← name? cs
  match skipSpace r with
  | '=' :: r =>
    let (value, rest) ← attributeValue? v (skipSpace r)
    return (⟨name, value⟩, rest)
  | _ => none

/-- The attributes at the start of a text, each after white space, up to an ending that `ending?`
recognizes, with the ending and what follows it; `n` bounds their number. -/
def attributes? {α : Type} (v : Version) (ending? : List Char → Option (α × List Char)) :
    (n : Nat) → List Char → Option (List Attribute × α × List Char)
  | 0, _ => none
  | n + 1, cs =>
    match ending? (skipSpace cs) with
    | some (e, rest) => some ([], e, rest)
    | none =>
      if (cs.head?.map Text.isBlank).getD false then do
        let (a, r) ← attribute? v (skipSpace cs)
        let (as, e, rest) ← attributes? v ending? n r
        return (a :: as, e, rest)
      else none

/-! ### Bound prefixes -/

/-- The prefixes that are bound in every text. -/
def predefined : List String := ["xml", "xmlns"]

/-- Does an attribute bind a prefix or name the space of names without one? -/
def Attribute.isBinding (a : Attribute) : Bool :=
  a.name.space = some "xmlns" || a.name = ⟨none, "xmlns"⟩

/-- May an attribute stand where it does, as far as it binds a prefix? The predefined ones are not
bound anew, and a prefix stands for something. -/
def Attribute.isSound (a : Attribute) : Bool :=
  if a.name.space = some "xmlns" then !predefined.contains a.name.base && a.value ≠ ""
  else if a.name = ⟨none, "xmlns"⟩ then !predefined.contains a.value
  else true

/-- Is the prefix of a name, if it has one, among the bound ones? -/
def Name.isBound (bound : List String) (name : Name) : Bool :=
  match name.space with
  | some space => bound.contains space
  | none => true

/-- The prefixes that some attributes bind, before those that are bound already. -/
def boundBy (attributes : List Attribute) (bound : List String) : List String :=
  attributes.foldl (fun bound a =>
    if a.name.space = some "xmlns" then a.name.base :: bound else bound) bound

/-! ### Tags -/

/-- A tag that opens an element: its name, its attributes, the prefixes that are bound in the
element, and whether the element also ends here. -/
structure OpeningTag where
  name : Name
  attributes : List Attribute
  bound : List String
  isEmpty : Bool
deriving DecidableEq, Repr

/-- How an opening tag ends. -/
def tagEnd? : List Char → Option (Bool × List Char)
  | '>' :: rest => some (false, rest)
  | '/' :: '>' :: rest => some (true, rest)
  | _ => none

/-- The opening tag that a text begins with, read after its bracket, and what follows it; some
prefixes are `bound` already, and `n` bounds the number of attributes. No attribute has the name of
another. -/
def openingTag? (v : Version) (n : Nat) (bound : List String) (cs : List Char) :
    Option (OpeningTag × List Char) := do
  let (name, r) ← name? cs
  let (written, isEmpty, rest) ← attributes? v tagEnd? n r
  let attributes := written.filter fun a => !a.isBinding
  let bound := boundBy written bound
  let names := name :: attributes.map (·.name)
  if written.all (·.isSound) && names.all (·.isBound bound) && !predefined.any (name.space = some ·)
      && decide (attributes.map (·.name)).Nodup then
    return (⟨name, attributes, bound, isEmpty⟩, rest)
  else none

/-- The name in a closing tag that a text begins with, read after its slash, and what follows. -/
def closingTag? (cs : List Char) : Option (Name × List Char) := do
  let (name, r) ← name? cs
  match skipSpace r with
  | '>' :: rest => some (name, rest)
  | _ => none

end LayerStencil.Xml
