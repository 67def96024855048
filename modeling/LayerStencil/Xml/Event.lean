import LayerStencil.Xml.Declaration

/-! # Events of XML

An XML text is read as a sequence of events: elements that start and end, and the text between.
Comments, processing instructions and marked sections are passed over; a comment does not part the
text around it, the others do. Reading ends at the first point that is not well formed, or at the
end of the text; text that no further markup follows is not an event.
-/

namespace LayerStencil.Xml

/-- An event of an XML text. -/
inductive Event where
  /-- An element starts; its name and its attributes come without prefixes. -/
  | start (name : String) (attributes : List (String × String))
  /-- The innermost open element ends. -/
  | stop
  /-- Text that is not empty. -/
  | text (s : List Char)
deriving DecidableEq, Repr

/-- An element that is open: its name and the prefixes that are bound in it. -/
structure OpenElement where
  name : Name
  bound : List String
deriving DecidableEq, Repr

/-! ### Text -/

/-- The end of a marked section, which may not stand in a text. -/
def sectionEnd : List Char := [']', ']', '>']

/-- The text before the next opening bracket, decoded, and what follows the bracket. Outside of all
elements there is only white space, which counts for nothing. -/
def textBefore? (v : Version) (isInside : Bool) (cs : List Char) :
    Option (List Char × List Char) :=
  match cs.takeWhile (· ≠ '<'), cs.dropWhile (· ≠ '<') with
  | text, _ :: rest =>
    if isInside then
      if Text.occursIn sectionEnd text then none
      else (decode? v none text).map fun text => (text, rest)
    else if text.all Text.isBlank then some ([], rest)
    else none
  | _, [] => none

/-- The events of a text. -/
def textEvents (s : List Char) : List Event := if s.isEmpty then [] else [.text s]

/-! ### Markup -/

/-- What follows the end of a comment, in which no two hyphens stand together. -/
def commentEnd? (v : Version) : List Char → Option (List Char)
  | '-' :: '-' :: '>' :: rest => some rest
  | '-' :: '-' :: _ => none
  | c :: r => if v.allows c then commentEnd? v r else none
  | [] => none

/-- What follows the end of a processing instruction. -/
def instructionEnd? (v : Version) : List Char → Option (List Char)
  | '?' :: '>' :: rest => some rest
  | c :: r => if v.allows c then instructionEnd? v r else none
  | [] => none

/-- What follows a processing instruction, read after its question mark. -/
def instruction? (v : Version) (cs : List Char) : Option (List Char) := do
  let (target, r) ← nameChars? cs
  if (String.ofList target).toLower = "xml" then none
  else match r with
    | '?' :: '>' :: rest => some rest
    | c :: r => if Text.isBlank c then instructionEnd? v r else none
    | [] => none

/-- What follows the end of a marked section. -/
def sectionEnd? (v : Version) : List Char → Option (List Char)
  | ']' :: ']' :: '>' :: rest => some rest
  | c :: r => if v.allows c then sectionEnd? v r else none
  | [] => none

/-- The start of a marked section, after its bracket. -/
def sectionStart : List Char := ['!', '[', 'C', 'D', 'A', 'T', 'A', '[']

/-- Does what follows an opening bracket part the text before it from the text after? -/
def partsText (cs : List Char) : Bool :=
  match cs with
  | [] => false
  | c :: _ =>
    c = '/' || c = '?' || Text.isBlank c || isNameChar c || sectionStart.isPrefixOf cs

/-- The events of a tag, an instruction or a section, read after the opening bracket, with the
elements that are open after it and what follows it. Innermost elements come first, and `n` bounds
the number of attributes. -/
def markup? (v : Version) (n : Nat) (opened : List OpenElement) (cs : List Char) :
    Option (List Event × List OpenElement × List Char) :=
  match cs with
  | '/' :: r => do
    let (name, rest) ← closingTag? r
    match opened with
    | e :: outer => if name = e.name then return ([.stop], outer, rest) else none
    | [] => none
  | '?' :: r => (instruction? v r).map fun rest => ([], opened, rest)
  | _ =>
    match Text.after? sectionStart cs with
    | some r =>
      if opened.isEmpty then none else (sectionEnd? v r).map fun rest => ([], opened, rest)
    | none => do
      let bound := (opened.head?.map (·.bound)).getD predefined
      let (tag, rest) ← openingTag? v n bound cs
      let start := Event.start tag.name.base (tag.attributes.map fun a => (a.name.base, a.value))
      if tag.isEmpty then return ([start, .stop], opened, rest)
      else return ([start], ⟨tag.name, tag.bound⟩ :: opened, rest)

/-! ### Reading -/

/-- The events of a text up to the first point that is not well formed, where some elements are
open, `pending` is text that is not yet an event, and `n` bounds the number of pieces. -/
def eventsFrom (v : Version) :
    (n : Nat) → (opened : List OpenElement) → (pending : List Char) → List Char → List Event
  | 0, _, _, _ => []
  | n + 1, opened, pending, cs =>
    match textBefore? v (!opened.isEmpty) cs with
    | none => []
    | some (text, '!' :: '-' :: '-' :: r) =>
      match commentEnd? v r with
      | some rest => eventsFrom v n opened (pending ++ text) rest
      | none => []
    | some (text, r) =>
      if partsText r then
        textEvents (pending ++ text) ++
          match markup? v (n + 1) opened r with
          | some (events, opened, rest) => events ++ eventsFrom v n opened [] rest
          | none => []
      else []

/-- The events of a text up to the first point that is not well formed. -/
def events (cs : List Char) : List Event :=
  match body? cs with
  | some (v, body) => eventsFrom v body.length [] [] body
  | none => []

end LayerStencil.Xml
