import LayerStencil.Text.Basic
import LayerStencil.Text.Classes

/-! # Markers of a stencil text

A marker opens a loop (`@foreach kind`, perhaps with a condition after `where`), opens a conditional
part (`@if`), or closes either (`@end word`). It has a line form, which stands alone on its line and
takes the white space around it up to the last line break that follows, and an inline form, which
takes nothing but its own characters. A condition ends at the last closing parenthesis of its line
after which the marker can end.

`Marker.scan` finds all markers in order. Markers of one of the three families never overlap;
markers of different families are looked for independently.
-/

namespace LayerStencil

/-- What a marker says. -/
inductive Mark where
  | opens (tag : String) (condition : Option (List Char))
  | closes (tag : String)
deriving DecidableEq, Repr, Inhabited

/-- A marker with its place in the text, in characters. -/
structure Marker where
  /-- The first position of the marker. -/
  start : Nat
  /-- The position after the marker. -/
  stop : Nat
  /-- The position of its at sign. -/
  sign : Nat
  mark : Mark
deriving DecidableEq, Repr, Inhabited

namespace Marker

/-! ### How a marker ends -/

/-- What follows the last line break of the white space at the start of a text. -/
def lineEnd? : List Char → Option (List Char)
  | [] => none
  | c :: r =>
    if Text.isWhiteSpace c then
      match lineEnd? r with
      | some rest => some rest
      | none => if c = '\n' then some r else none
    else none

/-- Does a word character start the text? -/
def startsWord : List Char → Bool
  | [] => false
  | c :: _ => Text.isWordChar c

/-- The text itself if it does not go on with a word character, as after a whole word. -/
def wordEnd? (cs : List Char) : Option (List Char) := if startsWord cs then none else some cs

/-- The text itself if it starts with a word character, as at a boundary after a parenthesis. -/
def wordStart? (cs : List Char) : Option (List Char) := if startsWord cs then some cs else none

/-! ### What stands between the word of a marker and its end -/

/-- What follows one or more characters of white space. -/
def blanks? : List Char → Option (List Char)
  | [] => none
  | c :: r => if Text.isWhiteSpace c then some (r.dropWhile Text.isWhiteSpace) else none

/-- What follows a single space. -/
def space? : List Char → Option (List Char)
  | ' ' :: r => some r
  | _ => none

/-- The lower case word at the start of a text, and what follows it. -/
def tag? (cs : List Char) : Option (String × List Char) :=
  match cs.takeWhile Text.isAsciiLower with
  | [] => none
  | tag => some (String.ofList tag, cs.dropWhile Text.isAsciiLower)

/-- The characters up to the last closing parenthesis of the line after which `ends` succeeds, and
what is left then. -/
def condition? (ends : List Char → Option (List Char)) :
    List Char → Option (List Char × List Char)
  | [] => none
  | c :: r =>
    if c = '\n' then none
    else
      match condition? ends r with
      | some (cond, rest) => some (c :: cond, rest)
      | none => if c = ')' then (ends r).map fun rest => ([], rest) else none

/-- The condition after `where`, which white space precedes, and what is left. -/
def where? (ends : List Char → Option (List Char)) (cs : List Char) :
    Option (List Char × List Char) := do
  let r ← blanks? cs
  let r ← Text.after? ['w', 'h', 'e', 'r', 'e', '('] r
  condition? ends r

/-! ### Forms of markers -/

/-- The three words that start a marker. -/
inductive Family where
  | loop
  | cond
  | close
deriving DecidableEq, Repr

/-- A loop marker at the start of a text, given how its word is set off from the tag, how the marker
ends after the tag and how after a condition. A condition after which it cannot end is no part of
it. -/
def loop? (gap endsTag endsCondition : List Char → Option (List Char)) (cs : List Char) :
    Option (Mark × List Char) := do
  let r ← Text.after? ['@', 'f', 'o', 'r', 'e', 'a', 'c', 'h'] cs
  let r ← gap r
  let (tag, r) ← tag? r
  match where? endsCondition r with
  | some (cond, rest) => some (.opens tag (some cond), rest)
  | none => (endsTag r).map fun rest => (.opens tag none, rest)

/-- A conditional marker at the start of a text, given how it ends. -/
def cond? (ends : List Char → Option (List Char)) (cs : List Char) : Option (Mark × List Char) := do
  let r ← Text.after? ['@', 'i', 'f', '('] cs
  let (cond, rest) ← condition? ends r
  return (.opens "if" (some cond), rest)

/-- A closing marker at the start of a text, given how its word is set off and how it ends. -/
def close? (gap ends : List Char → Option (List Char)) (cs : List Char) :
    Option (Mark × List Char) := do
  let r ← Text.after? ['@', 'e', 'n', 'd'] cs
  let r ← gap r
  let (tag, r) ← tag? r
  let rest ← ends r
  return (.closes tag, rest)

/-- The line form of a family, from its at sign on. -/
def Family.line? : Family → List Char → Option (Mark × List Char)
  | loop => loop? blanks? lineEnd? lineEnd?
  | cond => cond? lineEnd?
  | close => close? blanks? lineEnd?

/-- The inline form of a family. -/
def Family.inline? : Family → List Char → Option (Mark × List Char)
  | loop => loop? space? wordEnd? wordStart?
  | cond => cond? some
  | close => close? space? wordEnd?

/-- The marker of a family at the start of the text `cs`, which starts at position `i`: the line
form if a line begins there, with the white space before its sign, and else the inline form. -/
def Family.marker? (family : Family) (lineStart : Bool) (i : Nat) (cs : List Char) :
    Option Marker :=
  let body := cs.dropWhile Text.isWhiteSpace
  match if lineStart then family.line? body else none with
  | some (mark, rest) =>
    some ⟨i, i + (cs.length - rest.length), i + (cs.length - body.length), mark⟩
  | none =>
    match family.inline? cs with
    | some (mark, rest) => some ⟨i, i + (cs.length - rest.length), i, mark⟩
    | none => none

/-! ### Finding all markers -/

/-- Up to which position each family has found its markers. -/
structure Progress where
  loop : Nat
  cond : Nat
  close : Nat
deriving DecidableEq, Repr

/-- The position from which a family looks on. -/
def Progress.of (p : Progress) : Family → Nat
  | .loop => p.loop
  | .cond => p.cond
  | .close => p.close

/-- The progress after a family has found a marker that ends at `stop`. -/
def Progress.advance (p : Progress) (stop : Nat) : Family → Progress
  | .loop => { p with loop := stop }
  | .cond => { p with cond := stop }
  | .close => { p with close := stop }

/-- The marker of a family at position `i`, unless the last one of the family reaches beyond it. -/
def Progress.marker? (p : Progress) (family : Family) (lineStart : Bool) (i : Nat)
    (cs : List Char) : Option Marker :=
  if p.of family ≤ i then family.marker? lineStart i cs else none

/-- The marker at position `i` and its family, with the progress after it. -/
def Progress.next? (p : Progress) (lineStart : Bool) (i : Nat) (cs : List Char) :
    Option (Marker × Progress) :=
  [Family.loop, Family.cond, Family.close].findSome? fun family =>
    (p.marker? family lineStart i cs).map fun m => (m, p.advance m.stop family)

/-- The markers that start in the text `cs`, which starts at position `i`. -/
def scanFrom (p : Progress) (lineStart : Bool) (i : Nat) : List Char → List Marker
  | [] => []
  | c :: r =>
    match p.next? lineStart i (c :: r) with
    | some (m, p') => m :: scanFrom p' (c = '\n') (i + 1) r
    | none => scanFrom p (c = '\n') (i + 1) r

/-- All markers of a text, in the order in which they start. -/
def scan (text : List Char) : List Marker := scanFrom ⟨0, 0, 0⟩ true 0 text

end Marker

end LayerStencil
