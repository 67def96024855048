import LayerStencil.Condition.Parse
import LayerStencil.Model.Kind
import LayerStencil.Template.Marker

/-! # Templates

A template is a stencil text with its markers matched into a forest of controls. Opening and closing
markers must nest, a closing marker must name what it closes, and every tag and every condition must
be known; `Template.parse` reports the first marker that breaks this.
-/

namespace LayerStencil

/-- An opening marker with the closing marker that matches it, and the controls between them. -/
inductive Control where
  | node (kind : ControlKind) (condition : Option Condition) (opening closing : Marker)
    (line : Nat) (children : List Control)
deriving Repr, Inhabited

namespace Control

/-- What the control does. -/
def kind : Control → ControlKind
  | node kind .. => kind

/-- The condition under which an item of the control is kept. -/
def condition : Control → Option Condition
  | node _ condition .. => condition

/-- The marker that opens the control. -/
def opening : Control → Marker
  | node _ _ opening .. => opening

/-- The marker that closes the control. -/
def closing : Control → Marker
  | node _ _ _ closing .. => closing

/-- The line, counted from 1, on which the opening marker stands. -/
def line : Control → Nat
  | node _ _ _ _ line _ => line

/-- The controls inside the control. -/
def children : Control → List Control
  | node _ _ _ _ _ children => children

mutual

/-- The control and all controls inside it, each before those inside it. -/
def walk : Control → List Control
  | node kind condition opening closing line children =>
    node kind condition opening closing line children :: walkAll children

/-- The walks of all controls of a list. -/
def walkAll : List Control → List Control
  | [] => []
  | c :: cs => c.walk ++ walkAll cs

end

end Control

/-- Why the markers of a text form no template. -/
inductive ParseError where
  /-- A closing marker names something else than what it closes. -/
  | mismatched (expected : ControlKind) (found : String) (line opened : Nat)
  /-- A closing marker with nothing to close. -/
  | unexpectedEnd (found : String) (line : Nat)
  /-- The innermost control still open at the end. -/
  | unclosed (kind : ControlKind) (line : Nat)
  | unknownKind (tag : String) (line : Nat)
  | condition (text : List Char) (line : Nat)
deriving DecidableEq, Repr

/-- The message of a text that is no template. -/
def ParseError.message : ParseError → String
  | mismatched expected found line opened =>
    "line " ++ Text.decimal line ++ ": `@end " ++ found ++ "` closes `" ++ expected.tag ++
      "` opened at line " ++ Text.decimal opened
  | unexpectedEnd found line =>
    "line " ++ Text.decimal line ++ ": `@end " ++ found ++ "` has no matching open directive"
  | unclosed kind line =>
    "line " ++ Text.decimal line ++ ": `" ++ kind.tag ++ "` is never closed"
  | unknownKind tag line =>
    "line " ++ Text.decimal line ++ ": unknown directive kind `" ++ tag ++ "`"
  | condition text line =>
    "line " ++ Text.decimal line ++ ": invalid condition " ++ String.ofList text

/-- A stencil text with the forest of its controls. -/
structure Template where
  text : List Char
  controls : List Control
deriving Repr, Inhabited

namespace Template

/-- A control whose closing marker has not been read yet. -/
structure Frame where
  kind : ControlKind
  condition : Option Condition
  opening : Marker
  line : Nat
  /-- The controls read inside it so far, oldest first. -/
  children : List Control
deriving Repr, Inhabited

/-- The control of a frame with its closing marker. -/
def Frame.close (f : Frame) (closing : Marker) : Control :=
  .node f.kind f.condition f.opening closing f.line f.children

/-- The frame that an opening marker starts. -/
def Frame.open? (tag : String) (condition : Option (List Char)) (m : Marker) (line : Nat) :
    Except ParseError Frame :=
  match ControlKind.ofTag? tag with
  | none => .error (.unknownKind tag line)
  | some kind =>
    match condition with
    | none => .ok ⟨kind, none, m, line, []⟩
    | some text =>
      match Condition.parse? text with
      | none => .error (.condition text line)
      | some c => .ok ⟨kind, some c, m, line, []⟩

/-- The forest of a sequence of markers, where `stack` holds the open frames, innermost first, and
`done` the controls outside all of them. -/
def nest (text : List Char) :
    (stack : List Frame) → (done : List Control) → List Marker → Except ParseError (List Control)
  | [], done, [] => .ok done
  | f :: _, _, [] => .error (.unclosed f.kind f.line)
  | stack, done, m :: ms =>
    let line := Text.lineAt text m.sign
    match m.mark with
    | .opens tag condition =>
      match Frame.open? tag condition m line with
      | .error e => .error e
      | .ok f => nest text (f :: stack) done ms
    | .closes tag =>
      match stack with
      | [] => .error (.unexpectedEnd tag line)
      | f :: stack =>
        if f.kind.tag = tag then
          match stack with
          | [] => nest text [] (done ++ [f.close m]) ms
          | g :: stack =>
            nest text ({ g with children := g.children ++ [f.close m] } :: stack) done ms
        else .error (.mismatched f.kind tag line f.line)

/-- The template that a text spells. -/
def parse (text : List Char) : Except ParseError Template :=
  match nest text [] [] (Marker.scan text) with
  | .error e => .error e
  | .ok controls => .ok ⟨text, controls⟩

/-- All controls, each before those inside it. -/
def walk (t : Template) : List Control := Control.walkAll t.controls

end Template

end LayerStencil
