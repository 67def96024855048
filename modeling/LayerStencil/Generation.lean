import LayerStencil.Target.Basic
import LayerStencil.Template.Statistics

/-! # Generation

Generating a target reads its stencil as a template, expands the template over a model, and guards
the text if the target is a header that is to be protected.
-/

namespace LayerStencil

/-- Why a target cannot be generated from a model. -/
inductive GenerationError where
  | template (cause : ParseError)
  | expansion (cause : ExpandError)
deriving DecidableEq, Repr

/-- The message of a failed generation. -/
def GenerationError.message : GenerationError → String
  | template cause => "template: " ++ cause.message
  | expansion cause => "expansion: " ++ cause.message

/-- The text that a stencil text expands to over a model. -/
def Template.render (m : Model) (text : List Char) : Except GenerationError (List Char) :=
  match parse text with
  | .error e => .error (.template e)
  | .ok t =>
    match t.expand m with
    | .error e => .error (.expansion e)
    | .ok events => .ok (Event.printAll events)

/-- A file with its text, and the statistics of the expansion that gave it. -/
structure Generated where
  filename : String
  text : List Char
  statistics : List Tally
deriving DecidableEq, Repr

/-- The text of a target whose stencil expands to `body`. -/
def Target.finish (isProtected : Bool) (t : Target) (body : List Char) : List Char :=
  if t.isHeader && isProtected then t.guardText body else body

/-- The file of a target for a model; a header is guarded if it is protected. -/
def Target.generate (m : Model) (isProtected : Bool) (t : Target) :
    Except GenerationError Generated :=
  match Template.parse t.stencil with
  | .error e => .error (.template e)
  | .ok template =>
    match template.expand m with
    | .error e => .error (.expansion e)
    | .ok events =>
      .ok ⟨t.filename, t.finish isProtected (Event.printAll events), Event.statistics events⟩

end LayerStencil
