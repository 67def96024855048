import LayerStencil.Text.Classes

/-! # Targets

A target is a file that can be generated: its name, the name of the file, and the stencil that gives
its text. A header is guarded against being included twice by a macro that is named for the file.
-/

namespace LayerStencil

/-- A file that can be generated. -/
structure Target where
  name : String
  filename : String
  /-- The text of the stencil. -/
  stencil : List Char
  isHeader : Bool
deriving DecidableEq, Repr

namespace Target

/-- The text that a list of fragments spells. -/
def textOf (fragments : List String) : List Char := fragments.flatMap String.toList

@[simp] theorem textOf_append (fs gs : List String) :
    textOf (fs ++ gs) = textOf fs ++ textOf gs := by
  simp [textOf]

/-- Names in quotes, with a gap between any two. -/
def quotedNames (gap : String) : List String → List String
  | [] => []
  | [name] => ["'", name, "'"]
  | name :: next :: rest => ["'", name, "'", gap] ++ quotedNames gap (next :: rest)

/-- The character that stands for another one in the name of a macro. -/
def macroChar (c : Char) : Char := if Text.isAsciiAlphanumeric c then c.toUpper else '_'

/-- The name of the macro that guards a header. -/
def includeGuard (t : Target) : String := String.ofList (t.filename.toList.map macroChar ++ ['_'])

/-- The text of a header between the lines of its guard. -/
def guardText (t : Target) (body : List Char) : List Char :=
  textOf ["#ifndef ", t.includeGuard, "\n#define ", t.includeGuard, " 1\n\n"] ++ body ++
    textOf ["\n#endif // ", t.includeGuard, "\n"]

end Target

end LayerStencil
