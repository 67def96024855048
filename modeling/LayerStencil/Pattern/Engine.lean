import LayerStencil.Pattern.Match
import LayerStencil.Pattern.Parse

/-! # Engines for patterns

An engine compiles written patterns and finds matches with them. What is done with patterns is
written over any engine. `Pattern.engine` is one for the patterns of `Pattern.parse?`: it refuses
what it does not know.
-/

namespace LayerStencil

/-- Something that compiles written patterns and finds matches with them. -/
structure PatternEngine where
  /-- Compiled patterns. -/
  Compiled : Type
  /-- The pattern that a text spells, if it is one and is not too much for the engine. -/
  compile? : List Char → Option Compiled
  /-- Does some part of the subject match? -/
  isMatch : Compiled → (subject : List Char) → Bool

/-- The engine that marks the characters of a pattern. -/
def Pattern.engine : PatternEngine where
  Compiled := Pattern
  compile? := Pattern.parse?
  isMatch := Pattern.isMatch

end LayerStencil
