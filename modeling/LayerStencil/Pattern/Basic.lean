import LayerStencil.Text.Classes

/-! # Patterns

A pattern is a regular expression over characters with anchors at the two ends of the subject. What
it matches is said by `Pattern.isMatch`, which reads the subject once.
-/

namespace LayerStencil

/-- A part of a class of characters. -/
inductive ClassItem where
  | range (first last : Char)
  /-- The decimal digits of all scripts. -/
  | digit
  /-- The word characters of all scripts. -/
  | word
deriving DecidableEq, Repr

/-- Does a part of a class hold a character? -/
def ClassItem.has : ClassItem → Char → Bool
  | range first last, c => first ≤ c && c ≤ last
  | digit, c => Text.isDecimalDigit c
  | word, c => Text.isWordChar c

/-- A set of characters: those in some part, or, negated, those in none. -/
structure CharClass where
  isNegated : Bool
  items : List ClassItem
deriving DecidableEq, Repr

/-- Does a class hold a character? -/
def CharClass.has (s : CharClass) (c : Char) : Bool := (s.items.any (·.has c)) != s.isNegated

/-- A regular expression. -/
inductive Pattern where
  | empty
  | char (s : CharClass)
  | seq (a b : Pattern)
  | alt (a b : Pattern)
  /-- At least `low` and at most `high` times, or any larger number of times. -/
  | repeated (a : Pattern) (low : Nat) (high : Option Nat)
  /-- The start of the subject. -/
  | start
  /-- The end of the subject. -/
  | stop
deriving DecidableEq, Repr

end LayerStencil
