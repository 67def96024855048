import LayerStencil.Pattern.Basic

/-! # Matching patterns

A subject is matched by marking the characters of a pattern that a match may just have read. Each
character of the subject moves the marks on, and a match ends where a mark stands at the end of the
pattern. No more than the marks has to be known, so one reading of the subject finds whether some
part of it matches.
-/

namespace LayerStencil

/-- A pattern in which repetitions with bounds are written out and some characters are marked. -/
inductive MarkedPattern where
  | empty
  | char (s : CharClass) (isMarked : Bool)
  | seq (a b : MarkedPattern)
  | alt (a b : MarkedPattern)
  /-- Any number of times. -/
  | star (a : MarkedPattern)
  /-- The start of the subject. -/
  | start
  /-- The end of the subject. -/
  | stop
deriving DecidableEq, Repr

namespace MarkedPattern

/-- At most `n` times in a row. -/
def atMost (a : MarkedPattern) : Nat → MarkedPattern
  | 0 => empty
  | n + 1 => alt empty (seq a (atMost a n))

/-- A number of times in a row, and something after them. -/
def times (a : MarkedPattern) : Nat → (after : MarkedPattern) → MarkedPattern
  | 0, after => after
  | n + 1, after => seq a (times a n after)

/-- A pattern without marks. -/
def ofPattern : Pattern → MarkedPattern
  | .empty => empty
  | .char s => char s false
  | .seq a b => seq (ofPattern a) (ofPattern b)
  | .alt a b => alt (ofPattern a) (ofPattern b)
  | .repeated a low none => times (ofPattern a) low (star (ofPattern a))
  | .repeated a low (some high) => times (ofPattern a) low (atMost (ofPattern a) (high - low))
  | .start => start
  | .stop => stop

/-- May the pattern match nothing, at a place that may be at the start or at the end of the
subject? -/
def matchesNothing (atStart atEnd : Bool) : MarkedPattern → Bool
  | empty => true
  | char _ _ => false
  | seq a b => matchesNothing atStart atEnd a && matchesNothing atStart atEnd b
  | alt a b => matchesNothing atStart atEnd a || matchesNothing atStart atEnd b
  | star _ => true
  | start => atStart
  | stop => atEnd

/-- May a match end at a place after some character, where the marks stand now? -/
def endsHere (atEnd : Bool) : MarkedPattern → Bool
  | empty => false
  | char _ isMarked => isMarked
  | seq a b => (endsHere atEnd a && matchesNothing false atEnd b) || endsHere atEnd b
  | alt a b => endsHere atEnd a || endsHere atEnd b
  | star a => endsHere atEnd a
  | start => false
  | stop => false

/-- The marks after the next character `c`, where `isBegun` says whether a match may begin before
it. -/
def advance (atStart : Bool) (c : Char) : (isBegun : Bool) → MarkedPattern → MarkedPattern
  | _, empty => empty
  | isBegun, char s _ => char s (isBegun && s.has c)
  | isBegun, seq a b =>
    seq (advance atStart c isBegun a)
      (advance atStart c ((isBegun && matchesNothing atStart false a) || endsHere false a) b)
  | isBegun, alt a b => alt (advance atStart c isBegun a) (advance atStart c isBegun b)
  | isBegun, star a => star (advance atStart c (isBegun || endsHere false a) a)
  | _, start => start
  | _, stop => stop

/-- Does a match end somewhere in what is left of a subject? -/
def matchesIn (p : MarkedPattern) (atStart : Bool) : (subject : List Char) → Bool
  | [] => matchesNothing atStart true p || endsHere true p
  | c :: cs =>
    matchesNothing atStart false p || endsHere false p ||
      matchesIn (advance atStart c true p) false cs

end MarkedPattern

/-- Does some part of the subject match? -/
def Pattern.isMatch (p : Pattern) (subject : List Char) : Bool :=
  (MarkedPattern.ofPattern p).matchesIn true subject

end LayerStencil
