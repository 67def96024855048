import LayerStencil.Text.Basic
import LayerStencil.Text.Classes

/-! # Names of constants

A name in mixed case is cut into words, and the constant that belongs to it has the words in
capitals with underscores between them. Characters other than ASCII letters and digits separate
words; inside a run, a word begins at a capital after a small letter, and at the last of several
capitals if a small letter follows. Digits go with the letter before them.
-/

namespace LayerStencil.Naming

/-- The case of the last letter of the word read so far; a word without letters has none. -/
inductive LetterCase where
  | none
  | lower
  | upper
deriving DecidableEq, Repr

/-- The case after one more character. -/
def LetterCase.after (mode : LetterCase) (c : Char) : LetterCase :=
  if Text.isAsciiLower c then .lower else if Text.isAsciiUpper c then .upper else mode

/-- The words of a run of letters and digits, where `word` is the word read so far. -/
def cut (mode : LetterCase) (word : List Char) : List Char → List (List Char)
  | [] => []
  | [c] => [word ++ [c]]
  | c :: next :: r =>
    if mode.after c = .lower ∧ Text.isAsciiUpper next then
      (word ++ [c]) :: cut .none [] (next :: r)
    else if mode = .upper ∧ Text.isAsciiUpper c ∧ Text.isAsciiLower next then
      word :: cut .none [c] (next :: r)
    else cut (mode.after c) (word ++ [c]) (next :: r)

/-- The words of a name. -/
def words (cs : List Char) : List (List Char) :=
  (Text.words (fun c => !Text.isAsciiAlphanumeric c) cs).flatMap (cut .none [])

/-- A small letter of ASCII as a capital; any other character as it is. -/
def capital (c : Char) : Char := if Text.isAsciiLower c then Char.ofNat (c.toNat - 32) else c

/-- The constant that belongs to a name: its words in capitals, with underscores between them. -/
def constant (name : String) : String :=
  String.ofList (['_'].intercalate ((words name.toList).map fun word => word.map capital))

end LayerStencil.Naming
