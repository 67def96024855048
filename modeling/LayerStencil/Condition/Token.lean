import LayerStencil.Condition.Basic

/-! # Tokens of conditions

A condition is read as a sequence of tokens with blanks between them: brackets, commas, comparisons,
keywords, numbers of 64 bits, strings in single or double quotes, and fields. A word is as long as
the characters of names go on, so a keyword stands by itself.
-/

namespace LayerStencil

/-- One token of a condition. -/
inductive Token where
  | openParen
  | closeParen
  | openBracket
  | closeBracket
  | comma
  | compare (op : CompareOp)
  | not
  | and
  | or
  | isIn
  | literal (v : Value)
  | text (raw : List Char)
  | field (name : String)
deriving DecidableEq, Repr

namespace Token

/-- A number as a token, if it has 64 bits with a sign. -/
def number? (n : Int) : Option Token :=
  if Text.isSigned64 n then some (literal (.int n)) else none

/-- The token that a whole word stands for. -/
def ofWord? (word : List Char) : Option Token :=
  if word = ['n', 'o', 't'] then some not
  else if word = ['a', 'n', 'd'] then some and
  else if word = ['o', 'r'] then some or
  else if word = ['i', 'n'] then some isIn
  else if word = ['T', 'r', 'u', 'e'] ∨ word = ['t', 'r', 'u', 'e'] then some (literal (.bool true))
  else if word = ['F', 'a', 'l', 's', 'e'] ∨ word = ['f', 'a', 'l', 's', 'e'] then
    some (literal (.bool false))
  else none

/-- The string up to the next `quote`, and what follows that quote. -/
def quoted? (quote : Char) (cs : List Char) : Option (Token × List Char) :=
  match cs.dropWhile (· ≠ quote) with
  | [] => none
  | _ :: rest => some (text (cs.takeWhile (· ≠ quote)), rest)

/-- The field whose name starts the text, and what follows the closing brace. -/
def field? (cs : List Char) : Option (Token × List Char) :=
  match cs.takeWhile Text.isNameChar, cs.dropWhile Text.isNameChar with
  | c :: name, '}' :: rest => some (field (String.ofList (c :: name)), rest)
  | _, _ => none

/-- The number whose digits start the text, and what follows them. -/
def digits? (negative : Bool) (cs : List Char) : Option (Token × List Char) :=
  match cs.takeWhile Text.isAsciiDigit with
  | [] => none
  | digits =>
    let n : Int := Text.numberOf digits
    (number? (if negative then -n else n)).map fun t => (t, cs.dropWhile Text.isAsciiDigit)

/-- The token of the word that starts the text, and what follows it. -/
def word? (cs : List Char) : Option (Token × List Char) :=
  match cs.takeWhile Text.isNameChar with
  | [] => none
  | word => (ofWord? word).map fun t => (t, cs.dropWhile Text.isNameChar)

/-- The first token of a text that starts with no blank, and what follows it. -/
def next? : List Char → Option (Token × List Char)
  | [] => none
  | '(' :: r => some (openParen, r)
  | ')' :: r => some (closeParen, r)
  | '[' :: r => some (openBracket, r)
  | ']' :: r => some (closeBracket, r)
  | ',' :: r => some (comma, r)
  | '=' :: '=' :: r => some (compare .eq, r)
  | '!' :: '=' :: r => some (compare .ne, r)
  | '<' :: '=' :: r => some (compare .le, r)
  | '>' :: '=' :: r => some (compare .ge, r)
  | '<' :: r => some (compare .lt, r)
  | '>' :: r => some (compare .gt, r)
  | '\'' :: r => quoted? '\'' r
  | '"' :: r => quoted? '"' r
  | '{' :: r => field? r
  | '-' :: r => digits? true r
  | c :: r => if Text.isAsciiDigit c then digits? false (c :: r) else word? (c :: r)

theorem length_dropWhile_le (p : Char → Bool) (cs : List Char) :
    (cs.dropWhile p).length ≤ cs.length :=
  (List.dropWhile_sublist p).length_le

theorem length_lt_of_quoted? {quote : Char} {cs rest : List Char} {t : Token}
    (h : quoted? quote cs = some (t, rest)) : rest.length < cs.length := by
  unfold quoted? at h
  split at h
  · cases h
  · rename_i r hr
    have := length_dropWhile_le (· ≠ quote) cs
    simp only [Option.some.injEq, Prod.mk.injEq] at h
    rw [hr] at this
    simp only [← h.2, List.length_cons] at this ⊢; omega

theorem length_lt_of_field? {cs rest : List Char} {t : Token} (h : field? cs = some (t, rest)) :
    rest.length < cs.length := by
  unfold field? at h
  split at h
  · rename_i _ _ _ _ _ _ hr
    have := length_dropWhile_le Text.isNameChar cs
    simp only [Option.some.injEq, Prod.mk.injEq] at h
    rw [hr] at this
    simp only [← h.2, List.length_cons] at this ⊢; omega
  · cases h

theorem length_dropWhile_lt {p : Char → Bool} {cs : List Char} (h : cs.takeWhile p ≠ []) :
    (cs.dropWhile p).length < cs.length := by
  cases cs with
  | nil => exact absurd rfl h
  | cons c r =>
    by_cases hc : p c
    · have := length_dropWhile_le p r
      simp only [List.dropWhile_cons, hc, if_true, List.length_cons]; omega
    · simp [hc] at h

theorem length_lt_of_digits? {negative : Bool} {cs rest : List Char} {t : Token}
    (h : digits? negative cs = some (t, rest)) : rest.length < cs.length := by
  unfold digits? at h
  split at h
  · cases h
  · rename_i _ hne
    obtain ⟨u, -, hu⟩ := Option.map_eq_some_iff.mp h
    simp only [Prod.mk.injEq] at hu
    exact hu.2 ▸ length_dropWhile_lt hne

theorem length_lt_of_word? {cs rest : List Char} {t : Token} (h : word? cs = some (t, rest)) :
    rest.length < cs.length := by
  unfold word? at h
  split at h
  · cases h
  · rename_i _ hne
    obtain ⟨u, -, hu⟩ := Option.map_eq_some_iff.mp h
    simp only [Prod.mk.injEq] at hu
    exact hu.2 ▸ length_dropWhile_lt hne

theorem length_lt_of_next? {cs rest : List Char} {t : Token} (h : next? cs = some (t, rest)) :
    rest.length < cs.length := by
  unfold next? at h
  split at h <;> try (simp only [Option.some.injEq, Prod.mk.injEq] at h)
  all_goals try (simp only [← h.2, List.length_cons]; omega)
  · cases h
  · have := length_lt_of_quoted? h; simp only [List.length_cons]; omega
  · have := length_lt_of_quoted? h; simp only [List.length_cons]; omega
  · have := length_lt_of_field? h; simp only [List.length_cons]; omega
  · have := length_lt_of_digits? h; simp only [List.length_cons]; omega
  · split at h
    · exact length_lt_of_digits? h
    · exact length_lt_of_word? h

/-- All tokens of a text, if it consists of tokens and blanks. -/
def scan? (cs : List Char) : Option (List Token) :=
  match hc : cs.dropWhile Text.isBlank with
  | [] => some []
  | c :: r =>
    match h : next? (c :: r) with
    | none => none
    | some (t, rest) =>
      have : rest.length < cs.length := by
        have hlt := length_lt_of_next? h
        have hle := length_dropWhile_le Text.isBlank cs
        rw [hc] at hle
        omega
      (scan? rest).map (t :: ·)
termination_by cs.length

end Token

end LayerStencil
