import LayerStencil.Text.Basic
import LayerStencil.Text.Classes

/-! # C declarators

The part of C declarations that an API registry uses: an optional `const` and `struct`, a base type,
pointers, a name, array suffixes and a bit width. `Declarator.parse?` reads one from the start of a
text and reports what it leaves. Between words stand spaces, tabs and line ends.
-/

namespace LayerStencil

/-- One level of pointer. -/
inductive Pointer where
  | mutable
  /-- A pointer to a constant, written `const*`. -/
  | constant
deriving DecidableEq, Repr, Inhabited

/-- A base type with the pointers to it. -/
structure CType where
  name : String
  isConst : Bool
  pointers : List Pointer
deriving DecidableEq, Repr, Inhabited

/-- The size of an array: none, a number of 64 bits, or a named constant. -/
inductive ArraySize where
  | dynamic
  | static (n : Nat)
  | constant (name : String)
deriving DecidableEq, Repr, Inhabited

/-- A declared name with its type. -/
structure Declarator where
  /-- The text of the type, without what surrounds it. -/
  typeText : List Char
  type : CType
  name : String
  arrays : List ArraySize
  bitWidth : Option Nat
deriving DecidableEq, Repr, Inhabited

namespace Declarator

/-- How many pointers lead to the base type; an array without a size counts as one more. -/
def pointerLevel (d : Declarator) : Nat :=
  d.type.pointers.length + d.arrays.countP (· = .dynamic)

/-! ### Words and numbers -/

/-- A text without the blanks at its start. -/
def skipBlanks (cs : List Char) : List Char := cs.dropWhile Text.isBlank

/-- What follows a word and at least one blank after it. -/
def word? (word cs : List Char) : Option (List Char) :=
  match Text.after? word cs with
  | some (c :: r) => if Text.isBlank c then some (skipBlanks r) else none
  | _ => none

/-- Whether a word with a blank after it starts the text, and what follows it then. -/
def optionalWord (word cs : List Char) : Bool × List Char :=
  match word? word cs with
  | some rest => (true, rest)
  | none => (false, cs)

/-- The identifier at the start of a text, and what follows it. -/
def identifier? (cs : List Char) : Option (String × List Char) :=
  match cs.takeWhile Text.isIdentifierChar with
  | [] => none
  | name => some (String.ofList name, cs.dropWhile Text.isIdentifierChar)

/-- The number below `bound` whose digits start the text, and what follows all digits. -/
def number? (bound : Nat) (cs : List Char) : Option (Nat × List Char) :=
  match cs.takeWhile Text.isAsciiDigit with
  | [] => none
  | digits =>
    let n := Text.numberOf digits
    if n < bound then some (n, cs.dropWhile Text.isAsciiDigit) else none

/-! ### Parts of a declaration -/

/-- A pointer after any blanks, and what follows it. -/
def pointer? (cs : List Char) : Option (Pointer × List Char) :=
  match Text.after? ['c', 'o', 'n', 's', 't'] (skipBlanks cs) with
  | some r =>
    match skipBlanks r with
    | '*' :: rest => some (.constant, rest)
    | _ => none
  | none =>
    match skipBlanks cs with
    | '*' :: rest => some (.mutable, rest)
    | _ => none

/-- What stands between the brackets of an array suffix, and what follows it. -/
def arraySize (cs : List Char) : ArraySize × List Char :=
  match number? (Nat.pow 2 64) cs with
  | some (n, rest) => (.static n, rest)
  | none =>
    match identifier? cs with
    | some (name, rest) => (.constant name, rest)
    | none => (.dynamic, cs)

/-- An array suffix after any blanks, and what follows it. -/
def array? (cs : List Char) : Option (ArraySize × List Char) :=
  match skipBlanks cs with
  | '[' :: r =>
    match arraySize r with
    | (size, ']' :: rest) => some (size, rest)
    | _ => none
  | _ => none

/-- A bit width after a colon, and what follows it; the whole text if there is none. -/
def scanWidth (cs : List Char) : Option Nat × List Char :=
  match skipBlanks cs with
  | ':' :: r =>
    match number? (Nat.pow 2 32) (skipBlanks r) with
    | some (n, rest) => (some n, rest)
    | none => (none, cs)
  | _ => (none, cs)

/-! ### What is left is shorter -/

theorem length_skipBlanks_le (cs : List Char) : (skipBlanks cs).length ≤ cs.length :=
  (List.dropWhile_sublist Text.isBlank).length_le

theorem length_lt_of_pointer? {cs rest : List Char} {p : Pointer}
    (h : pointer? cs = some (p, rest)) : rest.length < cs.length := by
  have hcs := length_skipBlanks_le cs
  unfold pointer? at h
  split at h
  · rename_i r hr
    have hr := congrArg List.length (Text.after?_eq_some_iff.mp hr)
    have hle := length_skipBlanks_le r
    split at h
    · rename_i hs
      simp only [Option.some.injEq, Prod.mk.injEq] at h
      rw [hs] at hle
      simp only [← h.2, List.length_cons, List.length_append] at *; omega
    · cases h
  · split at h
    · rename_i hs
      simp only [Option.some.injEq, Prod.mk.injEq] at h
      rw [hs] at hcs
      simp only [← h.2, List.length_cons] at *; omega
    · cases h

theorem length_arraySize_le (cs : List Char) : (arraySize cs).2.length ≤ cs.length := by
  have drop_le (p : Char → Bool) : (cs.dropWhile p).length ≤ cs.length :=
    (List.dropWhile_sublist p).length_le
  unfold arraySize
  split
  · rename_i h
    unfold number? at h
    split at h
    · cases h
    · simp only [Option.ite_none_right_eq_some, Option.some.injEq, Prod.mk.injEq] at h
      exact h.2.2 ▸ drop_le _
  · split
    · rename_i h
      unfold identifier? at h
      split at h
      · cases h
      · simp only [Option.some.injEq, Prod.mk.injEq] at h
        exact h.2 ▸ drop_le _
    · exact Nat.le_refl _

theorem length_lt_of_array? {cs rest : List Char} {size : ArraySize}
    (h : array? cs = some (size, rest)) : rest.length < cs.length := by
  have hcs := length_skipBlanks_le cs
  unfold array? at h
  split at h
  · rename_i r hs
    have hle := length_arraySize_le r
    split at h
    · rename_i hr
      simp only [Option.some.injEq, Prod.mk.injEq] at h
      rw [hs] at hcs
      rw [hr] at hle
      simp only [← h.2, List.length_cons] at *; omega
    · cases h
  · cases h

/-! ### Whole declarations -/

/-- All pointers at the start of a text, and what follows them. -/
def scanPointers (cs : List Char) : List Pointer × List Char :=
  match h : pointer? cs with
  | none => ([], cs)
  | some (p, r) =>
    have := length_lt_of_pointer? h
    let (ps, rest) := scanPointers r
    (p :: ps, rest)
termination_by cs.length

/-- All array suffixes at the start of a text, and what follows them. -/
def scanArrays (cs : List Char) : List ArraySize × List Char :=
  match h : array? cs with
  | none => ([], cs)
  | some (size, r) =>
    have := length_lt_of_array? h
    let (sizes, rest) := scanArrays r
    (size :: sizes, rest)
termination_by cs.length

/-- The type at the start of a text, and what follows it. -/
def type? (cs : List Char) : Option (CType × List Char) :=
  let (isConst, r) := optionalWord ['c', 'o', 'n', 's', 't'] cs
  let (_, r) := optionalWord ['s', 't', 'r', 'u', 'c', 't'] r
  match identifier? r with
  | none => none
  | some (name, r) =>
    let (ps, rest) := scanPointers r
    some (⟨name, isConst, ps⟩, rest)

/-- The declaration at the start of a text, and what follows it. -/
def parse? (cs : List Char) : Option (Declarator × List Char) :=
  let cs := skipBlanks cs
  match type? cs with
  | none => none
  | some (type, r) =>
    match identifier? (skipBlanks r) with
    | none => none
    | some (name, r') =>
      let (sizes, r'') := scanArrays r'
      let (width, rest) := scanWidth r''
      let typeText := Text.trim Text.isWhiteSpace (cs.take (cs.length - r.length))
      some (⟨typeText, type, name, sizes, width⟩, rest)

end Declarator

end LayerStencil
