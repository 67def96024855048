/-! # Scanned text

Text that is read character by character is a `List Char`, and a position in it is the number of
characters before it. This module holds what all readers share: the UTF-8 size of a text, the line
a position stands on, what lies between two positions, what follows a given beginning, and splitting
at a separator. Main statements: `slice_append`, adjacent parts of a text make up one part;
`after?_eq_some_iff`, a text with a given beginning is that beginning followed by what `after?`
returns; `takeWhile_run` and `dropWhile_run`, a run of characters that cannot go on is the longest
one.
-/

namespace LayerStencil.Text

/-! ### Sizes and lines -/

/-- The number of bytes of `cs` in UTF-8. -/
def byteLength (cs : List Char) : Nat := cs.foldr (fun c n => c.utf8Size + n) 0

/-- The byte offset of the character position `i` of `cs`. -/
def byteOffset (cs : List Char) (i : Nat) : Nat := byteLength (cs.take i)

/-- The line, counted from 1, on which the character position `i` of `cs` stands. -/
def lineAt (cs : List Char) (i : Nat) : Nat := (cs.take i).count '\n' + 1

/-- The characters of `cs` from position `start` up to `stop`, none if the bounds are inverted. -/
def slice (cs : List Char) (start stop : Nat) : List Char := (cs.drop start).take (stop - start)

@[simp] theorem byteLength_nil : byteLength [] = 0 := rfl

@[simp] theorem byteLength_cons (c : Char) (cs : List Char) :
    byteLength (c :: cs) = c.utf8Size + byteLength cs := by
  simp [byteLength]

@[simp] theorem byteLength_append (cs ds : List Char) :
    byteLength (cs ++ ds) = byteLength cs + byteLength ds := by
  induction cs with
  | nil => simp
  | cons c cs ih => simp [ih, Nat.add_assoc]

theorem byteOffset_lt_byteOffset {cs : List Char} {i j : Nat} (hij : i < j)
    (hj : j ≤ cs.length) : byteOffset cs i < byteOffset cs j := by
  induction cs generalizing i j with
  | nil => simp at hj; omega
  | cons c cs ih =>
    obtain ⟨j, rfl⟩ : ∃ k, j = k + 1 := ⟨j - 1, by omega⟩
    have hpos := c.utf8Size_pos
    cases i with
    | zero => simp only [byteOffset, List.take_zero, List.take_succ_cons, byteLength_nil,
        byteLength_cons]; omega
    | succ i =>
      have := ih (Nat.lt_of_succ_lt_succ hij) (Nat.le_of_succ_le_succ hj)
      simp only [byteOffset, List.take_succ_cons, byteLength_cons] at this ⊢
      omega

/-! ### Parts of a text -/

section Parts
variable {front : List Char} {x y : Nat}

theorem slice_eq_nil (cs : List Char) (h : y ≤ x) : slice cs x y = [] := by
  rw [slice, Nat.sub_eq_zero_of_le h, List.take_zero]

theorem length_slice {cs : List Char} (hy : y ≤ cs.length) : (slice cs x y).length = y - x := by
  rw [slice, List.length_take, List.length_drop]
  omega

theorem slice_append_left (back : List Char) (h : y ≤ front.length) :
    slice (front ++ back) x y = slice front x y := by
  by_cases hxy : y ≤ x
  · rw [slice_eq_nil _ hxy, slice_eq_nil _ hxy]
  · rw [slice, slice, List.drop_append_of_le_length (by omega),
      List.take_append_of_le_length (by rw [List.length_drop]; omega)]

theorem slice_append_right (front back : List Char) (x y : Nat) :
    slice (front ++ back) (front.length + x) (front.length + y) = slice back x y := by
  rw [slice, slice, ← List.drop_drop, List.drop_left, Nat.add_sub_add_left]

theorem slice_append (cs : List Char) {x y z : Nat} (hxy : x ≤ y) (hyz : y ≤ z) :
    slice cs x y ++ slice cs y z = slice cs x z := by
  obtain ⟨i, rfl⟩ := Nat.exists_eq_add_of_le hxy
  obtain ⟨j, rfl⟩ := Nat.exists_eq_add_of_le hyz
  rw [slice, slice, slice, Nat.add_sub_cancel_left, Nat.add_sub_cancel_left, Nat.add_assoc,
    Nat.add_sub_cancel_left, List.take_add, List.drop_drop]

theorem take_append_slice (cs : List Char) (h : x ≤ y) :
    cs.take x ++ (slice cs x y ++ cs.drop y) = cs := by
  obtain ⟨i, rfl⟩ := Nat.exists_eq_add_of_le h
  rw [slice, Nat.add_sub_cancel_left, ← List.drop_drop, List.take_append_drop,
    List.take_append_drop]

end Parts

/-! ### Beginnings -/

/-- What follows `lead` in the text, if the text begins with it. -/
def after? : (lead cs : List Char) → Option (List Char)
  | [], cs => some cs
  | _ :: _, [] => none
  | a :: lead, c :: cs => if a = c then after? lead cs else none

theorem after?_eq_some_iff {lead cs r : List Char} : after? lead cs = some r ↔ cs = lead ++ r := by
  induction lead generalizing cs with
  | nil => simp [after?, eq_comm]
  | cons a lead ih =>
    cases cs with
    | nil => simp [after?]
    | cons c cs =>
      by_cases h : a = c
      · simp [after?, h, ih]
      · simp [after?, h, Ne.symm h]

/-- A name without `lead` at its start, or the whole name if it does not start so. -/
def withoutLead (lead : List Char) (s : String) : String :=
  match after? lead s.toList with
  | some r => String.ofList r
  | none => s

/-- Does `needle` occur in the text? -/
def occursIn (needle : List Char) : List Char → Bool
  | [] => needle.isEmpty
  | c :: cs => needle.isPrefixOf (c :: cs) || occursIn needle cs

/-! ### Runs of characters -/

theorem not_of_dropWhile_eq_cons {p : Char → Bool} {cs rest : List Char} {d : Char}
    (h : cs.dropWhile p = d :: rest) : p d = false := by
  have hd := List.head?_dropWhile_not p cs
  rw [h] at hd
  simpa using hd

theorem takeWhile_run {p : Char → Bool} {s rest : List Char} (hs : ∀ c ∈ s, p c)
    (hrest : ∀ c ∈ rest.head?, ¬ p c) : (s ++ rest).takeWhile p = s := by
  rw [List.takeWhile_append_of_pos hs]
  cases rest with
  | nil => simp
  | cons c r => rw [List.takeWhile_cons_of_neg (hrest c rfl), List.append_nil]

theorem dropWhile_run {p : Char → Bool} {s rest : List Char} (hs : ∀ c ∈ s, p c)
    (hrest : ∀ c ∈ rest.head?, ¬ p c) : (s ++ rest).dropWhile p = rest := by
  rw [List.dropWhile_append_of_pos hs]
  cases rest with
  | nil => simp
  | cons c r => rw [List.dropWhile_cons_of_neg (hrest c rfl)]

/-! ### Splitting -/

/-- The parts of `s` between the separators; `n` separators give `n + 1` parts. -/
def fields (sep : Char) (s : String) : List String := (s.toList.splitOn sep).map String.ofList

/-- The texts of a list with `sep` between them. -/
def joined (sep : String) : List String → String
  | [] => ""
  | [s] => s
  | s :: t :: rest => s ++ sep ++ joined sep (t :: rest)

/-- The maximal runs of characters outside `p`. -/
def words (p : Char → Bool) (cs : List Char) : List (List Char) :=
  (cs.splitOnP p).filter (· ≠ [])

/-- The text without the characters in `p` at its two ends. -/
def trim (p : Char → Bool) (cs : List Char) : List Char :=
  ((cs.dropWhile p).reverse.dropWhile p).reverse

/-! ### Numbers -/

/-- The number that a run of decimal digits denotes. -/
def numberOf (digits : List Char) : Nat :=
  digits.foldl (fun n c => 10 * n + (c.toNat - '0'.toNat)) 0

/-- Has a whole number 64 bits with a sign? -/
def isSigned64 (n : Int) : Bool := -9223372036854775808 ≤ n && n ≤ 9223372036854775807

/-- The digits of a whole number in base 10, after a minus sign if it is negative. -/
def decimal : Int → String
  | .ofNat n => n.repr
  | .negSucc n => "-" ++ (n + 1).repr

end LayerStencil.Text
