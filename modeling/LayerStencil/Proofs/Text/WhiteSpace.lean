import LayerStencil.Text.Basic
import LayerStencil.Text.Classes
import Mathlib.Data.List.DropRight
import Mathlib.Data.List.TakeWhile
import Mathlib.Tactic.Common

/-! # White space

White space is apart from the characters of words and identifiers: `not_isWhiteSpace_of_isWordChar`
and `not_isWhiteSpace_of_isIdentifierChar`, by comparing tables of ranges (`not_inRanges_of_apart`).
A text without white space at its ends is its own trimmed text (`trim_eq_self`). -/

namespace LayerStencil.Text

/-- Ranges without word characters that hold all white space. -/
def whiteSpaceRanges : List (Nat × Nat) :=
  [(0x09, 0x20), (0x85, 0x85), (0xa0, 0xa0), (0x1680, 0x1680), (0x2000, 0x200a), (0x2028, 0x202f),
    (0x205f, 0x205f), (0x3000, 0x3000)]

theorem inRanges_whiteSpaceRanges {c : Char} (h : isWhiteSpace c) :
    inRanges whiteSpaceRanges c := by
  simp only [isWhiteSpace] at h
  simp only [inRanges, whiteSpaceRanges, List.any_cons, List.any_nil, Bool.or_eq_true,
    Bool.and_eq_true, decide_eq_true_eq]
  split_ifs at h <;> simp only [Bool.or_eq_true, Bool.and_eq_true, decide_eq_true_eq] at h <;> omega

/-- No character is in two tables of which each range of one is apart from each of the other. -/
theorem not_inRanges_of_apart {rs ws : List (Nat × Nat)}
    (h : (rs.all fun r => ws.all fun w => r.2 < w.1 || w.2 < r.1) = true) {c : Char}
    (hc : inRanges rs c) : ¬ inRanges ws c := by
  intro hw
  obtain ⟨r, hr, hrc⟩ := List.any_eq_true.mp hc
  obtain ⟨w, hw, hwc⟩ := List.any_eq_true.mp hw
  have hapart := List.all_eq_true.mp (List.all_eq_true.mp h r hr) w hw
  simp only [Bool.or_eq_true, Bool.and_eq_true, decide_eq_true_eq] at hrc hwc hapart
  omega

theorem inRanges_of_isAsciiAlphanumeric {c : Char} (h : isAsciiAlphanumeric c) :
    inRanges [(48, 57), (65, 90), (97, 122)] c := by
  simp only [isAsciiAlphanumeric, isAsciiLower, isAsciiUpper, isAsciiDigit, Bool.or_eq_true,
    Bool.and_eq_true, decide_eq_true_eq, Char.le_def, UInt32.le_iff_toNat_le] at h
  simp only [inRanges, List.any_cons, List.any_nil, Bool.or_eq_true, Bool.and_eq_true,
    decide_eq_true_eq, Char.toNat]
  simp at h ⊢
  omega

theorem not_isWhiteSpace_of_isAsciiAlphanumeric {c : Char} (h : isAsciiAlphanumeric c) :
    ¬ isWhiteSpace c := fun hwhite =>
  not_inRanges_of_apart (by decide +kernel) (inRanges_of_isAsciiAlphanumeric h)
    (inRanges_whiteSpaceRanges hwhite)

theorem isWhiteSpace_of_isBlank {c : Char} (h : isBlank c) : isWhiteSpace c := by
  simp only [isBlank, Bool.or_eq_true, decide_eq_true_eq] at h
  rcases h with ((rfl | rfl) | rfl) | rfl <;> decide

theorem not_isWhiteSpace_of_isIdentifierChar {c : Char} (h : isIdentifierChar c) :
    ¬ isWhiteSpace c := by
  rw [isIdentifierChar, isAlphanumeric, Bool.or_eq_true, decide_eq_true_eq] at h
  rcases h with h | rfl
  · split_ifs at h
    · exact not_isWhiteSpace_of_isAsciiAlphanumeric h
    · exact fun hwhite =>
        not_inRanges_of_apart (by decide +kernel) h (inRanges_whiteSpaceRanges hwhite)
  · decide

theorem not_isWhiteSpace_of_isWordChar {c : Char} (h : isWordChar c) : ¬ isWhiteSpace c := by
  rw [isWordChar] at h
  split_ifs at h
  · rw [isNameChar, Bool.or_eq_true, decide_eq_true_eq] at h
    rcases h with h | rfl
    · exact not_isWhiteSpace_of_isAsciiAlphanumeric h
    · decide
  · exact fun hwhite =>
      not_inRanges_of_apart (by decide +kernel) h (inRanges_whiteSpaceRanges hwhite)

/-- A text with no white space at its ends is its own trimmed text. -/
theorem trim_eq_self {p : Char → Bool} {cs : List Char} (hhead : ∀ c ∈ cs.head?, ¬ p c)
    (hlast : ∀ c ∈ cs.getLast?, ¬ p c) : trim p cs = cs := by
  have hdrop : cs.dropWhile p = cs := dropWhile_run (s := []) (List.forall_mem_nil _) hhead
  rw [← List.head?_reverse] at hlast
  have hdrop' : cs.reverse.dropWhile p = cs.reverse :=
    dropWhile_run (s := []) (List.forall_mem_nil _) hlast
  rw [trim, hdrop, hdrop', List.reverse_reverse]

theorem not_head_dropWhile (p : Char → Bool) (cs : List Char) :
    ∀ c ∈ (cs.dropWhile p).head?, ¬ p c := by
  intro c hc
  have hnot := List.head?_dropWhile_not p cs
  rw [hc] at hnot
  simpa using hnot

theorem not_getLast_rdropWhile (p : Char → Bool) (cs : List Char) :
    ∀ c ∈ (cs.rdropWhile p).getLast?, ¬ p c := by
  rw [List.rdropWhile, List.getLast?_reverse]
  exact not_head_dropWhile p cs.reverse

/-- What trimming takes from the end of a text. -/
theorem trim_append (p : Char → Bool) (cs : List Char) :
    trim p cs ++ (cs.dropWhile p).rtakeWhile p = cs.dropWhile p :=
  List.rdropWhile_append_rtakeWhile

end LayerStencil.Text
