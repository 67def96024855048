import LayerStencil.Text.Basic
import Mathlib.Tactic.Common

/-! # Lines of a text

The line of a position is one more than the number of line breaks before it. So positions with no
line break between them are on one line, and what stands at a position without a line break in it is
a part of the line of that position.

* `lineText`: what stands on the line of a given number.
* `lineAt_eq_add_count`: the lines of two positions are as far apart as there are line breaks
  between them.
* `infix_lineText`: what stands at a position stands on the line of the position.
* `fields_lines_iff`: lines that are written one after another are read again if and only if no line
  break stands in them. -/

namespace LayerStencil.Text

/-- The line of a text with a given number, counted from 1. -/
def lineText (cs : List Char) (n : Nat) : List Char := (cs.splitOn '\n').getD (n - 1) []

theorem slice_slice (cs : List Char) {x y a b : Nat} (h : x + b ≤ y) :
    slice (slice cs x y) a b = slice cs (x + a) (x + b) := by
  simp only [slice, List.drop_take, List.drop_drop, List.take_take]
  congr 1
  omega

theorem slice_middle (front w back : List Char) :
    slice (front ++ (w ++ back)) front.length (front.length + w.length) = w := by
  have h := slice_append_right front (w ++ back) 0 w.length
  rw [Nat.add_zero, slice_append_left back (Nat.le_refl _)] at h
  rw [h, slice, List.drop_zero, Nat.sub_zero, List.take_length]

/-- What lies between two positions parts their lines. -/
theorem lineAt_eq_add_count (cs : List Char) {x y : Nat} (h : x ≤ y) :
    lineAt cs y = lineAt cs x + (slice cs x y).count '\n' := by
  have hsplit : cs.take y = cs.take x ++ slice cs x y := by
    have hslice := slice_append cs (Nat.zero_le x) h
    simpa [slice] using hslice.symm
  rw [lineAt, lineAt, hsplit, List.count_append]
  omega

/-- A text without line breaks is at the start of the first line of what it begins. -/
theorem exists_splitOn_append : ∀ {w : List Char} (back : List Char), '\n' ∉ w →
    ∃ first rest, (w ++ back).splitOn '\n' = (w ++ first) :: rest
  | [], back, _ => by
    obtain ⟨first, rest, h⟩ := List.exists_cons_of_ne_nil (List.splitOnP_ne_nil (· == '\n') back)
    exact ⟨first, rest, h⟩
  | c :: w, back, hw => by
    obtain ⟨hc, hw⟩ : '\n' ≠ c ∧ '\n' ∉ w := by simpa using hw
    obtain ⟨first, rest, h⟩ := exists_splitOn_append back hw
    refine ⟨first, rest, ?_⟩
    rw [List.splitOn] at h ⊢
    rw [List.cons_append, List.splitOnP_cons_eq_if_modifyHead, h,
      if_neg (by simpa using Ne.symm hc)]
    rfl

theorem infix_splitOn {w : List Char} (hw : '\n' ∉ w) (back : List Char) : ∀ front : List Char,
    w <:+: ((front ++ (w ++ back)).splitOn '\n').getD (front.count '\n') []
  | [] => by
    obtain ⟨first, rest, h⟩ := exists_splitOn_append back hw
    rw [List.nil_append, h]
    exact ⟨[], first, rfl⟩
  | c :: front => by
    have ih := infix_splitOn hw back front
    rw [List.splitOn] at ih ⊢
    rw [List.cons_append, List.splitOnP_cons_eq_if_modifyHead]
    by_cases hc : c = '\n'
    · subst hc
      simpa using ih
    · rw [if_neg (by simpa using hc), List.count_cons_of_ne hc]
      -- The line of the character is the first one, and the others stay as they are.
      cases hlines : (front ++ (w ++ back)).splitOnP (· == '\n') with
      | nil => exact absurd hlines (List.splitOnP_ne_nil _ _)
      | cons first rest =>
        rw [hlines] at ih
        cases hn : front.count '\n' with
        | zero =>
          rw [hn] at ih
          exact List.IsInfix.trans ih (List.suffix_cons c first).isInfix
        | succ n =>
          rw [hn] at ih
          exact ih

/-- What stands at a position is on the line of the position. -/
theorem infix_lineText {cs w : List Char} {p : Nat} (h : slice cs p (p + w.length) = w)
    (hw : '\n' ∉ w) : w <:+: lineText cs (lineAt cs p) := by
  have hcs := take_append_slice cs (Nat.le_add_right p w.length)
  have hline := infix_splitOn hw (cs.drop (p + w.length)) (cs.take p)
  rw [h] at hcs
  rw [hcs] at hline
  exact hline

/-! ### Lines that are written and read -/

theorem not_of_mem_splitOnP {p : Char → Bool} {cs w : List Char} (h : w ∈ cs.splitOnP p) :
    ∀ c ∈ w, ¬ p c := by
  induction cs generalizing w with
  | nil =>
    rw [List.splitOnP_nil, List.mem_singleton] at h
    simp [h]
  | cons d cs ih =>
    rw [List.splitOnP_cons_eq_if_modifyHead] at h
    split at h
    · rcases List.mem_cons.mp h with rfl | h
      · simp
      · exact ih h
    · rename_i hd
      cases hs : cs.splitOnP p with
      | nil => simp [hs] at h
      | cons v vs =>
        rw [hs, List.modifyHead_cons, List.mem_cons] at h
        rcases h with rfl | h
        · exact List.forall_mem_cons.mpr ⟨hd, ih (hs ▸ List.mem_cons_self)⟩
        · exact ih (hs ▸ List.mem_cons_of_mem v h)

/-- Lines that are each followed by a line break are the parts between the line breaks, if none of
them holds a line break. -/
theorem splitOn_flatMap : ∀ {ls : List (List Char)}, (∀ l ∈ ls, '\n' ∉ l) →
    (ls.flatMap (· ++ ['\n'])).splitOn '\n' = ls ++ [[]]
  | [], _ => rfl
  | l :: ls, h => by
    obtain ⟨hl, hls⟩ := List.forall_mem_cons.mp h
    have hchars : ∀ c ∈ l, (c == '\n') = false := fun c hc =>
      beq_false_of_ne fun heq => hl (heq ▸ hc)
    have ih := splitOn_flatMap hls
    rw [List.splitOn] at ih ⊢
    rw [List.flatMap_cons, List.append_assoc, List.singleton_append,
      List.splitOnP_append_cons_of_forall_mem hchars '\n' (by decide), ih, List.cons_append]

theorem newline_not_mem_of_mem_fields {s l : String} (h : l ∈ fields '\n' s) : '\n' ∉ l.toList := by
  obtain ⟨w, hw, rfl⟩ := List.mem_map.mp h
  rw [String.toList_ofList]
  exact fun hbreak => not_of_mem_splitOnP hw _ hbreak (by decide)

/-- **Lines are read as they are written** if and only if no line break stands in them. -/
theorem fields_lines_iff (ls : List String) :
    fields '\n' (String.join (ls.map fun l => l ++ "\n")) = ls ++ [""] ↔
      ∀ l ∈ ls, '\n' ∉ l.toList := by
  have htext : (String.join (ls.map fun l => l ++ "\n")).toList =
      (ls.map String.toList).flatMap (· ++ ['\n']) := by
    simp only [String.toList_join, List.flatMap_map, String.toList_append]
    rfl
  refine ⟨fun h l hl => newline_not_mem_of_mem_fields (h ▸ List.mem_append_left _ hl), fun h => ?_⟩
  rw [fields, htext, splitOn_flatMap (by simpa using h)]
  simp

/-- What stands in texts that are joined. -/
theorem mem_joined_iff {sep : String} {c : Char} (hsep : c ∉ sep.toList) : ∀ {ls : List String},
    c ∈ (joined sep ls).toList ↔ ∃ l ∈ ls, c ∈ l.toList
  | [] => by simp [joined]
  | [s] => by simp [joined]
  | s :: t :: rest => by
    rw [joined, String.toList_append, String.toList_append, List.mem_append, List.mem_append,
      mem_joined_iff hsep]
    simp [hsep]

end LayerStencil.Text
