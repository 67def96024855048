import LayerStencil.Pattern.Parse
import Mathlib.Data.List.TakeWhile
import Mathlib.Tactic.Common

/-! # The tokens of a written pattern

Every token takes some of the text, so as many tokens as the text has characters are enough for all
of it.

* `next?_length`: a token takes at least one character.
* `scan?_cons`: the tokens of a text are its first one and those of what follows it. -/

namespace LayerStencil.PatternToken

theorem skipLazy_length (cs : List Char) : (skipLazy cs).length ≤ cs.length := by
  unfold skipLazy
  split <;> simp

theorem count?_length {cs r : List Char} {n : Nat} (h : count? cs = some (n, r)) :
    r.length ≤ cs.length := by
  unfold count? at h
  split at h
  · cases h
  · dsimp only at h
    split at h
    · cases h
      exact (List.dropWhile_sublist _).length_le
    · cases h

theorem bounds?_length {cs r : List Char} {t : PatternToken} (h : bounds? cs = some (t, r)) :
    r.length < cs.length := by
  unfold bounds? at h
  split at h
  · rename_i hlow
    cases h
    exact Nat.lt_of_lt_of_le (Nat.lt_succ_self _) (count?_length hlow)
  · rename_i hlow
    cases h
    have := count?_length hlow
    simp at this
    omega
  · rename_i hlow
    have hle := count?_length hlow
    split at h
    · rename_i hhigh
      have hle' := count?_length hhigh
      split at h
      · cases h
        simp at hle hle'
        omega
      · cases h
    · cases h
  · cases h

theorem classMember?_length {cs r : List Char} {m : ClassItem}
    (h : classMember? cs = some (m, r)) : r.length < cs.length := by
  unfold classMember? at h
  split at h
  · obtain ⟨_, -, hr⟩ := Option.map_eq_some_iff.mp h
    cases hr
    simp only [List.length_cons]
    omega
  · cases h
  · cases h
  · cases h
    exact Nat.lt_succ_self _
  · cases h

theorem classItem?_length {cs r : List Char} {m : ClassItem} (h : classItem? cs = some (m, r)) :
    r.length < cs.length := by
  unfold classItem? at h
  split at h
  · cases h
  split at h
  · cases h
  · rename_i hm
    cases h
    exact classMember?_length hm
  · cases h
  · rename_i hm
    have hlt := classMember?_length hm
    split at h
    · cases h
    · rename_i hm'
      obtain ⟨_, -, hr⟩ := Option.map_eq_some_iff.mp h
      cases hr
      have := classMember?_length hm'
      simp at hlt
      omega
  · rename_i hm
    cases h
    exact classMember?_length hm

theorem classItems?_length {n : Nat} {cs r : List Char} {ms : List ClassItem}
    (h : classItems? n cs = some (ms, r)) : r.length < cs.length := by
  induction n generalizing cs ms with
  | zero => cases h
  | succ n ih =>
    unfold classItems? at h
    split at h
    · contradiction
    · cases h
      exact Nat.lt_succ_self _
    · rename_i heq _
      cases heq
      split at h
      · cases h
      · rename_i hitem
        obtain ⟨⟨ms', r'⟩, hms, hr⟩ := Option.map_eq_some_iff.mp h
        cases hr
        exact Nat.lt_trans (ih hms) (classItem?_length hitem)

theorem classStart_length (cs : List Char) : (classStart cs).2.length ≤ cs.length := by
  have hdrop := (List.dropWhile_sublist (l := cs) (fun c => decide (c = '-'))).length_le
  unfold classStart
  split
  · rename_i heq
    rw [heq] at hdrop
    exact Nat.le_trans (Nat.le_succ _) hdrop
  · exact hdrop

theorem class?_length {cs r : List Char} {t : PatternToken} (h : class? cs = some (t, r)) :
    r.length < cs.length := by
  unfold class? at h
  split at h
  rename_i neg cs' hcs
  have hle : cs'.length ≤ cs.length := by
    split at hcs <;> cases hcs <;> simp
  obtain ⟨⟨ms, r'⟩, hms, hr⟩ := Option.map_eq_some_iff.mp h
  cases hr
  exact Nat.lt_of_lt_of_le (classItems?_length hms) (Nat.le_trans (classStart_length _) hle)

/-- Every token takes at least one character. -/
theorem next?_length {cs r : List Char} {t : PatternToken} (h : next? cs = some (t, r)) :
    r.length < cs.length := by
  have hlazy := skipLazy_length
  unfold next? at h
  split at h
  case h_13 =>
    obtain ⟨⟨t', r'⟩, hb, hr⟩ := Option.map_eq_some_iff.mp h
    cases hr
    have := bounds?_length hb
    have := hlazy r'
    simp only [List.length_cons]
    omega
  case h_14 => exact Nat.lt_succ_of_lt (class?_length h)
  case h_15 =>
    obtain ⟨_, -, hr⟩ := Option.map_eq_some_iff.mp h
    cases hr
    simp only [List.length_cons]
    omega
  all_goals
    cases h
    try simp only [List.length_cons]
    try exact Nat.lt_succ_of_le (hlazy _)
    try omega

theorem scanUpTo?_eq_scan? {n : Nat} {cs : List Char} (hn : cs.length ≤ n) :
    scanUpTo? n cs = scan? cs := by
  suffices h : ∀ m n (cs : List Char), cs.length ≤ m → cs.length ≤ n →
      scanUpTo? n cs = scanUpTo? m cs from h _ _ _ (Nat.le_refl _) hn
  intro m
  induction m with
  | zero =>
    intro n cs hm _
    rw [List.length_eq_zero_iff.mp (Nat.le_zero.mp hm), scanUpTo?, scanUpTo?]
  | succ m ih =>
    intro n cs hm hn
    cases cs with
    | nil => rw [scanUpTo?, scanUpTo?]
    | cons c r =>
      obtain ⟨n, rfl⟩ : ∃ k, n = k + 1 := ⟨n - 1, by simp at hn; omega⟩
      rw [scanUpTo?, scanUpTo?]
      cases hnext : next? (c :: r) with
      | none => rfl
      | some found =>
        have hlt := next?_length hnext
        simp only [List.length_cons] at hm hn hlt
        simp only [ih n found.2 (by omega) (by omega)]

/-- The tokens of a text are its first one and those of what follows it. -/
theorem scan?_cons (c : Char) (cs : List Char) : scan? (c :: cs) =
    (next? (c :: cs)).bind fun found => (scan? found.2).map (found.1 :: ·) := by
  rw [scan?, List.length_cons, scanUpTo?]
  cases hnext : next? (c :: cs) with
  | none => rfl
  | some found =>
    have hlt := next?_length hnext
    rw [Option.bind_some, ← scanUpTo?_eq_scan? (Nat.le_of_lt_succ hlt)]

end LayerStencil.PatternToken
