import LayerStencil.Proofs.Pattern.Complete
import LayerStencil.Selection
import Mathlib.Data.List.Basic
import Mathlib.Data.Option.NAry

/-! # Documented patterns

What a name pattern means is settled by the engine that compiles it. An engine follows the
documentation of regular expressions if the patterns that it compiles match what they are documented
to match: the bar is read as an alternative of two patterns, parentheses put a pattern into a group,
the anchors stand for the two ends of the subject, and atoms in a row match one after the other. The
limits of an engine are its own: it may refuse a pattern that is one.

* `PatternEngine.Follows`: what is documented, for a reading of written patterns.
* `PatternEngine.Follows.reads_joinedText`: how the written form of a list is read. -/

namespace LayerStencil

open PatternText (Apart Balanced Complete IsAtom)

/-- Which parts of a subject a pattern matches, from one place to another. -/
abbrev Meaning := (subject : List Char) → (first last : Nat) → Prop

namespace Meaning

/-- The start of the subject. -/
def atStart : Meaning := fun _ i j => i = 0 ∧ j = i

/-- The end of the subject. -/
def atEnd : Meaning := fun s i j => i = s.length ∧ j = i

/-- What one of two patterns matches. -/
def or (M N : Meaning) : Meaning := fun s i j => M s i j ∨ N s i j

/-- What two patterns match, one after the other. -/
def andThen (M N : Meaning) : Meaning := fun s i j => ∃ k, M s i k ∧ N s k j

/-- All of the subject is matched. -/
def IsWhole (M : Meaning) (s : List Char) : Prop := M s 0 s.length

end Meaning

/-- The engine follows the documentation of regular expressions, where `reads` tells what a text
means as a pattern, if it is one. -/
structure PatternEngine.Follows (E : PatternEngine) (reads : List Char → Option Meaning) :
    Prop where
  /-- A text that is compiled is a pattern, and it matches a subject if and only if there is a match
  for it anywhere in the subject. -/
  compiled : ∀ {cs : List Char} {c : E.Compiled}, E.compile? cs = some c → ∃ M, reads cs = some M ∧
    ∀ s, E.isMatch c s = true ↔ ∃ i j, i ≤ j ∧ j ≤ s.length ∧ M s i j
  /-- The beginning of a subject. -/
  start : reads ['^'] = some .atStart
  /-- The end of a subject. -/
  stop : reads ['$'] = some .atEnd
  /-- A numbered group matches what is in it. -/
  group : ∀ {cs : List Char}, Complete cs → reads ('(' :: (cs ++ [')'])) = reads cs
  /-- Of two patterns with a bar between them one is matched; nothing binds weaker than the bar. No
  two groups of a pattern may have the same name. -/
  alternation : ∀ {cs ds : List Char}, Balanced 0 cs → Balanced 0 ds → Apart cs ds →
    reads (cs ++ '|' :: ds) = Option.map₂ .or (reads cs) (reads ds)
  /-- Patterns in a row are matched one after the other. -/
  concatenation : ∀ {cs : List Char} {dss : List (List Char)}, IsAtom cs → (∀ ds ∈ dss, IsAtom ds) →
    Apart cs dss.flatten →
      reads (cs ++ dss.flatten) = Option.map₂ .andThen (reads cs) (reads dss.flatten)

namespace NamePattern

/-- The names of a list with bars between them. -/
def alternatives (names : List String) : List Char := (Text.joined "|" names).toList

theorem alternatives_cons_cons (n m : String) (ns : List String) :
    alternatives (n :: m :: ns) = n.toList ++ '|' :: alternatives (m :: ns) := by
  rw [alternatives, Text.joined, String.toList_append, String.toList_append, List.append_assoc]
  rfl

theorem toList_joinedText (names : List String) : (joinedText names).toList =
    ['^'] ++ [('(' :: (alternatives names ++ [')'])), ['$']].flatten := by
  rw [joinedText, String.toList_append, String.toList_append, List.append_assoc]
  simp [alternatives]

/-- Names that are complete in themselves are complete with bars between them. -/
theorem complete_alternatives {n : String} {ns : List String}
    (h : ∀ m ∈ n :: ns, Complete m.toList) : Complete (alternatives (n :: ns)) := by
  induction ns generalizing n with
  | nil => exact h n (List.mem_singleton.mpr rfl)
  | cons m ns ih =>
    obtain ⟨hn, hns⟩ := List.forall_mem_cons.mp h
    rw [alternatives_cons_cons]
    exact hn.bar (ih hns).balanced

/-- A text that has no name of a group in common with any of the names has none with all of them. -/
theorem apart_alternatives {cs : List Char} {n : String} {ns : List String}
    (h : ∀ m ∈ n :: ns, Apart m.toList cs) : Apart (alternatives (n :: ns)) cs := by
  induction ns generalizing n with
  | nil => exact h n (List.mem_singleton.mpr rfl)
  | cons m ns ih =>
    obtain ⟨hn, hns⟩ := List.forall_mem_cons.mp h
    rw [alternatives_cons_cons]
    exact hn.bar (ih hns)

end NamePattern

namespace PatternEngine.Follows
open NamePattern
variable {E : PatternEngine} {reads : List Char → Option Meaning} {n : String} {ns : List String}

/-- Names with bars between them are a pattern if each of them is one, and match what one of them
matches. -/
theorem reads_alternatives (hE : E.Follows reads) (h : ∀ m ∈ n :: ns, Complete m.toList)
    (hapart : (n :: ns).Pairwise fun m m' => Apart m.toList m'.toList) :
    (reads (alternatives (n :: ns)) = none ↔ ∃ m ∈ n :: ns, reads m.toList = none) ∧
      ∀ M, reads (alternatives (n :: ns)) = some M → ∀ s i j,
        M s i j ↔ ∃ m ∈ n :: ns, ∃ N, reads m.toList = some N ∧ N s i j := by
  induction ns generalizing n with
  | nil =>
    have hone : alternatives [n] = n.toList := rfl
    simp only [hone, List.mem_singleton, exists_eq_left]
    exact ⟨trivial, fun M hM s i j => by simp [hM]⟩
  | cons m ns ih =>
    obtain ⟨hn, hns⟩ := List.forall_mem_cons.mp h
    obtain ⟨hnapart, hnsapart⟩ := List.pairwise_cons.mp hapart
    obtain ⟨hnone, hsome⟩ := ih hns hnsapart
    have hothers : Apart n.toList (alternatives (m :: ns)) :=
      (apart_alternatives fun m' hm' => (hnapart m' hm').symm).symm
    rw [alternatives_cons_cons,
      hE.alternation hn.balanced (complete_alternatives hns).balanced hothers]
    constructor
    · rw [Option.map₂_eq_none_iff, hnone, List.exists_mem_cons_iff _ n (m :: ns)]
    · intro K hK s i j
      obtain ⟨M, N, hM, hN, rfl⟩ := Option.map₂_eq_some_iff.mp hK
      rw [List.exists_mem_cons_iff _ n (m :: ns), ← hsome N hN s i j]
      simp [Meaning.or, show reads n.toList = some M from hM]

/-- The written form of a list is a pattern if each name is one, and it matches all of a subject
that one of the names matches as a whole. -/
theorem reads_joinedText (hE : E.Follows reads) (h : ∀ m ∈ n :: ns, Complete m.toList)
    (hapart : (n :: ns).Pairwise fun m m' => Apart m.toList m'.toList) :
    (reads (joinedText (n :: ns)).toList = none ↔ ∃ m ∈ n :: ns, reads m.toList = none) ∧
      ∀ M, reads (joinedText (n :: ns)).toList = some M → ∀ s,
        (∃ i j, i ≤ j ∧ j ≤ s.length ∧ M s i j) ↔
          ∃ m ∈ n :: ns, ∃ N, reads m.toList = some N ∧ N.IsWhole s := by
  have hcomplete := complete_alternatives h
  have hgroup : IsAtom ('(' :: (alternatives (n :: ns) ++ [')'])) := .group hcomplete
  obtain ⟨hnone, hsome⟩ := hE.reads_alternatives h hapart
  have hstop : reads [['$']].flatten = some .atEnd := hE.stop
  have hreads : reads (joinedText (n :: ns)).toList = (reads (alternatives (n :: ns))).map fun M =>
      .andThen .atStart (.andThen M .atEnd) := by
    rw [toList_joinedText,
      hE.concatenation .start (by simp [hgroup, IsAtom.stop]) (.of_not_mem (by simp)), hE.start,
      List.flatten_cons,
      hE.concatenation hgroup (by simp [IsAtom.stop]) (Apart.of_not_mem (by simp)).symm, hstop,
      hE.group hcomplete]
    cases reads (alternatives (n :: ns)) <;> rfl
  rw [hreads]
  constructor
  · rw [Option.map_eq_none_iff, hnone]
  · intro K hK s
    obtain ⟨M, hM, rfl⟩ := Option.map_eq_some_iff.mp hK
    simp only [Meaning.IsWhole, ← hsome M hM s 0 s.length]
    constructor
    · rintro ⟨i, j, -, -, k, ⟨rfl, rfl⟩, l, hspan, rfl, rfl⟩
      exact hspan
    · exact fun hspan => ⟨0, s.length, Nat.zero_le _, Nat.le_refl _, 0, ⟨rfl, rfl⟩, _, hspan,
        rfl, rfl⟩

end PatternEngine.Follows

end LayerStencil
