import LayerStencil.Declarator
import LayerStencil.Proofs.Text.WhiteSpace
import Mathlib.Data.List.TakeWhile
import Mathlib.Tactic.Common

/-! # Spellings of declarators

How the parts of a declarator are written, and that the readers find exactly what is written so.
Each reader has one equivalence: it finds a part and leaves a rest if and only if the text is a
spelling of the part before that rest, and the rest does not make the part longer.

* `identifier?_eq_some_iff`, `word?_eq_some_iff`, `pointer?_eq_some_iff`, `array?_eq_some_iff`: the
  parts of a declarator.
* `Repeats.scan_eq_iff`: a reader that repeats another one, for pointers and for array suffixes.
* `TypeSpelling`: the words of a type with the blanks between them; `TypeSpelling.Before` says when
  they are read as they are meant.
* `type?_eq_some_iff`, `parse?_eq_some_iff`: types and whole declarations. -/

namespace LayerStencil

namespace Declarator

/-! ### Words and blanks -/

/-- Letters, numbers and underscores, at least one. -/
structure IsIdentifier (w : List Char) : Prop where
  ne_nil : w ≠ []
  chars : ∀ c ∈ w, Text.isIdentifierChar c

/-- Some blanks, perhaps none. -/
def IsBlanks (gap : List Char) : Prop := ∀ c ∈ gap, Text.isBlank c

/-- The text starts with a blank. -/
def StartsBlank (cs : List Char) : Prop := ∃ c ∈ cs.head?, Text.isBlank c

/-- The text starts with a character of a word. -/
def StartsWord (cs : List Char) : Prop := ∃ c ∈ cs.head?, Text.isIdentifierChar c

/-- The text does not go on with a word. -/
def EndsWord (rest : List Char) : Prop := ∀ c ∈ rest.head?, ¬ Text.isIdentifierChar c

theorem isBlanks_nil : IsBlanks [] := List.forall_mem_nil _

theorem not_isBlank_of_isIdentifierChar {c : Char} (h : Text.isIdentifierChar c) :
    ¬ Text.isBlank c :=
  fun hblank => Text.not_isWhiteSpace_of_isIdentifierChar h (Text.isWhiteSpace_of_isBlank hblank)

theorem endsWord_cons {c : Char} {cs : List Char} (h : ¬ Text.isIdentifierChar c) :
    EndsWord (c :: cs) := by
  simpa [EndsWord] using h

theorem StartsBlank.endsWord {cs : List Char} (h : StartsBlank cs) : EndsWord cs := by
  obtain ⟨c, hc, hblank⟩ := h
  intro d hd hword
  obtain rfl : c = d := Option.mem_unique hc hd
  exact not_isBlank_of_isIdentifierChar hword hblank

theorem IsBlanks.startsBlank {gap : List Char} (h : IsBlanks gap) (hne : gap ≠ [])
    (rest : List Char) : StartsBlank (gap ++ rest) := by
  cases gap with
  | nil => exact absurd rfl hne
  | cons c gap => exact ⟨c, rfl, h c List.mem_cons_self⟩

theorem IsIdentifier.startsWord {w : List Char} (hw : IsIdentifier w) (rest : List Char) :
    StartsWord (w ++ rest) := by
  cases w with
  | nil => exact absurd rfl hw.ne_nil
  | cons c w => exact ⟨c, rfl, hw.chars c List.mem_cons_self⟩

theorem StartsWord.not_startsBlank {cs : List Char} (h : StartsWord cs) : ¬ StartsBlank cs :=
  fun hblank => let ⟨c, hc, hword⟩ := h; hblank.endsWord c hc hword

/-- What ends a word after a word decides where the word ends. -/
theorem append_inj_of_endsWord {w v rest rest' : List Char} (hw : ∀ c ∈ w, Text.isIdentifierChar c)
    (hv : ∀ c ∈ v, Text.isIdentifierChar c) (hrest : EndsWord rest) (hrest' : EndsWord rest')
    (h : w ++ rest = v ++ rest') : w = v ∧ rest = rest' := by
  have htake := congrArg (List.takeWhile Text.isIdentifierChar) h
  have hdrop := congrArg (List.dropWhile Text.isIdentifierChar) h
  rw [Text.takeWhile_run hw hrest, Text.takeWhile_run hv hrest'] at htake
  rw [Text.dropWhile_run hw hrest, Text.dropWhile_run hv hrest'] at hdrop
  exact ⟨htake, hdrop⟩

/-! ### Blanks are skipped -/

theorem skipBlanks_of_not_startsBlank {cs : List Char} (h : ¬ StartsBlank cs) :
    skipBlanks cs = cs := by
  cases cs with
  | nil => rfl
  | cons c cs => exact List.dropWhile_cons_of_neg fun hc => h ⟨c, rfl, hc⟩

theorem skipBlanks_run {gap rest : List Char} (hgap : IsBlanks gap) (hrest : ¬ StartsBlank rest) :
    skipBlanks (gap ++ rest) = rest := by
  rw [skipBlanks, List.dropWhile_append_of_pos hgap]
  exact skipBlanks_of_not_startsBlank hrest

theorem not_startsBlank_skipBlanks (cs : List Char) : ¬ StartsBlank (skipBlanks cs) :=
  fun ⟨c, hc, hblank⟩ => Text.not_head_dropWhile _ cs c hc hblank

theorem exists_skipBlanks (cs : List Char) : ∃ gap, IsBlanks gap ∧ cs = gap ++ skipBlanks cs :=
  ⟨cs.takeWhile Text.isBlank, fun _ => List.mem_takeWhile_imp,
    List.takeWhile_append_dropWhile.symm⟩

/-! ### Words are found -/

theorem identifier?_eq_some_iff {cs rest : List Char} {name : String} :
    identifier? cs = some (name, rest) ↔
      IsIdentifier name.toList ∧ EndsWord rest ∧ cs = name.toList ++ rest := by
  unfold identifier?
  constructor
  · intro h
    split at h
    · cases h
    · rename_i hne
      cases h
      rw [String.toList_ofList]
      exact ⟨⟨hne, fun _ => List.mem_takeWhile_imp⟩, Text.not_head_dropWhile _ cs,
        List.takeWhile_append_dropWhile.symm⟩
  · rintro ⟨hname, hrest, rfl⟩
    rw [Text.takeWhile_run hname.chars hrest, Text.dropWhile_run hname.chars hrest]
    split
    · rename_i hnil; exact absurd hnil hname.ne_nil
    · rw [String.ofList_toList]

theorem word?_eq_some_iff {word cs rest : List Char} : word? word cs = some rest ↔
    ∃ gap, gap ≠ [] ∧ IsBlanks gap ∧ ¬ StartsBlank rest ∧ cs = word ++ (gap ++ rest) := by
  unfold word?
  constructor
  · intro h
    split at h
    · rename_i c r hafter
      split at h
      · rename_i hc
        cases h
        obtain ⟨gap, hgap, hr⟩ := exists_skipBlanks r
        refine ⟨c :: gap, List.cons_ne_nil c gap, List.forall_mem_cons.mpr ⟨hc, hgap⟩,
          not_startsBlank_skipBlanks r, ?_⟩
        rw [Text.after?_eq_some_iff.mp hafter, List.cons_append, ← hr]
      · cases h
    · cases h
  · rintro ⟨gap, hne, hgap, hrest, rfl⟩
    obtain ⟨c, gap, rfl⟩ := List.exists_cons_of_ne_nil hne
    obtain ⟨hc, hgap⟩ := List.forall_mem_cons.mp hgap
    rw [Text.after?_eq_some_iff.mpr rfl, List.cons_append]
    simp only [hc, if_true, Option.some.injEq]
    exact skipBlanks_run hgap hrest

/-- A word is found in place of another one only if it is that one and a blank follows. -/
theorem word?_eq_none_iff {word w rest : List Char} (hword : ∀ c ∈ word, Text.isIdentifierChar c)
    (hw : IsIdentifier w) (hrest : EndsWord rest) :
    word? word (w ++ rest) = none ↔ (w = word → ¬ StartsBlank rest) := by
  constructor
  · rintro hnone rfl hblank
    obtain ⟨gap, hgap, hrest'⟩ := exists_skipBlanks rest
    have hne : gap ≠ [] := by
      rintro rfl
      rw [hrest'] at hblank
      exact not_startsBlank_skipBlanks rest hblank
    have hsome := word?_eq_some_iff.mpr
      ⟨gap, hne, hgap, not_startsBlank_skipBlanks rest, congrArg (w ++ ·) hrest'⟩
    rw [hnone] at hsome
    cases hsome
  · intro h
    by_contra hsome
    obtain ⟨r, hr⟩ := Option.ne_none_iff_exists'.mp hsome
    obtain ⟨gap, hne, hgap, -, hcs⟩ := word?_eq_some_iff.mp hr
    have hblank := hgap.startsBlank hne r
    obtain ⟨rfl, rfl⟩ := append_inj_of_endsWord hw.chars hword hrest hblank.endsWord hcs
    exact h rfl hblank

/-- A word with the blanks after it, if it is written. -/
def writtenWord (word : List Char) (gap : Option (List Char)) : List Char :=
  gap.elim [] (word ++ ·)

theorem startsWord_writtenWord {word rest : List Char} (hword : IsIdentifier word)
    (gap : Option (List Char)) (hrest : StartsWord rest) :
    StartsWord (writtenWord word gap ++ rest) := by
  cases gap with
  | none => exact hrest
  | some gap =>
    rw [writtenWord, Option.elim_some, List.append_assoc]
    exact hword.startsWord _

theorem optionalWord_eq_iff {word cs rest : List Char} {found : Bool} :
    optionalWord word cs = (found, rest) ↔ ∃ gap : Option (List Char), gap.isSome = found ∧
      (∀ g ∈ gap, g ≠ [] ∧ IsBlanks g ∧ ¬ StartsBlank rest) ∧
      (gap = none → word? word rest = none) ∧ cs = writtenWord word gap ++ rest := by
  unfold optionalWord
  constructor
  · intro h
    split at h
    · rename_i r hr
      cases h
      obtain ⟨gap, hne, hgap, hrest, rfl⟩ := word?_eq_some_iff.mp hr
      exact ⟨some gap, rfl, by simpa using ⟨hne, hgap, hrest⟩, nofun, by simp [writtenWord]⟩
    · rename_i hnone
      cases h
      exact ⟨none, rfl, nofun, fun _ => hnone, rfl⟩
  · rintro ⟨_ | gap, rfl, hgap, hnone, rfl⟩
    · rw [hnone rfl]
      rfl
    · obtain ⟨hne, hblanks, hrest⟩ := hgap gap rfl
      have hword : word? word (word ++ (gap ++ rest)) = some rest :=
        word?_eq_some_iff.mpr ⟨gap, hne, hblanks, hrest, rfl⟩
      rw [writtenWord, Option.elim_some, List.append_assoc, hword]
      rfl

/-! ### Pointers -/

/-- The word that makes a type or a pointer constant. -/
abbrev constWord : List Char := ['c', 'o', 'n', 's', 't']

/-- The word that may stand before the name of a structure. -/
abbrev structWord : List Char := ['s', 't', 'r', 'u', 'c', 't']

theorem isIdentifier_constWord : IsIdentifier constWord :=
  ⟨by simp, List.all_eq_true.mp (by decide)⟩

theorem isIdentifier_structWord : IsIdentifier structWord :=
  ⟨by simp, List.all_eq_true.mp (by decide)⟩

/-- The spellings of a pointer, with the blanks before it. -/
inductive SpellsPointer : Pointer → List Char → Prop
  | mutable {gap : List Char} (hgap : IsBlanks gap) : SpellsPointer .mutable (gap ++ ['*'])
  | constant {gap gap' : List Char} (hgap : IsBlanks gap) (hgap' : IsBlanks gap') :
      SpellsPointer .constant (gap ++ (constWord ++ (gap' ++ ['*'])))

theorem not_startsBlank_star (rest : List Char) : ¬ StartsBlank ('*' :: rest) := by
  simp [StartsBlank, Text.isBlank]

theorem pointer?_eq_some_iff {cs rest : List Char} {p : Pointer} :
    pointer? cs = some (p, rest) ↔ ∃ text, SpellsPointer p text ∧ cs = text ++ rest := by
  constructor
  · intro h
    obtain ⟨gap, hgap, hcs⟩ := exists_skipBlanks cs
    unfold pointer? at h
    split at h
    · rename_i r hafter
      have hafter := Text.after?_eq_some_iff.mp hafter
      obtain ⟨gap', hgap', hr⟩ := exists_skipBlanks r
      split at h
      · rename_i r' hstar
        cases h
        refine ⟨_, .constant hgap hgap', ?_⟩
        rw [hcs, hafter, hr, hstar]; simp
      · cases h
    · split at h
      · rename_i r hstar
        cases h
        refine ⟨_, .mutable hgap, ?_⟩
        rw [hcs, hstar]; simp
      · cases h
  · rintro ⟨text, htext, rfl⟩
    unfold pointer?
    cases htext with
    | mutable hgap =>
      rw [List.append_assoc, List.singleton_append,
        skipBlanks_run hgap (not_startsBlank_star rest)]
      rfl
    | @constant _ gap' hgap hgap' =>
      simp only [List.append_assoc, List.singleton_append]
      rw [skipBlanks_run hgap (isIdentifier_constWord.startsWord _).not_startsBlank,
        Text.after?_eq_some_iff.mpr rfl]
      simp only [skipBlanks_run hgap' (not_startsBlank_star rest)]

/-- No pointer stands before a name that no star follows. -/
theorem pointer?_eq_none {gap w rest : List Char} (hgap : IsBlanks gap) (hw : IsIdentifier w)
    (hrest : EndsWord rest) (hstar : (skipBlanks rest).head? ≠ some '*') :
    pointer? (gap ++ (w ++ rest)) = none := by
  by_contra hsome
  obtain ⟨⟨p, r⟩, hr⟩ := Option.ne_none_iff_exists'.mp hsome
  obtain ⟨text, htext, hcs⟩ := pointer?_eq_some_iff.mp hr
  have hskip := congrArg skipBlanks hcs
  rw [skipBlanks_run hgap (hw.startsWord rest).not_startsBlank] at hskip
  cases htext with
  | mutable hgap' =>
    rw [List.append_assoc, List.singleton_append,
      skipBlanks_run hgap' (not_startsBlank_star r)] at hskip
    obtain ⟨c, hc, hword⟩ := hw.startsWord rest
    rw [hskip] at hc
    cases hc
    exact absurd hword (by decide)
  | @constant _ gap'' hgap' hgap'' =>
    rw [List.append_assoc, List.append_assoc,
      skipBlanks_run hgap' (isIdentifier_constWord.startsWord _).not_startsBlank] at hskip
    have hends : EndsWord (gap'' ++ ['*'] ++ r) := by
      cases gap'' with
      | nil => exact endsWord_cons (by decide)
      | cons c gap'' =>
        rw [List.append_assoc]
        exact (hgap''.startsBlank (List.cons_ne_nil c gap'') _).endsWord
    obtain ⟨-, rfl⟩ :=
      append_inj_of_endsWord hw.chars isIdentifier_constWord.chars hrest hends hskip
    rw [List.append_assoc, List.singleton_append,
      skipBlanks_run hgap'' (not_startsBlank_star r)] at hstar
    exact hstar rfl

/-! ### Array suffixes -/

/-- What can stand between the brackets of an array. A name that starts with a number below the
bound is read as that number, and is no spelling. -/
inductive SpellsSize : ArraySize → List Char → Prop
  | dynamic : SpellsSize .dynamic []
  | static {digits : List Char} (hne : digits ≠ []) (hdigits : ∀ c ∈ digits, Text.isAsciiDigit c)
      (hlt : Text.numberOf digits < Nat.pow 2 64) :
      SpellsSize (.static (Text.numberOf digits)) digits
  | constant {name : String} (hname : IsIdentifier name.toList)
      (hnumber : number? (Nat.pow 2 64) name.toList = none) :
      SpellsSize (.constant name) name.toList

/-- The spellings of an array suffix, with the blanks before it. -/
inductive SpellsArray : ArraySize → List Char → Prop
  | intro {size : ArraySize} {gap inside : List Char} (hgap : IsBlanks gap)
      (hinside : SpellsSize size inside) : SpellsArray size (gap ++ ('[' :: (inside ++ [']'])))

theorem number?_append (bound : Nat) (w : List Char) {rest : List Char}
    (hrest : ∀ c ∈ rest.head?, ¬ Text.isAsciiDigit c) :
    number? bound (w ++ rest) = (number? bound w).map fun found => (found.1, found.2 ++ rest) := by
  have hhead : ∀ c ∈ (w.dropWhile Text.isAsciiDigit ++ rest).head?, ¬ Text.isAsciiDigit c := by
    rw [List.head?_append]
    intro c hc
    rcases Option.or_eq_some_iff.mp hc with hc | ⟨-, hc⟩
    · exact Text.not_head_dropWhile _ w c hc
    · exact hrest c hc
  have hdigits : ∀ c ∈ w.takeWhile Text.isAsciiDigit, Text.isAsciiDigit c :=
    fun _ => List.mem_takeWhile_imp
  have htake := Text.takeWhile_run hdigits hhead
  have hdrop := Text.dropWhile_run hdigits hhead
  rw [← List.append_assoc, List.takeWhile_append_dropWhile] at htake hdrop
  unfold number?
  rw [htake, hdrop]
  split
  · rfl
  · dsimp only
    split <;> rfl

theorem number?_digits {bound : Nat} {digits : List Char} (hne : digits ≠ [])
    (hdigits : ∀ c ∈ digits, Text.isAsciiDigit c) (hlt : Text.numberOf digits < bound) :
    number? bound digits = some (Text.numberOf digits, []) := by
  unfold number?
  rw [List.takeWhile_eq_self_iff.mpr hdigits, List.dropWhile_eq_nil_iff.mpr hdigits]
  split
  · exact absurd rfl hne
  · rw [if_pos hlt]

theorem endsWord_bracket (rest : List Char) : EndsWord (']' :: rest) := endsWord_cons (by decide)

theorem not_isAsciiDigit_bracket (rest : List Char) :
    ∀ c ∈ (']' :: rest).head?, ¬ Text.isAsciiDigit c := by
  simp [Text.isAsciiDigit]

/-- What stands before a bracket is read as a size if and only if it spells that size. -/
theorem arraySize_eq_iff {cs rest : List Char} {size : ArraySize} :
    arraySize cs = (size, ']' :: rest) ↔
      ∃ inside, SpellsSize size inside ∧ cs = inside ++ ']' :: rest := by
  unfold arraySize
  constructor
  · intro h
    split at h
    · rename_i n r hnumber
      cases h
      unfold number? at hnumber
      split at hnumber
      · cases hnumber
      · rename_i hne
        simp only [Option.ite_none_right_eq_some, Option.some.injEq, Prod.mk.injEq] at hnumber
        obtain ⟨hlt, rfl, hdrop⟩ := hnumber
        refine ⟨_, .static hne (fun _ => List.mem_takeWhile_imp) hlt, ?_⟩
        rw [← hdrop, List.takeWhile_append_dropWhile]
    · rename_i hnumber
      split at h
      · rename_i name r hread
        cases h
        obtain ⟨hname, -, rfl⟩ := identifier?_eq_some_iff.mp hread
        rw [number?_append _ _ (not_isAsciiDigit_bracket rest), Option.map_eq_none_iff] at hnumber
        exact ⟨name.toList, .constant hname hnumber, rfl⟩
      · cases h
        exact ⟨[], .dynamic, rfl⟩
  · rintro ⟨inside, hinside, rfl⟩
    rw [number?_append _ _ (not_isAsciiDigit_bracket rest)]
    cases hinside with
    | dynamic => rfl
    | static hne hdigits hlt => rw [number?_digits hne hdigits hlt]; rfl
    | constant hname hnumber =>
      have hidentifier := identifier?_eq_some_iff.mpr
        ⟨hname, endsWord_bracket rest, rfl⟩
      rw [hnumber, Option.map_none]
      simp only [hidentifier]

theorem array?_eq_some_iff {cs rest : List Char} {size : ArraySize} :
    array? cs = some (size, rest) ↔ ∃ text, SpellsArray size text ∧ cs = text ++ rest := by
  constructor
  · intro h
    obtain ⟨gap, hgap, hcs⟩ := exists_skipBlanks cs
    unfold array? at h
    split at h
    · rename_i r hopen
      split at h
      · rename_i hsize
        cases h
        obtain ⟨inside, hinside, rfl⟩ := arraySize_eq_iff.mp hsize
        refine ⟨_, .intro hgap hinside, ?_⟩
        rw [hcs, hopen]; simp
      · cases h
    · cases h
  · rintro ⟨_, @⟨gap, inside, hgap, hinside⟩, rfl⟩
    have hopen : ¬ StartsBlank ('[' :: (inside ++ ']' :: rest)) := by
      simp [StartsBlank, Text.isBlank]
    unfold array?
    simp only [List.append_assoc, List.cons_append, List.nil_append]
    rw [skipBlanks_run hgap hopen]
    simp only [arraySize_eq_iff.mpr ⟨inside, hinside, rfl⟩]

/-! ### Repetition -/

/-- The spellings of several parts in a row. -/
inductive SpellsAll {α : Type} (Spells : α → List Char → Prop) : List α → List Char → Prop
  | nil : SpellsAll Spells [] []
  | cons {a : α} {as : List α} {text texts : List Char} (ha : Spells a text)
      (has : SpellsAll Spells as texts) : SpellsAll Spells (a :: as) (text ++ texts)

theorem SpellsAll.exists_of_mem {α : Type} {Spells : α → List Char → Prop} {as : List α}
    {text : List Char} (h : SpellsAll Spells as text) {a : α} (ha : a ∈ as) :
    ∃ t, Spells a t := by
  induction h with
  | nil => cases ha
  | cons hb _ ih =>
    rcases List.mem_cons.mp ha with rfl | ha
    · exact ⟨_, hb⟩
    · exact ih ha

/-- `scan` reads what `item?` finds as often as it can. -/
structure Repeats {α : Type} (Spells : α → List Char → Prop)
    (item? : List Char → Option (α × List Char)) (scan : List Char → List α × List Char) :
    Prop where
  item?_eq_some_iff : ∀ {cs rest a}, item? cs = some (a, rest) ↔
    ∃ text, Spells a text ∧ cs = text ++ rest
  shorter : ∀ {cs rest a}, item? cs = some (a, rest) → rest.length < cs.length
  stop : ∀ {cs}, item? cs = none → scan cs = ([], cs)
  more : ∀ {cs rest a}, item? cs = some (a, rest) → scan cs = (a :: (scan rest).1, (scan rest).2)

section Repeats
variable {α : Type} {Spells : α → List Char → Prop} {item? : List Char → Option (α × List Char)}
  {scan : List Char → List α × List Char}

theorem Repeats.scan_append (h : Repeats Spells item? scan) {as : List α} {text rest : List Char}
    (htext : SpellsAll Spells as text) (hrest : item? rest = none) :
    scan (text ++ rest) = (as, rest) := by
  induction htext with
  | nil => exact h.stop hrest
  | @cons a as text texts ha _ ih =>
    rw [List.append_assoc, h.more (h.item?_eq_some_iff.mpr ⟨text, ha, rfl⟩), ih]

/-- The text is cut where no item is found any more; the induction is on its length. -/
theorem Repeats.exists_spells (h : Repeats Spells item? scan) (cs : List Char) :
    ∃ text, SpellsAll Spells (scan cs).1 text ∧ item? (scan cs).2 = none ∧
      cs = text ++ (scan cs).2 := by
  induction hn : cs.length using Nat.strong_induction_on generalizing cs with
  | _ n ih =>
    cases hitem : item? cs with
    | none => exact ⟨[], by rw [h.stop hitem]; exact .nil, by rw [h.stop hitem]; exact hitem,
        by rw [h.stop hitem]; rfl⟩
    | some found =>
      obtain ⟨a, r⟩ := found
      obtain ⟨text, ha, hcs⟩ := h.item?_eq_some_iff.mp hitem
      obtain ⟨texts, has, hrest, hr⟩ := ih r.length (hn ▸ h.shorter hitem) r rfl
      rw [h.more hitem]
      refine ⟨text ++ texts, .cons ha has, hrest, ?_⟩
      rw [List.append_assoc, ← hr]
      exact hcs

theorem Repeats.scan_eq_iff (h : Repeats Spells item? scan) {cs rest : List Char} {as : List α} :
    scan cs = (as, rest) ↔
      ∃ text, SpellsAll Spells as text ∧ item? rest = none ∧ cs = text ++ rest := by
  constructor
  · intro hscan
    obtain ⟨text, htext, hrest, hcs⟩ := h.exists_spells cs
    rw [hscan] at htext hrest hcs
    exact ⟨text, htext, hrest, hcs⟩
  · rintro ⟨text, htext, hrest, rfl⟩
    exact h.scan_append htext hrest

end Repeats

theorem repeats_scanPointers : Repeats SpellsPointer pointer? scanPointers where
  item?_eq_some_iff := pointer?_eq_some_iff
  shorter := length_lt_of_pointer?
  stop h := by rw [scanPointers]; split <;> simp_all
  more h := by rw [scanPointers]; split <;> simp_all

theorem repeats_scanArrays : Repeats SpellsArray array? scanArrays where
  item?_eq_some_iff := array?_eq_some_iff
  shorter := length_lt_of_array?
  stop h := by rw [scanArrays]; split <;> simp_all
  more h := by rw [scanArrays]; split <;> simp_all

/-! ### Types -/

/-- How a type is written: the blanks after `const` and after `struct`, where these stand, the base
type, and the pointers with their text. -/
structure TypeSpelling where
  constGap : Option (List Char)
  structGap : Option (List Char)
  base : String
  pointers : List Pointer
  pointerText : List Char

namespace TypeSpelling

def text (s : TypeSpelling) : List Char :=
  writtenWord constWord s.constGap ++
    (writtenWord structWord s.structGap ++ (s.base.toList ++ s.pointerText))

/-- The type that is written so. -/
def type (s : TypeSpelling) : CType := ⟨s.base, s.constGap.isSome, s.pointers⟩

/-- The type is read as it is meant before `rest`. A base type may have the name of an optional
word that is not written, if no blank follows it. -/
structure Before (s : TypeSpelling) (rest : List Char) : Prop where
  constGap : ∀ gap ∈ s.constGap, gap ≠ [] ∧ IsBlanks gap
  structGap : ∀ gap ∈ s.structGap, gap ≠ [] ∧ IsBlanks gap
  base : IsIdentifier s.base.toList
  pointers : SpellsAll SpellsPointer s.pointers s.pointerText
  endsWord : EndsWord (s.pointerText ++ rest)
  noPointer : pointer? rest = none
  notConst : s.constGap = none → s.structGap = none → s.base.toList = constWord →
    ¬ StartsBlank (s.pointerText ++ rest)
  notStruct : s.structGap = none → s.base.toList = structWord →
    ¬ StartsBlank (s.pointerText ++ rest)

/-- What follows matters only in that it ends the type, and by the blank after a lone word. -/
theorem Before.transfer {s : TypeSpelling} {rest rest' : List Char} (h : s.Before rest)
    (hblank : s.pointerText = [] → StartsBlank rest) (hends : EndsWord rest')
    (hnone : pointer? rest' = none) : s.Before rest' := by
  cases htext : s.pointerText with
  | nil =>
    have hblank := hblank htext
    have hstart : StartsBlank (s.pointerText ++ rest) := by rwa [htext]
    exact { h with
      endsWord := by rwa [htext]
      noPointer := hnone
      notConst := fun hc hs hb => absurd hstart (h.notConst hc hs hb)
      notStruct := fun hs hb => absurd hstart (h.notStruct hs hb) }
  | cons c text =>
    have hhead : (s.pointerText ++ rest').head? = (s.pointerText ++ rest).head? := by
      rw [htext]; rfl
    exact { h with
      endsWord := by rw [EndsWord, hhead]; exact h.endsWord
      noPointer := hnone
      notConst := by rw [StartsBlank, hhead]; exact h.notConst
      notStruct := by rw [StartsBlank, hhead]; exact h.notStruct }

end TypeSpelling

/-- The steps in which a type is read. -/
theorem type?_eq_some_iff_steps {cs rest : List Char} {t : CType} : type? cs = some (t, rest) ↔
    ∃ isStruct r₁ r₂ r₃, optionalWord constWord cs = (t.isConst, r₁) ∧
      optionalWord structWord r₁ = (isStruct, r₂) ∧ identifier? r₂ = some (t.name, r₃) ∧
      scanPointers r₃ = (t.pointers, rest) := by
  unfold type?
  constructor
  · intro h
    split at h
    rename_i isConst r₁ hconst
    split at h
    rename_i isStruct r₂ hstruct
    split at h
    · cases h
    · rename_i name r₃ hname
      split at h
      rename_i ps r hpointers
      cases h
      exact ⟨isStruct, r₁, r₂, r₃, hconst, hstruct, hname, hpointers⟩
  · rintro ⟨isStruct, r₁, r₂, r₃, hconst, hstruct, hname, hpointers⟩
    simp only [hconst, hstruct, hname, hpointers]

theorem TypeSpelling.Before.startsWord_struct {s : TypeSpelling} {rest : List Char}
    (h : s.Before rest) : StartsWord (writtenWord structWord s.structGap ++
      (s.base.toList ++ (s.pointerText ++ rest))) :=
  startsWord_writtenWord isIdentifier_structWord _ (h.base.startsWord _)

/-- No `const` is found where none is meant. -/
theorem TypeSpelling.Before.word?_const {s : TypeSpelling} {rest : List Char} (h : s.Before rest)
    (hconst : s.constGap = none) : word? constWord (writtenWord structWord s.structGap ++
      (s.base.toList ++ (s.pointerText ++ rest))) = none := by
  cases hstruct : s.structGap with
  | none =>
    exact (word?_eq_none_iff isIdentifier_constWord.chars h.base h.endsWord).mpr
      (h.notConst hconst hstruct)
  | some gap =>
    obtain ⟨hne, hgap⟩ := h.structGap gap hstruct
    rw [writtenWord, Option.elim_some, List.append_assoc]
    exact (word?_eq_none_iff isIdentifier_constWord.chars isIdentifier_structWord
      (hgap.startsBlank hne _).endsWord).mpr fun heq => absurd heq (by decide)

theorem type?_eq_some_iff {cs rest : List Char} {t : CType} : type? cs = some (t, rest) ↔
    ∃ s : TypeSpelling, s.Before rest ∧ s.type = t ∧ cs = s.text ++ rest := by
  rw [type?_eq_some_iff_steps]
  constructor
  · rintro ⟨isStruct, r₁, r₂, r₃, hconst, hstruct, hname, hpointers⟩
    obtain ⟨constGap, hisConst, hconstGap, hconstNone, rfl⟩ := optionalWord_eq_iff.mp hconst
    obtain ⟨structGap, -, hstructGap, hstructNone, rfl⟩ := optionalWord_eq_iff.mp hstruct
    obtain ⟨hbase, hends, rfl⟩ := identifier?_eq_some_iff.mp hname
    obtain ⟨pointerText, hspells, hnone, rfl⟩ := repeats_scanPointers.scan_eq_iff.mp hpointers
    refine ⟨⟨constGap, structGap, t.name, t.pointers, pointerText⟩, ?_, ?_, ?_⟩
    · exact {
        constGap := fun gap hgap => ⟨(hconstGap gap hgap).1, (hconstGap gap hgap).2.1⟩
        structGap := fun gap hgap => ⟨(hstructGap gap hgap).1, (hstructGap gap hgap).2.1⟩
        base := hbase
        pointers := hspells
        endsWord := hends
        noPointer := hnone
        notConst := fun hc hs => by
          dsimp only at hc hs
          subst hs
          exact (word?_eq_none_iff isIdentifier_constWord.chars hbase hends).mp (hconstNone hc)
        notStruct := fun hs =>
          (word?_eq_none_iff isIdentifier_structWord.chars hbase hends).mp (hstructNone hs) }
    · rw [TypeSpelling.type, hisConst]
    · simp only [TypeSpelling.text, List.append_assoc]
  · rintro ⟨s, h, rfl, rfl⟩
    refine ⟨s.structGap.isSome, _, _, _,
      optionalWord_eq_iff.mpr ⟨s.constGap, rfl, fun gap hgap => ⟨(h.constGap gap hgap).1,
        (h.constGap gap hgap).2, h.startsWord_struct.not_startsBlank⟩, h.word?_const, ?_⟩,
      optionalWord_eq_iff.mpr ⟨s.structGap, rfl, fun gap hgap => ⟨(h.structGap gap hgap).1,
        (h.structGap gap hgap).2, (h.base.startsWord _).not_startsBlank⟩,
        fun hs => (word?_eq_none_iff isIdentifier_structWord.chars h.base h.endsWord).mpr
          (h.notStruct hs), rfl⟩,
      identifier?_eq_some_iff.mpr ⟨h.base, h.endsWord, rfl⟩,
      repeats_scanPointers.scan_append h.pointers h.noPointer⟩
    simp only [TypeSpelling.text, List.append_assoc]

theorem TypeSpelling.Before.startsWord {s : TypeSpelling} {rest : List Char} (h : s.Before rest)
    (rest' : List Char) : StartsWord (s.text ++ rest') := by
  simp only [TypeSpelling.text, List.append_assoc]
  exact startsWord_writtenWord isIdentifier_constWord _
    (startsWord_writtenWord isIdentifier_structWord _ (h.base.startsWord _))

theorem getLast_pointers {ps : List Pointer} {text : List Char}
    (h : SpellsAll SpellsPointer ps text) : ∀ c ∈ text.getLast?, c = '*' := by
  induction h with
  | nil => simp
  | @cons p ps text texts hp _ ih =>
    have hlast : text.getLast? = some '*' := by
      cases hp with
      | mutable => simp
      | constant => simp [List.getLast?_append, List.getLast?_cons]
    intro c hc
    rw [List.getLast?_append, hlast] at hc
    rcases Option.or_eq_some_iff.mp hc with hc | ⟨-, hc⟩
    · exact ih c hc
    · exact (Option.some.inj hc).symm

/-- A type ends with its base type or with a star. -/
theorem TypeSpelling.Before.getLast_text {s : TypeSpelling} {rest : List Char} (h : s.Before rest) :
    ∀ c ∈ s.text.getLast?, Text.isIdentifierChar c ∨ c = '*' := by
  intro c hc
  rw [TypeSpelling.text, ← List.append_assoc, List.getLast?_append, List.getLast?_append] at hc
  rcases Option.or_eq_some_iff.mp hc with hc | ⟨hnone, -⟩
  · rcases Option.or_eq_some_iff.mp hc with hc | ⟨-, hc⟩
    · exact .inr (getLast_pointers h.pointers c hc)
    · exact .inl (h.base.chars c (List.mem_of_getLast? hc))
  · have hbase := (Option.or_eq_none_iff.mp hnone).2
    exact absurd (List.getLast?_eq_none_iff.mp hbase) h.base.ne_nil

theorem TypeSpelling.Before.not_isWhiteSpace_getLast {s : TypeSpelling} {rest : List Char}
    (h : s.Before rest) : ∀ c ∈ s.text.getLast?, ¬ Text.isWhiteSpace c := by
  intro c hc
  rcases h.getLast_text c hc with hword | rfl
  · exact Text.not_isWhiteSpace_of_isIdentifierChar hword
  · decide

theorem TypeSpelling.Before.trim_text {s : TypeSpelling} {rest : List Char} (h : s.Before rest) :
    Text.trim Text.isWhiteSpace s.text = s.text := by
  refine Text.trim_eq_self (fun c hc => ?_) h.not_isWhiteSpace_getLast
  obtain ⟨d, hd, hword⟩ := h.startsWord []
  rw [List.append_nil] at hd
  obtain rfl := Option.mem_unique hc hd
  exact Text.not_isWhiteSpace_of_isIdentifierChar hword

/-! ### Whole declarations -/

/-- How a declaration is written up to its bit width: the blanks before it, its type, the blanks
before its name, and the array suffixes with their text. -/
structure Spelling where
  lead : List Char
  type : TypeSpelling
  gap : List Char
  name : String
  arrays : List ArraySize
  arrayText : List Char

namespace Spelling

def text (s : Spelling) : List Char :=
  s.lead ++ (s.type.text ++ (s.gap ++ (s.name.toList ++ s.arrayText)))

/-- The declaration that is written so, with a bit width after it. -/
def declarator (s : Spelling) (width : Option Nat) : Declarator :=
  ⟨s.type.text, s.type.type, s.name, s.arrays, width⟩

/-- The declaration is read as it is meant before `rest`. -/
structure Before (s : Spelling) (rest : List Char) : Prop where
  lead : IsBlanks s.lead
  type : s.type.Before (s.gap ++ (s.name.toList ++ (s.arrayText ++ rest)))
  gap : IsBlanks s.gap
  name : IsIdentifier s.name.toList
  endsWord : EndsWord (s.arrayText ++ rest)
  arrays : SpellsAll SpellsArray s.arrays s.arrayText
  noArray : array? rest = none

end Spelling

theorem parse?_eq_some_iff {cs rest : List Char} {d : Declarator} : parse? cs = some (d, rest) ↔
    ∃ (s : Spelling) (tail : List Char), s.Before tail ∧
      scanWidth tail = (d.bitWidth, rest) ∧ d = s.declarator d.bitWidth ∧ cs = s.text ++ tail := by
  unfold parse?
  constructor
  · intro h
    obtain ⟨lead, hlead, hcs⟩ := exists_skipBlanks cs
    dsimp only at h
    split at h
    · cases h
    · rename_i type afterType htype
      obtain ⟨s, hs, rfl, htext⟩ := type?_eq_some_iff.mp htype
      obtain ⟨gap, hgap, hafterType⟩ := exists_skipBlanks afterType
      split at h
      · cases h
      · rename_i name afterName hname
        obtain ⟨hname, hends, hafterName⟩ := identifier?_eq_some_iff.mp hname
        obtain ⟨arrayText, hspells, hnone, harrays⟩ := repeats_scanArrays.exists_spells afterName
        rw [hafterName] at hafterType
        cases h
        refine ⟨⟨lead, s, gap, name, (scanArrays afterName).1, arrayText⟩,
          (scanArrays afterName).2, ?_, rfl, ?_, ?_⟩
        · rw [hafterType, harrays] at hs
          exact ⟨hlead, hs, hgap, hname, harrays ▸ hends, hspells, hnone⟩
        · rw [Spelling.declarator, htext]
          simp only [List.length_append, Nat.add_sub_cancel, List.take_left, hs.trim_text]
        · rw [hcs, htext, hafterType, Spelling.text]
          simp only [List.append_assoc, ← harrays]
  · rintro ⟨s, tail, h, hwidth, hd, rfl⟩
    have hskip : skipBlanks (s.text ++ tail) =
        s.type.text ++ (s.gap ++ (s.name.toList ++ (s.arrayText ++ tail))) := by
      rw [← skipBlanks_run h.lead (h.type.startsWord _).not_startsBlank]
      simp only [Spelling.text, List.append_assoc]
    have htype := type?_eq_some_iff.mpr ⟨s.type, h.type, rfl, rfl⟩
    have hskip' := skipBlanks_run h.gap (h.name.startsWord (s.arrayText ++ tail)).not_startsBlank
    have hname := identifier?_eq_some_iff.mpr ⟨h.name, h.endsWord, rfl⟩
    have harrays := repeats_scanArrays.scan_append h.arrays h.noArray
    simp only [hskip, htype, hskip', hname, harrays, hwidth]
    rw [List.length_append, Nat.add_sub_cancel, List.take_left, h.type.trim_text]
    exact congrArg (fun d => some (d, rest)) hd.symm

end Declarator

end LayerStencil
