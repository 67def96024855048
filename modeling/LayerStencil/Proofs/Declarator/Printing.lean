import LayerStencil.Proofs.Declarator.Prototype

/-! # Printed declarations

A declaration can be printed with any blanks between its parts, as long as two words do not touch.
However the blanks are chosen, it is read as the parts that were printed, and a text after it that
is empty or starts with a semicolon is left over.

* `Printing`: the parts of a declaration with the blanks between them.
* `Printing.Spaced`: the parts are such as can be printed, and no two words touch.
* `Printing.before`: a printed declaration is a spelling that is read as it is meant.
* `parse?_printing`: a printed declaration is read as its parts. -/

namespace LayerStencil.Declarator

/-- A pointer with the blanks before it and, if it is constant, those before its star. -/
inductive PrintedPointer where
  | mutable (gap : List Char)
  | constant (gap starGap : List Char)

namespace PrintedPointer

def pointer : PrintedPointer → Pointer
  | mutable _ => .mutable
  | constant _ _ => .constant

def text : PrintedPointer → List Char
  | mutable gap => gap ++ ['*']
  | constant gap starGap => gap ++ (constWord ++ (starGap ++ ['*']))

/-- Only blanks stand between the parts of the pointer. -/
def Spaced : PrintedPointer → Prop
  | mutable gap => IsBlanks gap
  | constant gap starGap => IsBlanks gap ∧ IsBlanks starGap

end PrintedPointer

/-- An array suffix with the blanks before it. -/
structure PrintedArray where
  gap : List Char
  size : ArraySize

namespace PrintedArray

/-- What stands between the brackets. -/
def inside (a : PrintedArray) : List Char := ((Declaration.writtenSize? a.size).getD "").toList

def text (a : PrintedArray) : List Char := a.gap ++ ('[' :: (a.inside ++ [']']))

/-- A size has 64 bits, a named constant starts with no digit. -/
structure Spaced (a : PrintedArray) : Prop where
  gap : IsBlanks a.gap
  static : ∀ n, a.size = .static n → n < Nat.pow 2 64
  constant : ∀ name, a.size = .constant name → IsIdentifier name.toList ∧
    ∀ c ∈ name.toList.head?, ¬ Text.isAsciiDigit c

end PrintedArray

/-- A bit width with the blanks around its colon. -/
structure PrintedWidth where
  gap : List Char
  numberGap : List Char
  width : Nat

def PrintedWidth.text (w : PrintedWidth) : List Char :=
  w.gap ++ (':' :: (w.numberGap ++ (Text.decimal w.width).toList))

/-- A declaration with the blanks between its parts: those after `const` and after `struct`, where
these stand, those before the name, and those that the pointers, arrays and the bit width have. -/
structure Printing where
  constGap : Option (List Char)
  structGap : Option (List Char)
  base : String
  pointers : List PrintedPointer
  gap : List Char
  name : String
  arrays : List PrintedArray
  width : Option PrintedWidth

namespace Printing

def typeText (p : Printing) : List Char :=
  writtenWord constWord p.constGap ++ (writtenWord structWord p.structGap ++
    (p.base.toList ++ p.pointers.flatMap PrintedPointer.text))

def widthText (p : Printing) : List Char := p.width.elim [] PrintedWidth.text

def text (p : Printing) : List Char :=
  p.typeText ++ (p.gap ++ (p.name.toList ++ (p.arrays.flatMap PrintedArray.text ++ p.widthText)))

/-- The parts that are printed. -/
def declarator (p : Printing) : Declarator where
  typeText := p.typeText
  type := ⟨p.base, p.constGap.isSome, p.pointers.map PrintedPointer.pointer⟩
  name := p.name
  arrays := p.arrays.map PrintedArray.size
  bitWidth := p.width.map PrintedWidth.width

/-- The words are identifiers, the base type none of the optional words, the numbers in range;
blanks stand between the parts, and at least one where two words would touch. -/
structure Spaced (p : Printing) : Prop where
  constGap : ∀ gap ∈ p.constGap, gap ≠ [] ∧ IsBlanks gap
  structGap : ∀ gap ∈ p.structGap, gap ≠ [] ∧ IsBlanks gap
  base : IsIdentifier p.base.toList
  notConst : p.base.toList ≠ constWord
  notStruct : p.base.toList ≠ structWord
  pointers : ∀ pointer ∈ p.pointers, pointer.Spaced
  pointerApart : ∀ gap starGap, p.pointers.head? = some (.constant gap starGap) → gap ≠ []
  gap : IsBlanks p.gap
  nameApart : p.pointers = [] → p.gap ≠ []
  name : IsIdentifier p.name.toList
  arrays : ∀ a ∈ p.arrays, a.Spaced
  width : ∀ w ∈ p.width, IsBlanks w.gap ∧ IsBlanks w.numberGap ∧ w.width < Nat.pow 2 32

end Printing

instance (gap : List Char) : Decidable (IsBlanks gap) := List.decidableBAll _ gap

instance (w : List Char) : Decidable (IsIdentifier w) :=
  decidable_of_iff (w ≠ [] ∧ w.all Text.isIdentifierChar)
    ⟨fun h => ⟨h.1, List.all_eq_true.mp h.2⟩, fun h => ⟨h.ne_nil, List.all_eq_true.mpr h.chars⟩⟩

instance : (p : PrintedPointer) → Decidable p.Spaced
  | .mutable gap => inferInstanceAs (Decidable (IsBlanks gap))
  | .constant gap starGap => inferInstanceAs (Decidable (IsBlanks gap ∧ IsBlanks starGap))

/-! ### The parts are spelled -/

theorem spells_printedPointers {ps : List PrintedPointer} (h : ∀ p ∈ ps, p.Spaced) :
    SpellsAll SpellsPointer (ps.map PrintedPointer.pointer) (ps.flatMap PrintedPointer.text) := by
  induction ps with
  | nil => exact .nil
  | cons p ps ih =>
    obtain ⟨hp, hps⟩ := List.forall_mem_cons.mp h
    refine .cons ?_ (ih hps)
    cases p with
    | mutable gap => exact .mutable hp
    | constant gap starGap => exact .constant hp.1 hp.2

theorem number?_eq_none {bound : Nat} {cs : List Char} (h : ∀ c ∈ cs.head?, ¬ Text.isAsciiDigit c) :
    number? bound cs = none := by
  have htake := Text.takeWhile_run (s := []) (List.forall_mem_nil _) h
  rw [List.nil_append] at htake
  rw [number?, htake]

theorem PrintedArray.Spaced.spells {a : PrintedArray} (h : a.Spaced) :
    SpellsArray a.size a.text := by
  refine .intro h.gap ?_
  unfold PrintedArray.inside
  cases hsize : a.size with
  | dynamic => exact .dynamic
  | static n => exact Declaration.spells_decimal (h.static n hsize)
  | constant name =>
    obtain ⟨hname, hdigit⟩ := h.constant name hsize
    exact .constant hname (number?_eq_none hdigit)

theorem spells_printedArrays {as : List PrintedArray} (h : ∀ a ∈ as, a.Spaced) :
    SpellsAll SpellsArray (as.map PrintedArray.size) (as.flatMap PrintedArray.text) := by
  induction as with
  | nil => exact .nil
  | cons a as ih =>
    obtain ⟨ha, has⟩ := List.forall_mem_cons.mp h
    exact .cons ha.spells (ih has)

/-! ### What follows the name -/

/-- What follows the name of a declaration: after blanks, a bracket, a colon, a semicolon or
nothing. -/
def EndsName (rest : List Char) : Prop :=
  ∀ c ∈ (skipBlanks rest).head?, c = '[' ∨ c = ':' ∨ c = ';'

theorem endsName_append {gap rest : List Char} {c : Char} (hgap : IsBlanks gap)
    (hc : c = '[' ∨ c = ':' ∨ c = ';') : EndsName (gap ++ c :: rest) := by
  have hblank : ¬ StartsBlank (c :: rest) := by
    rintro ⟨d, hd, hblank⟩
    obtain rfl : c = d := Option.some.inj hd
    rcases hc with rfl | rfl | rfl <;> exact absurd hblank (by decide)
  intro d hd
  rw [skipBlanks_run hgap hblank] at hd
  obtain rfl : c = d := Option.some.inj hd
  exact hc

theorem EndsName.endsWord {rest : List Char} (h : EndsName rest) : EndsWord rest := by
  by_cases hblank : StartsBlank rest
  · exact hblank.endsWord
  · intro c hc
    rw [EndsName, skipBlanks_of_not_startsBlank hblank] at h
    rcases h c hc with rfl | rfl | rfl <;> decide

theorem EndsName.noPointer {rest gap name : List Char} (h : EndsName rest) (hgap : IsBlanks gap)
    (hname : IsIdentifier name) : pointer? (gap ++ (name ++ rest)) = none := by
  refine pointer?_eq_none hgap hname h.endsWord fun hstar => ?_
  exact absurd (h '*' hstar) (by decide)

/-- The text after a declaration: none, or one that starts with a semicolon. -/
def IsTail (tail : List Char) : Prop := ∀ c ∈ tail.head?, c = ';'

instance (tail : List Char) : Decidable (IsTail tail) := Option.decidableForallMem tail.head?

theorem IsTail.skipBlanks {tail : List Char} (h : IsTail tail) : skipBlanks tail = tail := by
  refine skipBlanks_of_not_startsBlank ?_
  rintro ⟨c, hc, hblank⟩
  rw [h c hc] at hblank
  exact absurd hblank (by decide)

theorem IsTail.endsName {tail : List Char} (h : IsTail tail) : EndsName tail := by
  intro c hc
  rw [h.skipBlanks] at hc
  exact .inr (.inr (h c hc))

section Width
variable {p : Printing} (h : p.Spaced) {tail : List Char} (htail : IsTail tail)
include h htail

theorem Printing.Spaced.endsName_width : EndsName (p.widthText ++ tail) := by
  rw [Printing.widthText]
  cases hw : p.width with
  | none => exact htail.endsName
  | some w =>
    rw [Option.elim_some, PrintedWidth.text, List.append_assoc, List.cons_append]
    exact endsName_append (h.width w hw).1 (.inr (.inl rfl))

theorem Printing.Spaced.endsName_arrays :
    EndsName (p.arrays.flatMap PrintedArray.text ++ (p.widthText ++ tail)) := by
  cases has : p.arrays with
  | nil => exact h.endsName_width htail
  | cons a as =>
    rw [List.flatMap_cons, PrintedArray.text, List.append_assoc, List.append_assoc,
      List.cons_append]
    exact endsName_append (h.arrays a (has ▸ List.mem_cons_self)).gap (.inl rfl)

theorem Printing.Spaced.noArray : array? (p.widthText ++ tail) = none := by
  have hopen : ∀ r, skipBlanks (p.widthText ++ tail) ≠ '[' :: r := by
    intro r hr
    rw [Printing.widthText] at hr
    cases hw : p.width with
    | none =>
      rw [hw, Option.elim_none, List.nil_append, htail.skipBlanks] at hr
      exact absurd (htail '[' (hr ▸ rfl)) (by decide)
    | some w =>
      rw [hw, Option.elim_some, PrintedWidth.text, List.append_assoc, List.cons_append,
        skipBlanks_run (h.width w hw).1 (by simp [StartsBlank, Text.isBlank])] at hr
      cases hr
  unfold array?
  split
  · rename_i r hr
    exact absurd hr (hopen r)
  · rfl

/-- The bit width is read back, and the tail is left. -/
theorem Printing.Spaced.scanWidth_eq :
    scanWidth (p.widthText ++ tail) = (p.width.map PrintedWidth.width, tail) := by
  rw [Printing.widthText]
  cases hw : p.width with
  | none =>
    unfold scanWidth
    rw [Option.elim_none, List.nil_append, htail.skipBlanks]
    split
    · exact absurd (htail ':' rfl) (by decide)
    · rfl
  | some w =>
    obtain ⟨hgap, hnumberGap, hlt⟩ := h.width w hw
    obtain ⟨hne, hdigits, hvalue⟩ := Declaration.digits_decimal w.width
    have hnumber : number? (Nat.pow 2 32) ((Text.decimal w.width).toList ++ tail) =
        some (w.width, tail) := by
      rw [number?_append _ _ fun c hc => by rw [htail c hc]; decide,
        number?_digits hne hdigits (hvalue.symm ▸ hlt), hvalue]
      rfl
    have hblank : ¬ StartsBlank ((Text.decimal w.width).toList ++ tail) := by
      rintro ⟨c, hc, hblank⟩
      obtain ⟨d, digits, hcons⟩ := List.exists_cons_of_ne_nil hne
      rw [hcons, List.cons_append] at hc
      obtain rfl : d = c := Option.some.inj hc
      have hdigit : Text.isAsciiAlphanumeric d := by
        simp [Text.isAsciiAlphanumeric, hdigits d (hcons ▸ List.mem_cons_self)]
      exact Text.not_isWhiteSpace_of_isAsciiAlphanumeric hdigit
        (Text.isWhiteSpace_of_isBlank hblank)
    unfold scanWidth
    rw [Option.elim_some, PrintedWidth.text, List.append_assoc, List.cons_append,
      skipBlanks_run hgap (by simp [StartsBlank, Text.isBlank])]
    simp only [List.append_assoc, skipBlanks_run hnumberGap hblank, hnumber, Option.map_some]

end Width

/-! ### Whole declarations -/

namespace Printing

/-- How the printed declaration is spelled. -/
def spelling (p : Printing) : Spelling where
  lead := []
  type := ⟨p.constGap, p.structGap, p.base, p.pointers.map PrintedPointer.pointer,
    p.pointers.flatMap PrintedPointer.text⟩
  gap := p.gap
  name := p.name
  arrays := p.arrays.map PrintedArray.size
  arrayText := p.arrays.flatMap PrintedArray.text

/-- The base type ends where it is meant to: a star or a blank follows it. -/
theorem Spaced.endsWord {p : Printing} (h : p.Spaced) (rest : List Char) :
    EndsWord (p.pointers.flatMap PrintedPointer.text ++ (p.gap ++ rest)) := by
  cases hps : p.pointers with
  | nil => exact (h.gap.startsBlank (h.nameApart hps) rest).endsWord
  | cons q qs =>
    have hq := h.pointers q (hps ▸ List.mem_cons_self)
    rw [List.flatMap_cons, List.append_assoc]
    cases q with
    | mutable gap =>
      rw [PrintedPointer.text, List.append_assoc]
      cases gap with
      | nil => exact endsWord_cons (by decide)
      | cons c gap => exact (hq.startsBlank (List.cons_ne_nil c gap) _).endsWord
    | constant gap starGap =>
      rw [PrintedPointer.text, List.append_assoc]
      exact (hq.1.startsBlank (h.pointerApart gap starGap (hps ▸ rfl)) _).endsWord

/-- A printed declaration is a spelling that is read as it is meant. -/
theorem Spaced.before {p : Printing} (h : p.Spaced) {tail : List Char} (htail : IsTail tail) :
    p.spelling.Before (p.widthText ++ tail) where
  lead := isBlanks_nil
  type := {
    constGap := h.constGap
    structGap := h.structGap
    base := h.base
    pointers := spells_printedPointers h.pointers
    endsWord := h.endsWord _
    noPointer := (h.endsName_arrays htail).noPointer h.gap h.name
    notConst := fun _ _ hbase => absurd hbase h.notConst
    notStruct := fun _ hbase => absurd hbase h.notStruct }
  gap := h.gap
  name := h.name
  endsWord := (h.endsName_arrays htail).endsWord
  arrays := spells_printedArrays h.arrays
  noArray := h.noArray htail

end Printing

/-- **A printed declaration is read as its parts**, whatever blanks it is printed with, and what
follows it is left over. -/
theorem parse?_printing {p : Printing} (h : p.Spaced) {tail : List Char} (htail : IsTail tail) :
    parse? (p.text ++ tail) = some (p.declarator, tail) := by
  refine parse?_eq_some_iff.mpr
    ⟨p.spelling, p.widthText ++ tail, h.before htail, h.scanWidth_eq htail, rfl, ?_⟩
  simp [Printing.text, Printing.typeText, Printing.spelling, Spelling.text, TypeSpelling.text]

/-- Both words before a base type that starts like one of them, a name that is one of them, pointers
of both kinds, arrays of all kinds and a bit width, with blanks of all kinds. -/
theorem parse?_printing_constants : ∃ p : Printing, p.Spaced ∧ IsTail "; // flags".toList ∧
    p.text = "const\tstruct  constants const *\n* const [3] [VK_SIZE][]\r: 24".toList ∧
    parse? (p.text ++ "; // flags".toList) = some (⟨"const\tstruct  constants const *\n*".toList,
      ⟨"constants", true, [.constant, .mutable]⟩, "const",
      [.static 3, .constant "VK_SIZE", .dynamic], some 24⟩, "; // flags".toList) := by
  let p : Printing := {
    constGap := some ['\t']
    structGap := some [' ', ' ']
    base := "constants"
    pointers := [.constant [' '] [' '], .mutable ['\n']]
    gap := [' ']
    name := "const"
    arrays := [⟨[' '], .static 3⟩, ⟨[' '], .constant "VK_SIZE"⟩, ⟨[], .dynamic⟩]
    width := some ⟨['\r'], [' '], 24⟩ }
  have hspaced : p.Spaced := {
    constGap := by decide
    structGap := by decide
    base := by decide
    notConst := by decide
    notStruct := by decide
    pointers := by decide
    pointerApart := by rintro gap starGap ⟨⟩; decide
    gap := by decide
    nameApart := by decide
    name := by decide
    arrays := by
      refine List.forall_mem_cons.mpr ⟨⟨by decide, ?_, nofun⟩, List.forall_mem_cons.mpr
        ⟨⟨by decide, nofun, ?_⟩, List.forall_mem_singleton.mpr ⟨by decide, nofun, nofun⟩⟩⟩
      · rintro n ⟨⟩; decide
      · rintro name ⟨⟩
        refine ⟨by decide, fun c hc => ?_⟩
        obtain rfl : 'V' = c := Option.some.inj hc
        decide
    width := by decide }
  have htail : IsTail "; // flags".toList := by decide
  have hread := parse?_printing hspaced htail
  rw [show p.declarator = ⟨"const\tstruct  constants const *\n*".toList,
    ⟨"constants", true, [.constant, .mutable]⟩, "const",
    [.static 3, .constant "VK_SIZE", .dynamic], some 24⟩ by decide +kernel] at hread
  exact ⟨p, hspaced, htail, by decide +kernel, hread⟩

end LayerStencil.Declarator
