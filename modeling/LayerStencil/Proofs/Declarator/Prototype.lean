import LayerStencil.Proofs.Declarator.Spelling
import LayerStencil.Proofs.Text.Lines
import LayerStencil.Model.Declaration
import Mathlib.Data.List.Basic

/-! # Declarations in prototypes

A prototype shows a declaration as its type, its name and the array suffixes that have a size. Read
again, this text declares the same variable but for the arrays without a size: they count as
pointers and are not written.

* `Spaced`: words with single spaces between them. Normal texts are spaced, and spaced texts normal.
* `spells_sizes`: the written sizes spell the array suffixes that have a size.
* `before_printed`, `spaced_printed`: the spelling of a prototype is read as it is meant, also after
  its white space is normalized.
* `ofCode_fullText_iff`: the variable that is read again, and when it is the same. -/

namespace LayerStencil.Declaration

open Declarator

/-! ### Single spaces -/

/-- Some characters, none of them white space. -/
structure Solid (w : List Char) : Prop where
  ne_nil : w ≠ []
  chars : ∀ c ∈ w, ¬ Text.isWhiteSpace c

theorem Solid.not_startsBlank {w : List Char} (hw : Solid w) (rest : List Char) :
    ¬ StartsBlank (w ++ rest) := by
  rintro ⟨c, hc, hblank⟩
  obtain ⟨d, w, rfl⟩ := List.exists_cons_of_ne_nil hw.ne_nil
  obtain rfl : d = c := by simpa using hc
  exact hw.chars d List.mem_cons_self (Text.isWhiteSpace_of_isBlank hblank)

theorem Solid.of_append {cs ds : List Char} (h : Solid (cs ++ ds)) (hne : cs ≠ []) : Solid cs :=
  ⟨hne, fun c hc => h.chars c (List.mem_append_left ds hc)⟩

/-- Words with one space between each two. -/
inductive Spaced : List Char → Prop
  | word {w : List Char} (hw : Solid w) : Spaced w
  | cons {w rest : List Char} (hw : Solid w) (hrest : Spaced rest) : Spaced (w ++ ' ' :: rest)

theorem Spaced.ne_nil {cs : List Char} (h : Spaced cs) : cs ≠ [] := by
  cases h with
  | word hw => exact hw.ne_nil
  | cons hw _ => exact List.append_ne_nil_of_left_ne_nil hw.ne_nil _

theorem Spaced.not_startsBlank {cs : List Char} (h : Spaced cs) : ¬ StartsBlank cs := by
  cases h with
  | word hw => simpa using hw.not_startsBlank []
  | cons hw _ => exact hw.not_startsBlank _

theorem Spaced.append {cs ds : List Char} (hcs : Spaced cs) (hds : Spaced ds) :
    Spaced (cs ++ ' ' :: ds) := by
  induction hcs with
  | word hw => exact .cons hw hds
  | cons hw _ ih =>
    rw [List.append_assoc, List.cons_append]
    exact .cons hw ih

/-- The beginning of spaced words, if it does not stop after a space. -/
theorem Spaced.of_append {cs : List Char} (ds : List Char) (h : Spaced (cs ++ ds)) (hne : cs ≠ [])
    (hlast : ∀ c ∈ cs.getLast?, ¬ Text.isWhiteSpace c) : Spaced cs := by
  generalize hall : cs ++ ds = all at h
  induction h generalizing cs with
  | word hw => exact .word (Solid.of_append (hall ▸ hw) hne)
  | @cons w rest hw _ ih =>
    obtain ⟨cs', rfl, htail⟩ | ⟨ds', hw', -⟩ := List.append_eq_append_iff.mp hall.symm
    · cases cs' with
      | nil => rw [List.append_nil]; exact .word hw
      | cons c cs' =>
        obtain ⟨rfl, hrest⟩ := List.cons.inj htail
        have hne' : cs' ≠ [] := by
          rintro rfl
          exact hlast ' ' (by simp) (by decide)
        refine .cons hw (ih hne' (fun c hc => hlast c ?_) hrest.symm)
        rw [List.getLast?_append, List.getLast?_cons, hc]
        rfl
    · exact .word (Solid.of_append (hw' ▸ hw) hne)

theorem words_of_solid {w : List Char} (hw : Solid w) : Text.words Text.isWhiteSpace w = [w] := by
  rw [Text.words, List.splitOnP_eq_singleton (by simpa using hw.chars)]
  simp [hw.ne_nil]

theorem words_append {w : List Char} (hw : Solid w) (rest : List Char) :
    Text.words Text.isWhiteSpace (w ++ ' ' :: rest) = w :: Text.words Text.isWhiteSpace rest := by
  rw [Text.words, List.splitOnP_append_cons_of_forall_mem (by simpa using hw.chars) ' ' (by decide),
    List.filter_cons_of_pos (by simpa using hw.ne_nil), Text.words]

theorem normalize_of_spaced {cs : List Char} (h : Spaced cs) : normalize cs = cs := by
  induction h with
  | word hw => rw [normalize, words_of_solid hw, List.intercalate_singleton]
  | @cons w rest hw hrest ih =>
    unfold normalize at ih ⊢
    rw [words_append hw]
    cases hwords : Text.words Text.isWhiteSpace rest with
    | nil =>
      rw [hwords] at ih
      exact absurd ih.symm hrest.ne_nil
    | cons v vs => rw [List.intercalate_cons_cons, ← hwords, ih]; simp

theorem spaced_intercalate {ws : List (List Char)} (hne : ws ≠ []) (hws : ∀ w ∈ ws, Solid w) :
    Spaced ([' '].intercalate ws) := by
  induction ws with
  | nil => exact absurd rfl hne
  | cons w ws ih =>
    obtain ⟨hw, hws⟩ := List.forall_mem_cons.mp hws
    cases ws with
    | nil => rw [List.intercalate_singleton]; exact .word hw
    | cons v vs =>
      rw [List.intercalate_cons_cons, List.append_assoc]
      exact .cons hw (ih (List.cons_ne_nil v vs) hws)

theorem spaced_normalize {cs : List Char} (h : normalize cs ≠ []) : Spaced (normalize cs) := by
  unfold normalize at h ⊢
  refine spaced_intercalate (fun hnil => h (by rw [hnil]; rfl)) fun w hw => ?_
  obtain ⟨hw, hne⟩ := List.mem_filter.mp hw
  exact ⟨by simpa using hne, Text.not_of_mem_splitOnP hw⟩

/-! ### Written sizes -/

/-- What the decimal digits of a number are. -/
theorem digits_decimal (n : Nat) : (Text.decimal n).toList ≠ [] ∧
    (∀ c ∈ (Text.decimal n).toList, Text.isAsciiDigit c) ∧
    Text.numberOf (Text.decimal n).toList = n := by
  have htext : (Text.decimal n).toList = Nat.toDigits 10 n := Nat.toList_repr
  rw [htext]
  exact ⟨List.ne_nil_of_length_pos Nat.length_toDigits_pos,
    fun c hc => Nat.isDigit_of_mem_toDigits (by decide) (by decide) hc,
    Nat.ofDigitChars_toDigits (by decide) (by decide)⟩

theorem spells_decimal {n : Nat} (h : n < Nat.pow 2 64) :
    SpellsSize (.static n) (Text.decimal n).toList := by
  obtain ⟨hne, hdigits, hvalue⟩ := digits_decimal n
  have hspells := SpellsSize.static hne hdigits (hvalue.symm ▸ h)
  rwa [hvalue] at hspells

theorem writtenSize?_eq_none_iff {size : ArraySize} :
    writtenSize? size = none ↔ size = .dynamic := by
  cases size <;> simp [writtenSize?]

theorem spells_writtenSize {size : ArraySize} {inside : List Char} {written : String}
    (h : SpellsSize size inside) (hwritten : writtenSize? size = some written) :
    SpellsSize size written.toList := by
  cases h with
  | dynamic => cases hwritten
  | static hne hdigits hlt => cases hwritten; exact spells_decimal hlt
  | constant hname hnumber => cases hwritten; exact .constant hname hnumber

/-- A size between brackets, as it is printed. -/
def bracketed (size : String) : List Char := '[' :: (size.toList ++ [']'])

@[simp] theorem toList_arrayLength (d : Declaration) :
    d.arrayLength.toList = d.arrayLengths.flatMap bracketed := by
  rw [arrayLength, String.toList_join, List.flatMap_map]
  refine congrArg (d.arrayLengths.flatMap ·) (funext fun size => ?_)
  simp [bracketed]

@[simp] theorem toList_fullText (d : Declaration) : d.fullText.toList =
    d.typeText.toList ++ ([' '] ++ (d.name.toList ++ d.arrayLengths.flatMap bracketed)) := by
  simp [fullText]

/-- The sizes that are written spell the array suffixes that have a size. -/
theorem spells_sizes {sizes : List ArraySize} {text : List Char}
    (h : SpellsAll SpellsArray sizes text) :
    SpellsAll SpellsArray (sizes.filter (· ≠ .dynamic))
      ((sizes.filterMap writtenSize?).flatMap bracketed) := by
  induction h with
  | nil => exact .nil
  | @cons size sizes _ _ hsize _ ih =>
    obtain @⟨-, inside, -, hinside⟩ := hsize
    cases hwritten : writtenSize? size with
    | none =>
      obtain rfl := writtenSize?_eq_none_iff.mp hwritten
      exact ih
    | some written =>
      have hne : size ≠ .dynamic := by
        rintro rfl
        cases hwritten
      rw [List.filter_cons_of_pos (by simpa using hne), List.filterMap_cons_some hwritten,
        List.flatMap_cons]
      exact .cons (.intro isBlanks_nil (spells_writtenSize hinside hwritten)) ih

theorem not_isWhiteSpace_of_spellsSize {size : ArraySize} {inside : List Char}
    (h : SpellsSize size inside) : ∀ c ∈ inside, ¬ Text.isWhiteSpace c := by
  intro c hc
  cases h with
  | dynamic => cases hc
  | static _ hdigits _ =>
    exact Text.not_isWhiteSpace_of_isAsciiAlphanumeric (by
      simp [Text.isAsciiAlphanumeric, hdigits c hc])
  | constant hname _ => exact Text.not_isWhiteSpace_of_isIdentifierChar (hname.chars c hc)

theorem not_isWhiteSpace_sizes {sizes : List ArraySize} {text : List Char}
    (h : SpellsAll SpellsArray sizes text) :
    ∀ c ∈ (sizes.filterMap writtenSize?).flatMap bracketed, ¬ Text.isWhiteSpace c := by
  intro c hc
  obtain ⟨written, hmem, hc⟩ := List.mem_flatMap.mp hc
  obtain ⟨size, hsize, hwritten⟩ := List.mem_filterMap.mp hmem
  obtain ⟨_, @⟨-, inside, -, hinside⟩⟩ := h.exists_of_mem hsize
  rw [bracketed, List.mem_cons, List.mem_append, List.mem_singleton] at hc
  rcases hc with rfl | hc | rfl
  · decide
  · exact not_isWhiteSpace_of_spellsSize (spells_writtenSize hinside hwritten) c hc
  · decide

/-- What stands after the name in a prototype starts with a bracket. -/
theorem head?_sizes {sizes : List String} {c : Char}
    (hc : c ∈ (sizes.flatMap bracketed).head?) : c = '[' := by
  cases sizes with
  | nil => cases hc
  | cons size sizes => exact (Option.some.inj hc).symm

/-! ### Prototypes -/

/-- How a prototype spells a declaration. -/
def printed (s : Spelling) : Spelling :=
  { s with
    lead := []
    gap := [' ']
    arrays := s.arrays.filter (· ≠ .dynamic)
    arrayText := (s.arrays.filterMap writtenSize?).flatMap bracketed }

/-- A type without pointers has a blank after it. -/
theorem startsBlank_of_before {s : Spelling} {tail : List Char} (h : s.Before tail)
    (htext : s.type.pointerText = []) :
    StartsBlank (s.gap ++ (s.name.toList ++ (s.arrayText ++ tail))) := by
  refine h.gap.startsBlank (fun hgap => ?_) _
  have hends := h.type.endsWord
  rw [htext, hgap, List.nil_append, List.nil_append] at hends
  obtain ⟨c, hc, hword⟩ := h.name.startsWord (s.arrayText ++ tail)
  exact hends c hc hword

theorem before_printed {s : Spelling} {tail : List Char} (h : s.Before tail) :
    (printed s).Before [] := by
  have hsizes : ∀ c ∈ (printed s).arrayText.head?, c = '[' := fun c hc => head?_sizes hc
  have hends : EndsWord ((printed s).arrayText ++ []) := by
    intro c hc
    rw [List.append_nil] at hc
    rw [hsizes c hc]
    decide
  have hblank : IsBlanks [' '] := by simp [IsBlanks, Text.isBlank]
  have hstar : (skipBlanks ((printed s).arrayText ++ [])).head? ≠ some '*' := by
    rw [List.append_nil, skipBlanks_of_not_startsBlank]
    · exact fun hc => absurd (hsizes '*' hc) (by decide)
    · rintro ⟨c, hc, hblank⟩
      rw [hsizes c hc] at hblank
      exact absurd hblank (by decide)
  exact {
    lead := isBlanks_nil
    type := h.type.transfer (startsBlank_of_before h) (endsWord_cons (by decide))
      (pointer?_eq_none hblank h.name hends hstar)
    gap := hblank
    name := h.name
    endsWord := hends
    arrays := spells_sizes h.arrays
    noArray := rfl }

/-- A prototype has single spaces only, if the code has. -/
theorem spaced_printed {s : Spelling} {tail : List Char} (h : s.Before tail)
    (hspaced : Spaced (s.text ++ tail)) : Spaced (printed s).text := by
  have hlead : s.lead = [] := by
    by_contra hne
    refine hspaced.not_startsBlank ?_
    rw [Spelling.text, List.append_assoc]
    exact h.lead.startsBlank hne _
  have htype : Spaced s.type.text := by
    have hne : s.type.text ≠ [] := by
      obtain ⟨c, hc, -⟩ := h.type.startsWord []
      rintro hnil
      rw [hnil] at hc
      cases hc
    refine Spaced.of_append (s.gap ++ (s.name.toList ++ s.arrayText) ++ tail) ?_ hne
      h.type.not_isWhiteSpace_getLast
    rwa [Spelling.text, hlead, List.nil_append, List.append_assoc] at hspaced
  have hname : Solid ((printed s).name.toList ++ (printed s).arrayText) := by
    refine ⟨List.append_ne_nil_of_left_ne_nil h.name.ne_nil _, List.forall_mem_append.mpr ⟨?_, ?_⟩⟩
    · exact fun c hc => Text.not_isWhiteSpace_of_isIdentifierChar (h.name.chars c hc)
    · exact not_isWhiteSpace_sizes h.arrays
  exact htype.append (.word hname)

/-- The variable that a declarator declares. -/
def ofDeclarator (p : Declarator) : Declaration where
  name := p.name
  typeText := String.ofList p.typeText
  baseType := p.type.name
  pointerLevel := p.pointerLevel
  isConst := p.type.isConst
  arrayLengths := p.arrays.filterMap writtenSize?
  length := none
  isOptional := false

theorem ofCode_eq_ok_iff {code : String} {d : Declaration} : ofCode code = .ok d ↔
    ∃ p rest, parse? (normalize code.toList) = some (p, rest) ∧ p.pointerLevel ≤ 255 ∧
      d = ofDeclarator p := by
  unfold ofCode
  constructor
  · intro h
    dsimp only at h
    split at h
    · cases h
    · rename_i p rest hparse
      split at h
      · rename_i hlevel
        cases h
        exact ⟨p, rest, hparse, hlevel, rfl⟩
      · cases h
  · rintro ⟨p, rest, hparse, hlevel, rfl⟩
    simp only [hparse, if_pos hlevel]
    rfl

theorem pointerLevel_printed (s : Spelling) (width : Option Nat) :
    ((printed s).declarator width).pointerLevel = s.type.pointers.length := by
  simp only [Declarator.pointerLevel, Spelling.declarator, TypeSpelling.type, printed,
    List.countP_filter]
  simp

theorem writtenSizes_printed (sizes : List ArraySize) :
    (sizes.filter (· ≠ .dynamic)).filterMap writtenSize? = sizes.filterMap writtenSize? := by
  rw [List.filterMap_filter]
  refine List.filterMap_congr fun size _ => ?_
  cases size <;> rfl

theorem pointerLevel_eq_iff (p : Declarator) :
    p.pointerLevel = p.type.pointers.length ↔ ArraySize.dynamic ∉ p.arrays := by
  have hcount : p.arrays.countP (· = .dynamic) = 0 ↔ ArraySize.dynamic ∉ p.arrays := by
    rw [List.countP_eq_zero]
    constructor
    · exact fun h hmem => h _ hmem (by decide)
    · rintro h size hmem hsize
      exact h (of_decide_eq_true hsize ▸ hmem)
  rw [Declarator.pointerLevel, ← hcount]
  omega

/-- A declaration read from its own prototype has the pointers of its type only, and is otherwise
the same. So it comes back if and only if each of its arrays has a size. -/
theorem ofCode_fullText_iff {code : String} {d : Declaration} (h : ofCode code = .ok d) :
    ∃ p rest, parse? (normalize code.toList) = some (p, rest) ∧
      ofCode d.fullText = .ok { d with pointerLevel := p.type.pointers.length } ∧
      (ofCode d.fullText = .ok d ↔ ArraySize.dynamic ∉ p.arrays) := by
  obtain ⟨p, rest, hparse, hlevel, rfl⟩ := ofCode_eq_ok_iff.mp h
  obtain ⟨s, tail, hs, -, hp, hcs⟩ := parse?_eq_some_iff.mp hparse
  have hspaced : Spaced (s.text ++ tail) := by
    rw [← hcs]
    refine spaced_normalize fun hnil => ?_
    rw [hnil] at hparse
    cases hparse
  have htext : (ofDeclarator p).fullText.toList = (printed s).text := by
    rw [toList_fullText, hp]
    simp [ofDeclarator, Spelling.declarator, Spelling.text, printed]
  have hreparse : parse? (normalize (ofDeclarator p).fullText.toList) =
      some ((printed s).declarator none, []) := by
    rw [htext, normalize_of_spaced (spaced_printed hs hspaced)]
    exact parse?_eq_some_iff.mpr ⟨printed s, [], before_printed hs, rfl, rfl, by simp⟩
  have hpointers : p.type.pointers.length = s.type.pointers.length := by rw [hp]; rfl
  have hsame : ofDeclarator ((printed s).declarator none) =
      { ofDeclarator p with pointerLevel := p.type.pointers.length } := by
    rw [hpointers, ← pointerLevel_printed s none, hp]
    exact congrArg (fun sizes => { ofDeclarator ((printed s).declarator none) with
      arrayLengths := sizes }) (writtenSizes_printed s.arrays)
  have hread : ofCode (ofDeclarator p).fullText =
      .ok { ofDeclarator p with pointerLevel := p.type.pointers.length } := by
    refine ofCode_eq_ok_iff.mpr ⟨_, _, hreparse, ?_, hsame.symm⟩
    rw [pointerLevel_printed, ← hpointers]
    exact Nat.le_trans (Nat.le_add_right _ _) hlevel
  refine ⟨p, rest, hparse, hread, ?_⟩
  rw [hread, ← pointerLevel_eq_iff]
  simp [ofDeclarator, eq_comm]

/-- Blanks are normalized, leading zeros of a size are dropped and a bit width is not printed. -/
theorem ofCode_fullText_iff_sized :
    ∃ d, ofCode "const  char * const* names [03][VK_SIZE] :2 ;" = .ok d ∧
      d.fullText = "const char * const* names[3][VK_SIZE]" ∧ ofCode d.fullText = .ok d := by
  have hcode : ofCode "const  char * const* names [03][VK_SIZE] :2 ;" =
      .ok ⟨"names", "const char * const*", "char", 2, true, ["3", "VK_SIZE"], none, false⟩ := by
    decide +kernel
  have hparse : parse? (normalize "const  char * const* names [03][VK_SIZE] :2 ;".toList) =
      some (⟨"const char * const*".toList, ⟨"char", true, [.mutable, .constant]⟩, "names",
        [.static 3, .constant "VK_SIZE"], some 2⟩, [' ', ';']) := by
    decide +kernel
  obtain ⟨p, rest, hp, -, hiff⟩ := ofCode_fullText_iff hcode
  rw [hparse] at hp
  cases hp
  exact ⟨_, hcode, by decide +kernel, hiff.mpr (by decide)⟩

/-- An array without a size is printed like no array. -/
theorem ofCode_fullText_ne_of_unsized : ∃ d, ofCode "float m[]" = .ok d ∧
    d.pointerLevel = 1 ∧ d.fullText = "float m" ∧
    ofCode d.fullText = .ok { d with pointerLevel := 0 } ∧ ofCode d.fullText ≠ .ok d :=
  ⟨⟨"m", "float", "float", 1, false, [], none, false⟩, by decide +kernel⟩

end LayerStencil.Declaration
