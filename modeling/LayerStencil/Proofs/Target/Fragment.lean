import LayerStencil.Proofs.Condition.Phrase
import LayerStencil.Target.Basic

/-! # Fragments of stencils

A stencil is a list of fragments. Where every fragment is text that can be filled, so is the whole,
and the fragments of a directive with expandable text inside it are expandable.

* `Fits`: the fragment can be filled where the names are in scope, and has no at sign.
* `IsWord`: the fragment is a name. Names in quotes make lists (`enlists_quotedNames`).
* `Decides`: the fragments are a condition.
* `Headed`: the fragments are whole lines and directives that expand over every model, and the
  directives have the given heads.
* `Arranged`: the same, whatever the heads. -/

namespace LayerStencil.Target

open Grammar (Quotable Enumerates Phrase Spaces)
open Marker (WholeLines)

theorem textOf_cons (f : String) (fs : List String) : textOf (f :: fs) = f.toList ++ textOf fs := by
  simp [textOf]

/-! ### Words -/

/-- The fragment consists of name characters. -/
def IsWord (s : String) : Prop := ∀ c ∈ s.toList, Text.isNameChar c

theorem IsWord.of {l : List Char} (h : l.all Text.isNameChar) : IsWord (String.ofList l) := by
  intro c hc
  rw [String.toList_ofList] at hc
  exact List.all_eq_true.mp h c hc

/-- All fragments are words. -/
def AreWords (words : List String) : Prop := ∀ w ∈ words, IsWord w

theorem AreWords.nil : AreWords [] := List.forall_mem_nil _

theorem AreWords.cons {w : String} {words : List String} (h : IsWord w) (hwords : AreWords words) :
    AreWords (w :: words) :=
  List.forall_mem_cons.mpr ⟨h, hwords⟩

theorem AreWords.append {words words' : List String} (h : AreWords words) (h' : AreWords words') :
    AreWords (words ++ words') :=
  List.forall_mem_append.mpr ⟨h, h'⟩

theorem IsWord.quotable {s : String} (h : IsWord s) (names : List String) :
    Quotable names s.toList where
  fillable := .of_plain fun c hc => Segment.isPlain_of (by decide) (by decide) (h c hc)
  not_quote hquote := absurd (h _ hquote) (by decide)
  inline c hc := Grammar.inline_of_isNameChar (h c hc)

/-! ### Fragments of text -/

/-- The fragment can be filled where the names are in scope, and has no at sign. -/
def Fits (names : List String) (f : String) : Prop :=
  Segment.Fillable names f.toList ∧ '@' ∉ f.toList

section Fits
variable {names : List String}

theorem Fits.of {l : List Char} (h : Segment.check names .outside l && l.all (· ≠ '@')) :
    Fits names (String.ofList l) := by
  rw [Bool.and_eq_true] at h
  rw [Fits, String.toList_ofList]
  refine ⟨Segment.fillable_of_check names l .outside trivial h.1, fun hat => ?_⟩
  simpa using List.all_eq_true.mp h.2 _ hat

theorem IsWord.fits {s : String} (h : IsWord s) : Fits names s :=
  ⟨(h.quotable names).fillable, fun hat => absurd (h _ hat) (by decide)⟩

/-- All fragments fit. -/
def AllFit (names : List String) (fs : List String) : Prop := ∀ f ∈ fs, Fits names f

theorem AllFit.nil : AllFit names [] := List.forall_mem_nil _

theorem AllFit.cons {f : String} {fs : List String} (h : Fits names f) (hfs : AllFit names fs) :
    AllFit names (f :: fs) :=
  List.forall_mem_cons.mpr ⟨h, hfs⟩

theorem AllFit.append {fs gs : List String} (h : AllFit names fs) (h' : AllFit names gs) :
    AllFit names (fs ++ gs) :=
  List.forall_mem_append.mpr ⟨h, h'⟩

theorem AllFit.textOf : ∀ {fs : List String}, AllFit names fs →
    Segment.Fillable names (textOf fs) ∧ '@' ∉ textOf fs
  | [], _ => ⟨.nil, by simp [Target.textOf]⟩
  | f :: fs, h => by
    rw [AllFit, List.forall_mem_cons] at h
    obtain ⟨hfill, hat⟩ := AllFit.textOf h.2
    rw [textOf_cons]
    exact ⟨h.1.1.append hfill, by simp [h.1.2, hat]⟩

end Fits

/-! ### Names in quotes -/

/-- The fragments are the words in quotes, with commas between them. -/
structure Enlists (names fs words : List String) : Prop where
  areWords : AreWords words
  enumerates : Enumerates names (textOf fs) (words.map String.toList)

/-- The fragment is a comma with spaces after it. -/
def IsGap (f : String) : Prop := ∃ space, Spaces space ∧ f.toList = ',' :: space

theorem IsGap.of {l : List Char} (h : l.all (· = ' ')) : IsGap (String.ofList (',' :: l)) := by
  refine ⟨l, fun c hc => ?_, String.toList_ofList⟩
  simpa using List.all_eq_true.mp h c hc

/-- One list after another. -/
theorem Enlists.append {names fs gs words words' : List String} {gap : String}
    (h : Enlists names fs words) (hgap : IsGap gap) (h' : Enlists names gs words') :
    Enlists names (fs ++ [gap] ++ gs) (words ++ words') := by
  obtain ⟨space, hspace, hgap⟩ := hgap
  have htext : textOf (fs ++ [gap] ++ gs) = textOf fs ++ ',' :: (space ++ textOf gs) := by
    simp [textOf, hgap]
  refine ⟨h.areWords.append h'.areWords, ?_⟩
  rw [htext, List.map_append]
  exact h.enumerates.append (h'.enumerates.space hspace)

theorem enlists_quotedName {name : String} (hname : IsWord name) (names : List String)
    (gap : String) : Enlists names (quotedNames gap [name]) [name] := by
  have htext : textOf (quotedNames gap [name]) = [] ++ Grammar.inQuotes name.toList := by
    simp [quotedNames, textOf, Grammar.inQuotes]
  refine ⟨.cons hname .nil, ?_⟩
  rw [htext]
  exact .one Grammar.spaces_nil (hname.quotable names)

/-- Names in quotes. -/
theorem enlists_quotedNames {gap : String} (hgap : IsGap gap) (names : List String) :
    ∀ {words : List String}, words ≠ [] → AreWords words →
      Enlists names (quotedNames gap words) words
  | [w], _, h => enlists_quotedName (h w List.mem_cons_self) names gap
  | w :: w' :: words, _, h => by
    have hfirst := enlists_quotedName (h w List.mem_cons_self) names gap
    have hrest := enlists_quotedNames hgap names (List.cons_ne_nil w' words)
      fun v hv => h v (List.mem_cons_of_mem w hv)
    exact hfirst.append hgap hrest

/-! ### Conditions -/

/-- The fragments are a condition where the names are in scope. -/
def Decides (names condition : List String) : Prop :=
  ∃ e, Phrase names .conjunction .truth (textOf condition) e

theorem Decides.of_phrase {names condition : List String} {cs : List Char} {e : Expr}
    (h : Phrase names .conjunction .truth cs e) (htext : textOf condition = cs) :
    Decides names condition :=
  ⟨e, htext ▸ h⟩

/-! ### Expandable fragments -/

/-- The fragments, inside the controls `around`, are whole lines and directives that expand over
every model. -/
def Arranged (around : List ControlKind) (fs : List String) : Prop :=
  Expandable around (textOf fs)

/-- The fragments, inside the controls `around`, are whole lines and directives that expand over
every model, and the directives have the given heads. -/
def Headed (around : List ControlKind) (fs : List String) (heads : List Head) : Prop :=
  ExpandableBy around (textOf fs) heads

section Headed
variable {around : List ControlKind} {fs gs : List String} {heads heads' : List Head}

theorem Headed.append (h : Headed around fs heads) (h' : Headed around gs heads') :
    Headed around (fs ++ gs) (heads ++ heads') := by
  rw [Headed, textOf_append]
  exact ExpandableBy.append h h'

theorem Headed.of_text_eq (h : Headed around gs heads) (htext : textOf fs = textOf gs) :
    Headed around fs heads := by
  rw [Headed, htext]
  exact h

theorem wholeLines_of_last {l : List Char} (hlast : fs.getLast? = some (String.ofList l))
    (hl : l.getLast? = some '\n') : WholeLines (textOf fs) := by
  obtain ⟨fs, rfl⟩ := List.getLast?_eq_some_iff.mp hlast
  obtain ⟨l, rfl⟩ := List.getLast?_eq_some_iff.mp hl
  have htext : textOf (fs ++ [String.ofList (l ++ ['\n'])]) = (textOf fs ++ l) ++ '\n' :: [] := by
    simp [textOf]
  rw [htext]
  exact WholeLines.append_line _ Marker.wholeLines_nil

/-- Lines of text. -/
theorem Headed.lines (h : AllFit (namesInside around) fs) {l : List Char}
    (hlast : fs.getLast? = some (String.ofList l)) (hl : l.getLast? = some '\n') :
    Headed around fs [] :=
  have ⟨hfill, hat⟩ := h.textOf
  .text ⟨hat, wholeLines_of_last hlast hl⟩ hfill

theorem Headed.nil : Headed around [] [] :=
  .text ⟨by simp [textOf], Marker.wholeLines_nil⟩ .nil

/-- A directive around fragments; `fs` are the fragments of the whole. -/
theorem Headed.directive {head : Head} {opening closing : List Char} {body : List String}
    (hopening : Spaces opening) (hclosing : Spaces closing) (hhead : head.Formed (textOf body))
    (howner : head.kind.HasOwner around)
    (hcondition : ∀ c, head.condition = some c → c.Sound (namesInside (head.kind :: around)))
    (hbody : Headed (head.kind :: around) body heads)
    (htext : textOf fs = opening ++ '@' :: (head.words ++ '\n' :: (textOf body ++
      (closing ++ '@' :: (head.kind.endWords ++ ['\n']))))) : Headed around fs (head :: heads) := by
  have indent {s : List Char} (hs : Spaces s) : Layout.IsIndent s :=
    ⟨fun c hc => by rw [hs c hc]; decide, fun hc => absurd (hs _ hc) (by decide)⟩
  rw [Headed, htext]
  exact .directive (indent hopening) (indent hclosing) hhead howner hcondition hbody

/-- A loop under a condition. -/
theorem Headed.loop {kind : Kind} {opening closing : List Char} {condition body : List String}
    {e : Expr} (hopening : Spaces opening) (hclosing : Spaces closing)
    (hphrase : Phrase (namesInside (.each kind :: around)) .conjunction .truth (textOf condition) e)
    (howner : (ControlKind.each kind).HasOwner around)
    (hbody : Headed (.each kind :: around) body heads)
    (htext : textOf fs = opening ++ '@' :: 'f' :: 'o' :: 'r' :: 'e' :: 'a' :: 'c' :: 'h' :: ' ' ::
      (kind.tag.toList ++ ' ' :: (Marker.whereWord ++ (textOf condition ++ ')' :: '\n' ::
        (textOf body ++ (closing ++ '@' :: ((ControlKind.each kind).endWords ++ ['\n']))))))) :
    Headed around fs (.each kind (some ⟨textOf condition, e⟩) :: heads) := by
  obtain ⟨hformed, hsound⟩ := hphrase.condition
  have hhead : (Head.each kind (some ⟨textOf condition, e⟩)).Formed (textOf body) :=
    ⟨by rintro _ ⟨⟩; exact hformed, nofun⟩
  have hcondition : ∀ c, (Head.each kind (some ⟨textOf condition, e⟩)).condition = some c →
      c.Sound (namesInside (.each kind :: around)) := by
    rintro _ ⟨⟩; exact hsound
  exact .directive hopening hclosing hhead howner hcondition hbody
    (by rw [htext]; simp [Head.words, Head.kind])

theorem Headed.arranged (h : Headed around fs heads) : Arranged around fs :=
  ExpandableBy.expandable h

theorem Arranged.exists_headed (h : Arranged around fs) : ∃ heads, Headed around fs heads :=
  Expandable.exists_heads h

end Headed

section Arranged
variable {around : List ControlKind} {fs gs : List String}

theorem Arranged.append (h : Arranged around fs) (h' : Arranged around gs) :
    Arranged around (fs ++ gs) := by
  obtain ⟨heads, h⟩ := h.exists_headed
  obtain ⟨heads', h'⟩ := h'.exists_headed
  exact (h.append h').arranged

theorem Arranged.of_text_eq (h : Arranged around gs) (htext : textOf fs = textOf gs) :
    Arranged around fs := by
  rw [Arranged, htext]
  exact h

/-- Lines of text. -/
theorem Arranged.lines (h : AllFit (namesInside around) fs) {l : List Char}
    (hlast : fs.getLast? = some (String.ofList l)) (hl : l.getLast? = some '\n') :
    Arranged around fs :=
  (Headed.lines h hlast hl).arranged

/-- A loop without a condition. -/
theorem Arranged.loopAll {kind : Kind} {opening closing : List Char} {body : List String}
    (hopening : Spaces opening) (hclosing : Spaces closing)
    (hnoWhere : ¬ Marker.whereWord <+: (textOf body).dropWhile Text.isWhiteSpace)
    (howner : (ControlKind.each kind).HasOwner around)
    (hbody : Arranged (.each kind :: around) body)
    (htext : textOf fs = opening ++ '@' :: 'f' :: 'o' :: 'r' :: 'e' :: 'a' :: 'c' :: 'h' :: ' ' ::
      (kind.tag.toList ++ '\n' :: (textOf body ++
        (closing ++ '@' :: ((ControlKind.each kind).endWords ++ ['\n']))))) :
    Arranged around fs := by
  have hhead : (Head.each kind none).Formed (textOf body) := ⟨nofun, fun _ _ => hnoWhere⟩
  obtain ⟨heads, hbody⟩ := hbody.exists_headed
  exact (Headed.directive hopening hclosing hhead howner nofun hbody
    (by rw [htext]; simp [Head.words, Head.kind])).arranged

/-- A loop under a condition. -/
theorem Arranged.loop {kind : Kind} {opening closing : List Char} {condition body : List String}
    (hopening : Spaces opening) (hclosing : Spaces closing)
    (hdecides : Decides (namesInside (.each kind :: around)) condition)
    (howner : (ControlKind.each kind).HasOwner around)
    (hbody : Arranged (.each kind :: around) body)
    (htext : textOf fs = opening ++ '@' :: 'f' :: 'o' :: 'r' :: 'e' :: 'a' :: 'c' :: 'h' :: ' ' ::
      (kind.tag.toList ++ ' ' :: (Marker.whereWord ++ (textOf condition ++ ')' :: '\n' ::
        (textOf body ++ (closing ++ '@' :: ((ControlKind.each kind).endWords ++ ['\n']))))))) :
    Arranged around fs := by
  obtain ⟨e, hphrase⟩ := hdecides
  obtain ⟨heads, hbody⟩ := hbody.exists_headed
  exact (Headed.loop hopening hclosing hphrase howner hbody htext).arranged

/-- A conditional part. -/
theorem Arranged.part {opening closing : List Char} {condition body : List String}
    (hopening : Spaces opening) (hclosing : Spaces closing)
    (hdecides : Decides (namesInside (.cond :: around)) condition)
    (hbody : Arranged (.cond :: around) body)
    (htext : textOf fs = opening ++ '@' :: 'i' :: 'f' :: '(' :: (textOf condition ++ ')' :: '\n' ::
      (textOf body ++ (closing ++ '@' :: (ControlKind.cond.endWords ++ ['\n']))))) :
    Arranged around fs := by
  obtain ⟨e, hphrase⟩ := hdecides
  obtain ⟨hformed, hsound⟩ := hphrase.condition
  obtain ⟨heads, hbody⟩ := hbody.exists_headed
  have hhead : (Head.cond ⟨textOf condition, e⟩).Formed (textOf body) :=
    ⟨by rintro _ ⟨⟩; exact hformed, nofun⟩
  have hcondition : ∀ c, (Head.cond ⟨textOf condition, e⟩).condition = some c →
      c.Sound (namesInside (.cond :: around)) := by
    rintro _ ⟨⟩; exact hsound
  exact (Headed.directive hopening hclosing hhead trivial hcondition hbody
    (by rw [htext]; simp [Head.words, Head.kind])).arranged

end Arranged

end LayerStencil.Target
