import LayerStencil.Proofs.Template.Layout

/-! # Pages

A page is a forest of directives and lines of text. It is printed with each line, and each end of a
directive, on a line of its own. The lines on which the directives stand are known before anything
is parsed, and parsing gives them back: `Page.outlines` is the forest that a page should be read as,
and `Template.outlines_of_parse_page` that its text is a template with this forest of controls.

A page is a layout (`Page.layout`) in which each run of lines is one text, so what reading a layout
gives carries over. -/

namespace LayerStencil

open Marker (WholeLines wholeLines_nil)

/-! ### Outlines -/

/-- What a control says and the line on which it says so, without the spans of its markers. -/
inductive Outline where
  | node (kind : ControlKind) (condition : Option Condition) (line : Nat)
    (children : List Outline)

mutual

/-- The outline of a control. -/
def Control.outline : Control → Outline
  | node kind condition _ _ line children => .node kind condition line (outlineAll children)

/-- The outlines of all controls of a list. -/
def Control.outlineAll : List Control → List Outline
  | [] => []
  | c :: cs => c.outline :: outlineAll cs

end

/-! ### Pages -/

/-- Spaces and tabs are an indentation. -/
theorem Layout.IsIndent.of_spaces {s : List Char} (h : ∀ c ∈ s, c = ' ' ∨ c = '\t') :
    Layout.IsIndent s := by
  refine ⟨fun c hc => ?_, fun hbreak => ?_⟩
  · obtain rfl | rfl := h c hc <;> decide
  · obtain h | h := h _ hbreak <;> exact absurd h (by decide)

/-- Lines of text and directives, one after another. -/
inductive Page where
  | done
  | line (s : List Char) (rest : Page)
  /-- A directive around a page, with the indentation of its two lines. -/
  | directive (head : Head) (opening closing : List Char) (inside rest : Page)

namespace Page

/-- The text of a page, each line of which ends with a line break. -/
def print : Page → List Char
  | done => []
  | line s rest => s ++ '\n' :: rest.print
  | directive head opening closing inside rest =>
    opening ++ '@' :: (head.words ++ '\n' :: (inside.print ++
      (closing ++ '@' :: (head.kind.endWords ++ '\n' :: rest.print))))

/-- How many lines a page has. -/
def height : Page → Nat
  | done => 0
  | line _ rest => rest.height + 1
  | directive _ _ _ inside rest => inside.height + 1 + (rest.height + 1)

/-- The forest of directives of a page that begins on the given line. -/
def outlines (first : Nat) : Page → List Outline
  | done => []
  | line _ rest => rest.outlines (first + 1)
  | directive head _ _ inside rest =>
    .node head.kind head.condition first (inside.outlines (first + 1)) ::
      rest.outlines (first + 1 + inside.height + 1)

/-- The page can be read from its text: its lines are lines and have no at sign, directives are
indented with white space, and their heads can be read before what they enclose. -/
inductive Formed : Page → Prop
  | done : Formed done
  | line {s : List Char} {rest : Page} (hat : '@' ∉ s) (hbreak : '\n' ∉ s) (hrest : Formed rest) :
      Formed (line s rest)
  | directive {head : Head} {opening closing : List Char} {inside rest : Page}
      (hhead : head.Formed inside.print) (hopening : Layout.IsIndent opening)
      (hclosing : Layout.IsIndent closing) (hinside : Formed inside) (hrest : Formed rest) :
      Formed (directive head opening closing inside rest)

theorem count_directive_line {indent words : List Char} (hindent : '\n' ∉ indent)
    (hwords : '\n' ∉ words) (rest : List Char) :
    (indent ++ '@' :: (words ++ '\n' :: rest)).count '\n' = rest.count '\n' + 1 := by
  have hpast : Layout.pastLine [] indent words ++ rest =
      indent ++ '@' :: (words ++ '\n' :: rest) := Layout.pastLine_append rest
  rw [← hpast, List.count_append, Layout.count_pastLine hindent hwords, List.count_nil]
  omega

theorem Formed.count_print {p : Page} (h : p.Formed) : p.print.count '\n' = p.height := by
  induction h with
  | done => rfl
  | line _ hbreak _ ih => simp [print, height, List.count_eq_zero.mpr hbreak, ih]
  | directive hhead hopening hclosing _ _ ihinside ihrest =>
    rw [print, count_directive_line hopening.2 hhead.words_line.2, List.count_append,
      count_directive_line hclosing.2 (ControlKind.endWords_line _).2, ihinside, ihrest, height]
    omega

/-! ### Pages as layouts -/

/-- The layout of a page after the lines `before`. -/
def layout (before : List Char) : Page → Layout
  | done => .text before
  | line s rest => rest.layout (before ++ (s ++ ['\n']))
  | directive head opening closing inside rest =>
    .directive before head opening closing (inside.layout []) (rest.layout [])

theorem print_layout (p : Page) : ∀ before, (p.layout before).print = before ++ p.print := by
  induction p with
  | done => simp [layout, print, Layout.print]
  | line s rest ih => simp [layout, print, ih]
  | directive head opening closing inside rest ihinside ihrest =>
    simp [layout, print, Layout.print, ihinside, ihrest]

theorem isText_nil : Layout.IsText [] := ⟨List.not_mem_nil, wholeLines_nil⟩

theorem Formed.layout {p : Page} (h : p.Formed) :
    ∀ {before : List Char}, Layout.IsText before → (p.layout before).Formed := by
  induction h with
  | done => exact .text
  | @line s rest hat _ _ ih =>
    intro before hbefore
    have hlines : WholeLines (before ++ (s ++ ['\n'])) := by
      rw [← List.append_assoc]
      exact WholeLines.append_line _ wholeLines_nil
    exact ih ⟨by simp [hbefore.1, hat], hlines⟩
  | @directive head opening closing inside rest hhead hopening hclosing _ _ ihinside ihrest =>
    intro before hbefore
    have hformed : head.Formed (inside.layout []).print := by rwa [print_layout]
    exact .directive hbefore hopening hclosing hformed (ihinside isText_nil) (ihrest isText_nil)

/-- Controls that the layout of a page describes have the outlines of the page. -/
theorem Formed.outlineAll_of_describes {p : Page} (h : p.Formed) {text : List Char} :
    ∀ {before : List Char} {first start stop : Nat} {controls : List Control},
      Layout.Describes text first start stop (p.layout before) controls →
        Control.outlineAll controls = p.outlines (first + before.count '\n') := by
  induction h with
  | done =>
    rintro before first start stop controls ⟨⟩
    rfl
  | @line s rest _ hbreak _ ih =>
    intro before first start stop controls hdescribes
    have hcount : (before ++ (s ++ ['\n'])).count '\n' = before.count '\n' + 1 := by
      simp [List.count_eq_zero.mpr hbreak]
    rw [ih hdescribes, hcount]
    rfl
  | @directive head opening closing inside rest _ _ _ hinside _ ihinside ihrest =>
    rintro before first start stop controls ⟨⟩
    rename_i o c children after _ hchildren hafter
    rw [Control.outlineAll, Control.outline, ihinside hchildren, ihrest hafter, print_layout,
      List.nil_append, hinside.count_print]
    rfl

end Page

/-- **Pages round-trip.** The text of a page is a template with the forest of controls of the page:
the same kinds, conditions and nesting in the same order, and each on the line where its opening
marker was printed. -/
theorem Template.outlines_of_parse_page {p : Page} (h : p.Formed) :
    ∃ t, parse p.print = .ok t ∧ t.text = p.print ∧
      Control.outlineAll t.controls = p.outlines 1 := by
  obtain ⟨controls, hparse, hdescribes⟩ := exists_parse_print (h.layout Page.isText_nil)
  rw [Page.print_layout, List.nil_append] at hparse
  exact ⟨_, hparse, rfl, h.outlineAll_of_describes hdescribes⟩

/-- A condition with parentheses of its own. -/
def Condition.nestedParens : Condition where
  text := "(True) or (False)".toList
  expr := .or (.literal (.bool true)) (.literal (.bool false))

/-- A conditional text inside an indented loop with a condition, after two lines. -/
def Page.guardedLoop : Page :=
  .line "first".toList (.line [] (.directive (.each .command (some .nestedParens)) [] ['\t']
    (.directive (.cond .nestedParens) "  ".toList [] (.line "where(".toList .done) .done)
    (.directive (.each .struct none) [' '] [] .done (.line "last".toList .done))))

/-- The loop is read from its text, and stands on the third line of it. -/
theorem Template.outlines_of_parse_guardedLoop : Page.guardedLoop.Formed ∧
    Page.guardedLoop.print = ("first\n\n" ++
      "@foreach function where((True) or (False))\n" ++
      "  @if((True) or (False))\nwhere(\n@end if\n\t@end function\n" ++
      " @foreach struct\n@end struct\nlast\n").toList ∧
    ∃ t, parse Page.guardedLoop.print = .ok t ∧ t.text = Page.guardedLoop.print ∧
      Control.outlineAll t.controls =
        [.node (.each .command) (some .nestedParens) 3 [.node .cond (some .nestedParens) 4 []],
          .node (.each .struct) none 8 []] := by
  have hcondition : Condition.nestedParens.Formed := ⟨by cbv, by decide, by decide⟩
  have hhead (head : Head) (hc : head.condition = some .nestedParens) (inside : List Char) :
      head.Formed inside :=
    ⟨fun c hcond => by rw [hc] at hcond; cases hcond; exact hcondition,
      fun kind hkind => by subst hkind; cases hc⟩
  have hstruct : (Head.each .struct none).Formed [] := by
    constructor
    · intro _ hc
      cases hc
    · intro _ _
      decide
  have hformed : Page.guardedLoop.Formed :=
    .line (by decide) (by decide) (.line (by decide) (by decide)
      (.directive (hhead _ rfl _) (.of_spaces (by simp)) (.of_spaces (by simp))
        (.directive (hhead _ rfl _) (.of_spaces (by simp)) (.of_spaces (by simp))
          (.line (by decide) (by decide) .done) .done)
        (.directive hstruct (.of_spaces (by simp)) (.of_spaces (by simp)) .done
          (.line (by decide) (by decide) .done))))
  exact ⟨hformed, by decide +kernel, outlines_of_parse_page hformed⟩

end LayerStencil
