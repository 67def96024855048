import LayerStencil.Proofs.Condition.Shape
import LayerStencil.Proofs.Segment.Fillable
import LayerStencil.Proofs.Template.Layout

/-! # Texts that expand over every model

A text of whole lines and directives expands over every model if it can be filled with what the
directives around each place provide, if loops over parts have loops over their owners around them,
and if conditions have the shape of truth values. Such texts can be put together without looking at
them again.

* `Layout.Scoped`: this of a layout, and `Expandable`: that a text is the text of such a layout.
* `ExpandableBy`: the same, with the heads of the directives.
* `ExpandableBy.append`, `ExpandableBy.directive`: how such texts are put together.
* `Expandable.expands`: such a text is a template that expands over every model.
* `ExpandableBy.exists_walk`: its controls have the kinds and the conditions of the heads. -/

namespace LayerStencil

open Marker (Blank WholeLines)

/-- The condition uses only the names, and comes to a truth value whatever values these have. -/
structure Condition.Sound (names : List String) (c : Condition) : Prop where
  usesOnly : c.expr.UsesOnly names
  hasShape : c.expr.HasShape .truth

namespace Layout

/-- The layout inside the controls `around`, innermost first, is scoped and its conditions are
sound. -/
inductive Scoped : List ControlKind → Layout → Prop
  | text {around : List ControlKind} {s : List Char}
      (hs : Segment.Fillable (namesInside around) s) : Scoped around (.text s)
  | directive {around : List ControlKind} {before opening closing : List Char} {head : Head}
      {inside after : Layout} (hbefore : Segment.Fillable (namesInside around) before)
      (howner : head.kind.HasOwner around)
      (hcondition : ∀ c, head.condition = some c → c.Sound (namesInside (head.kind :: around)))
      (hinside : Scoped (head.kind :: around) inside) (hafter : Scoped around after) :
      Scoped around (.directive before head opening closing inside after)

/-! ### Controls of a scoped layout -/

theorem usesOnly_core {names : List String} {s core : List Char} (hcore : IsCore s core)
    (hs : Segment.Fillable names s) : Segment.UsesOnly names core := by
  obtain ⟨b, b', hb, hb', rfl⟩ := hcore
  have plain {s : List Char} (hs : Blank s) : ∀ c ∈ s, Segment.isPlain c :=
    fun c hc => Segment.isPlain_of (by decide) (by decide) (hs c hc)
  have hcore := (hs.of_plain_append (plain hb)).of_append_plain (plain hb') rfl
  exact hcore.usesOnly

section Describes
variable {text : List Char} {line start stop : Nat} {l : Layout} {controls : List Control}

theorem Describes.bodyWellScoped (h : l.Describes text line start stop controls) :
    ∀ {around}, l.Scoped around → Control.BodyWellScoped text around start stop controls := by
  induction h with
  | text hs =>
    rintro around ⟨hfill⟩
    rw [Control.BodyWellScoped]
    exact usesOnly_core hs hfill
  | directive hbefore _ _ ihinside ihafter =>
    intro around hscoped
    cases hscoped with
    | directive hfill howner hcondition hinside hafter =>
      rw [Control.BodyWellScoped, Control.WellScoped]
      exact ⟨usesOnly_core hbefore hfill,
        ⟨howner, fun c hc => (hcondition c hc).usesOnly, ihinside hinside⟩, ihafter hafter⟩

theorem Describes.hasShape (h : l.Describes text line start stop controls) :
    ∀ {around}, l.Scoped around → ∀ control ∈ Control.walkAll controls,
      ∀ c, control.condition = some c → c.expr.HasShape .truth := by
  induction h with
  | text _ => exact fun _ => nofun
  | directive _ _ _ ihinside ihafter =>
    intro around hscoped
    cases hscoped with
    | directive _ _ hcondition hinside hafter =>
      rw [Control.walkAll, Control.walk, List.cons_append, List.forall_mem_cons,
        List.forall_mem_append]
      exact ⟨fun c hc => (hcondition c hc).hasShape, ihinside hinside, ihafter hafter⟩

end Describes

/-! ### One layout after another -/

/-- The layout that goes on with another one. -/
def append : Layout → Layout → Layout
  | text s, text s' => text (s ++ s')
  | text s, directive before head opening closing inside after =>
    directive (s ++ before) head opening closing inside after
  | directive before head opening closing inside after, l =>
    directive before head opening closing inside (after.append l)

theorem print_append (l l' : Layout) : (l.append l').print = l.print ++ l'.print := by
  induction l with
  | text s => cases l' <;> simp [append, print]
  | directive before head opening closing inside after _ ih => simp [append, print, ih]

/-- The heads of all directives, each before those inside it. -/
def heads : Layout → List Head
  | text _ => []
  | directive _ head _ _ inside after => head :: (inside.heads ++ after.heads)

theorem heads_append (l l' : Layout) : (l.append l').heads = l.heads ++ l'.heads := by
  induction l with
  | text s => cases l' <;> rfl
  | directive before head opening closing inside after _ ih => simp [append, heads, ih]

theorem Describes.map_walkAll {text : List Char} {line start stop : Nat} {l : Layout}
    {controls : List Control} (h : l.Describes text line start stop controls) :
    (Control.walkAll controls).map (fun k => (k.kind, k.condition)) =
      l.heads.map fun head => (head.kind, head.condition) := by
  induction h with
  | text _ => rfl
  | directive _ _ _ ihinside ihafter =>
    rw [Control.walkAll, Control.walk, heads, List.cons_append, List.map_cons, List.map_cons,
      List.map_append, List.map_append, ihinside, ihafter]
    rfl

theorem IsText.append {s s' : List Char} (hs : IsText s) (hs' : IsText s') : IsText (s ++ s') :=
  ⟨by simp [hs.1, hs'.1], hs.2.append hs'.2⟩

theorem Formed.append {l l' : Layout} (h : l.Formed) (h' : l'.Formed) : (l.append l').Formed := by
  induction h with
  | text hs =>
    cases h' with
    | text hs' => exact .text (hs.append hs')
    | directive hbefore hopening hclosing hhead hinside hafter =>
      exact .directive (hs.append hbefore) hopening hclosing hhead hinside hafter
  | directive hbefore hopening hclosing hhead hinside _ _ ihafter =>
    exact .directive hbefore hopening hclosing hhead hinside ihafter

theorem Scoped.append {around : List ControlKind} {l l' : Layout} (h : l.Scoped around)
    (h' : l'.Scoped around) : (l.append l').Scoped around := by
  induction h with
  | text hs =>
    cases h' with
    | text hs' => exact .text (hs.append hs')
    | directive hbefore howner hcondition hinside hafter =>
      exact .directive (hs.append hbefore) howner hcondition hinside hafter
  | directive hbefore howner hcondition hinside _ _ ihafter =>
    exact .directive hbefore howner hcondition hinside (ihafter h')

end Layout

/-! ### Expandable texts -/

/-- The text, inside the controls `around`, is that of a scoped layout. -/
def Expandable (around : List ControlKind) (cs : List Char) : Prop :=
  ∃ l : Layout, l.print = cs ∧ l.Formed ∧ l.Scoped around

/-- The text, inside the controls `around`, is that of a scoped layout whose directives have the
given heads. -/
def ExpandableBy (around : List ControlKind) (cs : List Char) (heads : List Head) : Prop :=
  ∃ l : Layout, l.print = cs ∧ l.Formed ∧ l.Scoped around ∧ l.heads = heads

section ExpandableBy
variable {around : List ControlKind} {cs ds : List Char} {heads heads' : List Head}

theorem ExpandableBy.expandable (h : ExpandableBy around cs heads) : Expandable around cs := by
  obtain ⟨l, hprint, hformed, hscoped, -⟩ := h
  exact ⟨l, hprint, hformed, hscoped⟩

theorem Expandable.exists_heads (h : Expandable around cs) :
    ∃ heads, ExpandableBy around cs heads := by
  obtain ⟨l, hprint, hformed, hscoped⟩ := h
  exact ⟨l.heads, l, hprint, hformed, hscoped, rfl⟩

theorem ExpandableBy.text (hcs : Layout.IsText cs)
    (hfill : Segment.Fillable (namesInside around) cs) : ExpandableBy around cs [] :=
  ⟨.text cs, rfl, .text hcs, .text hfill, rfl⟩

theorem ExpandableBy.append (h : ExpandableBy around cs heads)
    (h' : ExpandableBy around ds heads') : ExpandableBy around (cs ++ ds) (heads ++ heads') := by
  obtain ⟨l, rfl, hformed, hscoped, rfl⟩ := h
  obtain ⟨l', rfl, hformed', hscoped', rfl⟩ := h'
  exact ⟨l.append l', l.print_append l', hformed.append hformed', hscoped.append hscoped',
    l.heads_append l'⟩

/-- A directive with its two ends on lines of their own. -/
theorem ExpandableBy.directive {head : Head} {opening closing : List Char}
    (hopening : Layout.IsIndent opening) (hclosing : Layout.IsIndent closing)
    (hhead : head.Formed cs) (howner : head.kind.HasOwner around)
    (hcondition : ∀ c, head.condition = some c → c.Sound (namesInside (head.kind :: around)))
    (h : ExpandableBy (head.kind :: around) cs heads) :
    ExpandableBy around (opening ++ '@' :: (head.words ++ '\n' :: (cs ++
      (closing ++ '@' :: (head.kind.endWords ++ ['\n']))))) (head :: heads) := by
  obtain ⟨inside, rfl, hformed, hscoped, rfl⟩ := h
  have hnil : Layout.IsText [] := ⟨by simp, Marker.wholeLines_nil⟩
  exact ⟨.directive [] head opening closing inside (.text []), rfl,
    .directive hnil hopening hclosing hhead hformed (.text hnil),
    .directive .nil howner hcondition hscoped (.text .nil), by simp [Layout.heads]⟩

/-- The controls of such a text have the kinds and the conditions of the heads. -/
theorem ExpandableBy.exists_walk (h : ExpandableBy [] cs heads) :
    ∃ t, Template.parse cs = .ok t ∧ t.walk.map (fun k => (k.kind, k.condition)) =
      heads.map fun head => (head.kind, head.condition) := by
  obtain ⟨l, rfl, hformed, -, rfl⟩ := h
  obtain ⟨controls, hparse, hdescribes⟩ := Template.exists_parse_print hformed
  exact ⟨_, hparse, hdescribes.map_walkAll⟩

end ExpandableBy

section Expandable
variable {cs : List Char}

/-- **An expandable text is a template that expands over every model.** -/
theorem Expandable.expands (h : Expandable [] cs) :
    ∃ t, Template.parse cs = .ok t ∧ ∀ m, ∃ events, t.expand m = .ok events := by
  obtain ⟨l, rfl, hformed, hscoped⟩ := h
  obtain ⟨controls, hparse, hdescribes⟩ := Template.exists_parse_print hformed
  exact ⟨_, hparse, fun m => Template.exists_expand m (hdescribes.bodyWellScoped hscoped)
    (hdescribes.hasShape hscoped)⟩

end Expandable

end LayerStencil
