import LayerStencil.Generation
import LayerStencil.Proofs.Template.Stretch

/-! # Texts with the same content

What a stencil text means depends on the marks of its markers and on the text between them, and not
on how much text the markers take. Two texts that agree in this are templates with the same forest,
or fail for the same reason, and they expand to the same text over every model; only the lines in
messages may differ.

* `SameOutcome`: results that agree, or errors that agree up to lines.
* `Control.skeleton`: what a control says, without the places of its markers.
* `SameContent`: the same marks, with the same text between them.
* `SameContent.parse`, `SameContent.render`: such texts have the same forest and expand alike. -/

namespace LayerStencil

/-! ### Errors without lines -/

/-- The error without the lines it names. -/
def ParseError.unplaced : ParseError → ParseError
  | mismatched expected found _ _ => mismatched expected found 0 0
  | unexpectedEnd found _ => unexpectedEnd found 0
  | unclosed kind _ => unclosed kind 0
  | unknownKind tag _ => unknownKind tag 0
  | condition text _ => condition text 0

/-- The error without the line it names. -/
def ExpandError.unplaced : ExpandError → ExpandError
  | unbound name _ => unbound name 0
  | format cause _ => format cause 0
  | missingOwner kind _ => missingOwner kind 0
  | condition text cause _ => condition text cause 0

/-- The error without the lines it names. -/
def GenerationError.unplaced : GenerationError → GenerationError
  | template cause => template cause.unplaced
  | expansion cause => expansion cause.unplaced

/-- Two results that are related, or two errors that are one but for what `forget` takes away. -/
inductive SameOutcome {ε α β : Type} (forget : ε → ε) (r : α → β → Prop) :
    Except ε α → Except ε β → Prop
  | ok {a : α} {b : β} (h : r a b) : SameOutcome forget r (.ok a) (.ok b)
  | error {e e' : ε} (h : forget e = forget e') : SameOutcome forget r (.error e) (.error e')

theorem SameOutcome.bind {ε α β γ δ : Type} {forget : ε → ε} {r : α → β → Prop}
    {s : γ → δ → Prop} {x : Except ε α} {y : Except ε β} {f : α → Except ε γ} {g : β → Except ε δ}
    (h : SameOutcome forget r x y) (hfg : ∀ a b, r a b → SameOutcome forget s (f a) (g b)) :
    SameOutcome forget s (x >>= f) (y >>= g) := by
  cases h with
  | ok h => exact hfg _ _ h
  | error h => exact .error h

/-! ### Controls without places -/

/-- What a control says, with the controls inside it. -/
inductive Skeleton where
  | node (kind : ControlKind) (condition : Option Condition) (children : List Skeleton)

mutual

/-- The skeleton of a control. -/
def Control.skeleton : Control → Skeleton
  | node kind condition _ _ _ children => .node kind condition (skeletonAll children)

/-- The skeletons of all controls of a list. -/
def Control.skeletonAll : List Control → List Skeleton
  | [] => []
  | c :: cs => c.skeleton :: skeletonAll cs

end

theorem Control.skeletonAll_append (cs cs' : List Control) :
    skeletonAll (cs ++ cs') = skeletonAll cs ++ skeletonAll cs' := by
  induction cs with
  | nil => rfl
  | cons c cs ih => rw [List.cons_append, skeletonAll, skeletonAll, ih, List.cons_append]

/-- The forest of a template without places. -/
def Template.forest (t : Template) : List Skeleton := Control.skeletonAll t.controls

/-! ### Nesting -/

namespace Template

/-- Two open frames that say the same and hold controls of the same skeletons. -/
structure Frame.Alike (f f' : Frame) : Prop where
  kind : f.kind = f'.kind
  condition : f.condition = f'.condition
  children : Control.skeletonAll f.children = Control.skeletonAll f'.children

theorem Frame.Alike.skeleton_close {f f' : Frame} (h : f.Alike f') (m m' : Marker) :
    (f.close m).skeleton = (f'.close m').skeleton := by
  rw [Frame.close, Frame.close, Control.skeleton, Control.skeleton, h.kind, h.condition, h.children]

theorem Frame.alike_open? (tag : String) (condition : Option (List Char)) (m m' : Marker)
    (line line' : Nat) : SameOutcome ParseError.unplaced Frame.Alike
      (Frame.open? tag condition m line) (Frame.open? tag condition m' line') := by
  unfold Frame.open?
  cases ControlKind.ofTag? tag with
  | none => exact .error rfl
  | some kind =>
    cases condition with
    | none => exact .ok ⟨rfl, rfl, rfl⟩
    | some text =>
      dsimp only
      cases Condition.parse? text with
      | none => exact .error rfl
      | some c => exact .ok ⟨rfl, rfl, rfl⟩

/-- Markers with the same marks nest into controls of the same skeletons. -/
theorem nest_alike (text text' : List Char) : ∀ {ms ms' : List Marker},
    ms.map Marker.mark = ms'.map Marker.mark →
    ∀ {stack stack' : List Frame} {done done' : List Control},
      List.Forall₂ Frame.Alike stack stack' → Control.skeletonAll done = Control.skeletonAll done' →
        SameOutcome ParseError.unplaced
          (fun cs cs' => Control.skeletonAll cs = Control.skeletonAll cs')
          (nest text stack done ms) (nest text' stack' done' ms')
  | [], [], _, _, _, _, _, .nil, hdone => .ok hdone
  | [], [], _, _, _, _, _, .cons hf _, _ => .error (by simp only [ParseError.unplaced, hf.kind])
  | m :: ms, m' :: ms', hmarks, stack, stack', done, done', hstack, hdone => by
    obtain ⟨hmark, hms⟩ := List.cons.inj hmarks
    have ih := @nest_alike text text' ms ms' hms
    rw [nest, nest, ← hmark]
    cases m.mark with
    | opens tag condition =>
      have hopen := Frame.alike_open? tag condition m m' (Text.lineAt text m.sign)
        (Text.lineAt text' m'.sign)
      dsimp only
      generalize Frame.open? tag condition m (Text.lineAt text m.sign) = x at hopen ⊢
      generalize Frame.open? tag condition m' (Text.lineAt text' m'.sign) = x' at hopen ⊢
      cases hopen with
      | error h => exact .error h
      | ok hf => exact ih (.cons hf hstack) hdone
    | closes tag =>
      cases hstack with
      | nil => exact .error rfl
      | @cons f f' stack stack' hf hstack =>
        dsimp only
        rw [← hf.kind]
        split
        · cases hstack with
          | nil =>
            refine ih .nil ?_
            rw [Control.skeletonAll_append, Control.skeletonAll_append, hdone, Control.skeletonAll,
              Control.skeletonAll, hf.skeleton_close m m']
            rfl
          | cons hg hstack =>
            refine ih (.cons ⟨hg.kind, hg.condition, ?_⟩ hstack) hdone
            rw [Control.skeletonAll_append, Control.skeletonAll_append, hg.children,
              Control.skeletonAll, Control.skeletonAll, hf.skeleton_close m m']
            rfl
        · exact .error rfl

end Template

/-! ### Expansion -/

/-- The text of a stretch. -/
def Stretch.slice (text : List Char) (g : Stretch) : List Char := Text.slice text g.start g.stop

mutual

theorem Control.length_stretches : ∀ {c c' : Control}, c.skeleton = c'.skeleton →
    c.stretches.length = c'.stretches.length
  | .node _ _ opening closing _ children, .node _ _ opening' closing' _ children', h => by
    rw [skeleton, skeleton, Skeleton.node.injEq] at h
    rw [stretches, stretches]
    exact Control.length_bodyStretches h.2.2 _ _ _ _

theorem Control.length_bodyStretches : ∀ {cs cs' : List Control}, skeletonAll cs = skeletonAll cs' →
    ∀ start stop start' stop',
      (bodyStretches start stop cs).length = (bodyStretches start' stop' cs').length
  | [], [], _, _, _, _, _ => rfl
  | c :: cs, c' :: cs', h, start, stop, start', stop' => by
    obtain ⟨hc, hcs⟩ := List.cons.inj h
    rw [bodyStretches, bodyStretches, List.length_cons, List.length_cons, List.length_append,
      List.length_append, Control.length_stretches hc, Control.length_bodyStretches hcs _ _ _ _]

end

namespace Template

variable {m : Model} {text text' : List Char}

/-- Events that print the same text. -/
def SamePrint (es es' : List Event) : Prop := Event.printAll es = Event.printAll es'

theorem SamePrint.refl (es : List Event) : SamePrint es es := rfl

theorem SamePrint.append {es es' fs fs' : List Event} (h : SamePrint es es')
    (h' : SamePrint fs fs') : SamePrint (es ++ fs) (es' ++ fs') := by
  unfold SamePrint Event.printAll at *
  rw [List.flatMap_append, List.flatMap_append, h, h']

theorem SamePrint.guarded {es es' : List Event} (h : SamePrint es es') (guard : Option String) :
    SamePrint (Template.guarded guard es) (Template.guarded guard es') := by
  cases guard with
  | none => exact h
  | some g =>
    exact (SamePrint.refl [.openGuard g]).append (h.append rfl)

theorem fill_alike {start stop start' stop' : Nat}
    (h : Text.slice text start stop = Text.slice text' start' stop') (values : Values) :
    SameOutcome ExpandError.unplaced Eq (fill text values start stop)
      (fill text' values start' stop') := by
  unfold fill
  rw [h]
  cases Segment.substitute values (Text.slice text' start' stop') with
  | ok s => exact .ok rfl
  | error e => cases e <;> exact .error rfl

theorem keeps_alike (condition : Option Condition) (line line' : Nat) (values : Values) :
    SameOutcome ExpandError.unplaced Eq (keeps condition line values)
      (keeps condition line' values) := by
  unfold keeps
  cases condition with
  | none => exact .ok rfl
  | some c =>
    dsimp only
    cases c.evaluate values with
    | ok b => exact .ok rfl
    | error e =>
      dsimp only
      cases e.unbound? <;> exact .error rfl

theorem visitAll_alike {visit visit' : Item → Except ExpandError (Option (List Event))}
    (h : ∀ item,
      SameOutcome ExpandError.unplaced (Option.Rel SamePrint) (visit item) (visit' item)) :
    ∀ items : List Item, SameOutcome ExpandError.unplaced (fun a a' => SamePrint a.2 a'.2)
      (visitAll visit items) (visitAll visit' items)
  | [] => .ok rfl
  | item :: items => by
    rw [visitAll, visitAll]
    refine (h item).bind fun here here' hhere => ?_
    refine (visitAll_alike h items).bind ?_
    rintro ⟨n, es⟩ ⟨n', es'⟩ hes
    cases hhere with
    | none => exact .ok hes
    | some hbody => exact .ok (hbody.append hes)

mutual

theorem expandControl_alike (scope : Scope) : ∀ {c c' : Control}, c.skeleton = c'.skeleton →
    c.stretches.map (Stretch.slice text) = c'.stretches.map (Stretch.slice text') →
      SameOutcome ExpandError.unplaced SamePrint (expandControl m text scope c)
        (expandControl m text' scope c')
  | .node kind condition opening closing line children,
      .node kind' condition' opening' closing' line' children', hsame, hslices => by
    rw [Control.skeleton, Control.skeleton, Skeleton.node.injEq] at hsame
    obtain ⟨rfl, rfl, hchildren⟩ := hsame
    rw [Control.stretches, Control.stretches] at hslices
    rw [expandControl, expandControl]
    cases m.domain scope kind with
    | error kind => exact .error rfl
    | ok items =>
      refine (visitAll_alike (fun item => ?_) items).bind ?_
      · refine (keeps_alike condition line line' _).bind ?_
        rintro keep _ rfl
        cases keep with
        | false => exact .ok .none
        | true =>
          refine (expandBody_alike _ _ hchildren hslices).bind fun body body' hbody => ?_
          exact .ok (.some (hbody.guarded _))
      · rintro ⟨n, es⟩ ⟨n', es'⟩ hes
        exact .ok (SamePrint.append hes rfl)

/-- Controls of the same skeletons, with the same text around and in them, expand alike. -/
theorem expandBody_alike (scope : Scope) (values : Values) : ∀ {cs cs' : List Control},
    Control.skeletonAll cs = Control.skeletonAll cs' → ∀ {start stop start' stop' : Nat},
      (Control.bodyStretches start stop cs).map (Stretch.slice text) =
        (Control.bodyStretches start' stop' cs').map (Stretch.slice text') →
      SameOutcome ExpandError.unplaced SamePrint (expandBody m text scope values start stop cs)
        (expandBody m text' scope values start' stop' cs')
  | [], [], _, start, stop, start', stop', hslices => by
    rw [expandBody, expandBody]
    refine (fill_alike (List.cons.inj hslices).1 values).bind ?_
    rintro s _ rfl
    exact .ok rfl
  | c :: cs, c' :: cs', hsame, start, stop, start', stop', hslices => by
    obtain ⟨hc, hcs⟩ := List.cons.inj hsame
    rw [Control.bodyStretches, Control.bodyStretches, List.map_cons, List.map_cons,
      List.map_append, List.map_append] at hslices
    obtain ⟨hfirst, hrest⟩ := List.cons.inj hslices
    obtain ⟨hinside, hafter⟩ := List.append_inj hrest (by
      rw [List.length_map, List.length_map, Control.length_stretches hc])
    rw [expandBody, expandBody]
    refine (fill_alike hfirst values).bind ?_
    rintro s _ rfl
    refine (expandControl_alike scope hc hinside).bind fun es es' hes => ?_
    refine (expandBody_alike scope values hcs hafter).bind fun fs fs' hfs => ?_
    exact .ok ((SamePrint.refl [.text s]).append (hes.append hfs))

end

/-! ### Whole texts -/

/-- Two texts whose markers say the same and have the same text between them. -/
structure SameContent (text text' : List Char) : Prop where
  marks : (Marker.scan text).map Marker.mark = (Marker.scan text').map Marker.mark
  slices : (between 0 text.length (Marker.scan text)).map (Stretch.slice text) =
    (between 0 text'.length (Marker.scan text')).map (Stretch.slice text')

theorem SameContent.trans {text'' : List Char} (h : SameContent text text')
    (h' : SameContent text' text'') : SameContent text text'' :=
  ⟨h.marks.trans h'.marks, h.slices.trans h'.slices⟩

/-- **Texts with the same content have the same forest**, or fail for the same reason. -/
theorem SameContent.parse (h : SameContent text text') :
    SameOutcome ParseError.unplaced (fun t t' => t.forest = t'.forest) (parse text)
      (parse text') := by
  have hnest := @nest_alike text text' _ _ h.marks [] [] [] [] .nil rfl
  unfold Template.parse
  generalize nest text [] [] (Marker.scan text) = x at hnest ⊢
  generalize nest text' [] [] (Marker.scan text') = x' at hnest ⊢
  cases hnest with
  | error he => exact .error he
  | ok hforest => exact .ok hforest

/-- **Texts with the same content expand alike** over every model: to the same text, or to the same
error up to lines. -/
theorem SameContent.render (h : SameContent text text') (m : Model) :
    SameOutcome GenerationError.unplaced Eq (render m text) (render m text') := by
  have hparse := h.parse
  rw [Template.render, Template.render]
  cases ht : Template.parse text with
  | error e =>
    cases ht' : Template.parse text' with
    | ok t' => rw [ht, ht'] at hparse; cases hparse
    | error e' =>
      rw [ht, ht'] at hparse
      cases hparse with
      | error he => exact .error (congrArg GenerationError.template he)
  | ok t =>
    cases ht' : Template.parse text' with
    | error e' => rw [ht, ht'] at hparse; cases hparse
    | ok t' =>
      rw [ht, ht'] at hparse
      cases hparse with
      | ok hforest =>
        obtain ⟨rfl, hstretches⟩ := stretches_eq_between ht
        obtain ⟨rfl, hstretches'⟩ := stretches_eq_between ht'
        have hslices := h.slices
        rw [← hstretches, ← hstretches'] at hslices
        have hexpand := expandBody_alike (m := m) [] .empty hforest hslices
        dsimp only
        unfold Template.expand
        generalize expandBody m t.text [] .empty 0 t.text.length t.controls = x at hexpand ⊢
        generalize expandBody m t'.text [] .empty 0 t'.text.length t'.controls = x' at hexpand ⊢
        cases hexpand with
        | error he => exact .error (congrArg GenerationError.expansion he)
        | ok hprint => exact .ok hprint

end Template

end LayerStencil
