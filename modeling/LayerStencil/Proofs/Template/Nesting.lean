import LayerStencil.Proofs.Template.MarkerOrder
import LayerStencil.Template.Control
import Mathlib.Tactic.Common

/-! # Nesting of markers

A text is a template if and only if its markers form a bracket word, in which every opening marker
is known and can be read and every closing marker names what it closes; the forest of controls,
flattened, is then that word. Otherwise the first marker that breaks it decides on the error.

* `Nested`: the bracket words. `OpenAfter stack w`: the markers `w` begin a bracket word and leave
  the openings in `stack` unclosed, innermost first. `Fault`: which marker cannot follow then, and
  what is reported of it.
* `nested_or_firstFault`: every sequence of markers is a bracket word or has a first fault.
* `Template.nest_nested`, `Template.nest_openAfter`: reading a bracket word adds the controls that
  flatten to it, and nothing else; reading the beginning of one leaves frames for its openings.
* `Template.parse_eq_ok_iff_nested`: what this says of a whole text. -/

namespace LayerStencil

/-! ### Bracket words -/

/-- The marker opens a control: its tag is that of `kind`, and a condition that it has can be
read. -/
def Marker.Opens (m : Marker) (kind : ControlKind) : Prop :=
  ∃ condition, m.mark = .opens kind.tag condition ∧
    ∀ text, condition = some text → (Condition.parse? text).isSome

/-- The marker closes a control of the kind. -/
def Marker.Closes (m : Marker) (kind : ControlKind) : Prop := m.mark = .closes kind.tag

/-- The line of the at sign of a marker. -/
def Marker.line (text : List Char) (m : Marker) : Nat := Text.lineAt text m.sign

/-- **Bracket words** of markers. -/
inductive Nested : List Marker → Prop
  | nil : Nested []
  | pair {kind : ControlKind} {o c : Marker} {inner rest : List Marker} (ho : o.Opens kind)
      (hc : c.Closes kind) (hinner : Nested inner) (hrest : Nested rest) :
      Nested (o :: (inner ++ c :: rest))

/-- Beginnings of bracket words, with the openings that they leave unclosed, innermost first. -/
inductive OpenAfter : List Marker → List Marker → Prop
  | closed {w : List Marker} (hw : Nested w) : OpenAfter [] w
  | push {stack w inner : List Marker} {kind : ControlKind} {o : Marker} (hw : OpenAfter stack w)
      (ho : o.Opens kind) (hinner : Nested inner) : OpenAfter (o :: stack) (w ++ o :: inner)

/-- The marker cannot follow when the openings in `stack` are unclosed, for the given reason. -/
inductive Fault (text : List Char) : (stack : List Marker) → Marker → ParseError → Prop
  | unknownKind {stack : List Marker} {m : Marker} {tag : String} {condition : Option (List Char)}
      (hm : m.mark = .opens tag condition) (htag : ∀ kind : ControlKind, kind.tag ≠ tag) :
      Fault text stack m (.unknownKind tag (m.line text))
  | condition {stack : List Marker} {m : Marker} {kind : ControlKind} {condition : List Char}
      (hm : m.mark = .opens kind.tag (some condition)) (hread : Condition.parse? condition = none) :
      Fault text stack m (.condition condition (m.line text))
  | unexpectedEnd {m : Marker} {tag : String} (hm : m.mark = .closes tag) :
      Fault text [] m (.unexpectedEnd tag (m.line text))
  | mismatched {stack : List Marker} {o m : Marker} {kind : ControlKind} {tag : String}
      (ho : o.Opens kind) (hm : m.mark = .closes tag) (hne : kind.tag ≠ tag) :
      Fault text (o :: stack) m (.mismatched kind tag (m.line text) (o.line text))

/-- What breaks a sequence of markers: the first marker that cannot follow those before it, or, if
there is none, the innermost opening that is unclosed at the end. -/
inductive FirstFault (text : List Char) (ms : List Marker) : ParseError → Prop
  | marker {before after stack : List Marker} {m : Marker} {e : ParseError}
      (hms : ms = before ++ m :: after) (hbefore : OpenAfter stack before)
      (hm : Fault text stack m e) : FirstFault text ms e
  | unclosed {stack : List Marker} {o : Marker} {kind : ControlKind} (ho : o.Opens kind)
      (hms : OpenAfter (o :: stack) ms) : FirstFault text ms (.unclosed kind (o.line text))

theorem Nested.append {w v : List Marker} (hw : Nested w) (hv : Nested v) : Nested (w ++ v) := by
  induction hw with
  | nil => exact hv
  | pair ho hc hinner _ _ ih =>
    rw [List.cons_append, List.append_assoc, List.cons_append]
    exact Nested.pair ho hc hinner ih

theorem OpenAfter.append {stack w v : List Marker} (hw : OpenAfter stack w) (hv : Nested v) :
    OpenAfter stack (w ++ v) := by
  cases hw with
  | closed hw => exact OpenAfter.closed (hw.append hv)
  | push hw ho hinner =>
    rw [List.append_assoc, List.cons_append]
    exact OpenAfter.push hw ho (hinner.append hv)

/-- **One more marker** keeps a sequence the beginning of a bracket word, or is at fault. -/
theorem OpenAfter.step {stack w : List Marker} (text : List Char) (hw : OpenAfter stack w)
    (m : Marker) : (∃ e, Fault text stack m e) ∨ ∃ stack', OpenAfter stack' (w ++ [m]) := by
  cases hm : m.mark with
  | opens tag condition =>
    by_cases htag : ∃ kind : ControlKind, kind.tag = tag
    · obtain ⟨kind, rfl⟩ := htag
      by_cases hread : ∃ text, condition = some text ∧ Condition.parse? text = none
      · obtain ⟨condition, rfl, hread⟩ := hread
        exact Or.inl ⟨_, Fault.condition hm hread⟩
      · have hopens : m.Opens kind := by
          refine ⟨condition, hm, fun text htext => ?_⟩
          rw [Option.isSome_iff_ne_none]
          exact fun hnone => hread ⟨text, htext, hnone⟩
        exact Or.inr ⟨m :: stack, OpenAfter.push hw hopens Nested.nil⟩
    · exact Or.inl ⟨_, Fault.unknownKind hm fun kind h => htag ⟨kind, h⟩⟩
  | closes tag =>
    cases hw with
    | closed hw => exact Or.inl ⟨_, Fault.unexpectedEnd hm⟩
    | @push stack w inner kind o hw ho hinner =>
      by_cases htag : kind.tag = tag
      · subst htag
        have hpair : Nested (o :: (inner ++ [m])) := Nested.pair ho hm hinner Nested.nil
        rw [List.append_assoc, List.cons_append]
        exact Or.inr ⟨stack, hw.append hpair⟩
      · exact Or.inl ⟨_, Fault.mismatched ho hm htag⟩

theorem OpenAfter.run {text : List Char} : ∀ (ms : List Marker) {stack w : List Marker},
    OpenAfter stack w → (∃ stack', OpenAfter stack' (w ++ ms)) ∨
      ∃ before m after stack' e, w ++ ms = before ++ m :: after ∧ OpenAfter stack' before ∧
        Fault text stack' m e
  | [], stack, w, hw => Or.inl ⟨stack, by rwa [List.append_nil]⟩
  | m :: ms, stack, w, hw => by
    rcases hw.step text m with ⟨e, he⟩ | ⟨stack', hstep⟩
    · exact Or.inr ⟨w, m, ms, stack, e, rfl, hw, he⟩
    · rw [List.append_cons]
      exact OpenAfter.run ms hstep

/-- **Every sequence of markers** is a bracket word or has a first fault. -/
theorem nested_or_firstFault (text : List Char) (ms : List Marker) :
    Nested ms ∨ ∃ e, FirstFault text ms e := by
  rcases OpenAfter.run ms (OpenAfter.closed Nested.nil) with
    ⟨stack, h⟩ | ⟨before, m, after, stack, e, hms, hbefore, hm⟩
  · cases h with
    | closed h => exact Or.inl h
    | push hw ho hinner => exact Or.inr ⟨_, FirstFault.unclosed ho (OpenAfter.push hw ho hinner)⟩
  · exact Or.inr ⟨e, FirstFault.marker hms hbefore hm⟩

/-! ### Flattening -/

mutual

/-- The markers of a control and of the controls in it, in order. -/
def Control.markers : Control → List Marker
  | .node kind condition opening closing _ children =>
    { opening with mark := .opens kind.tag (condition.map Condition.text) } ::
      (Control.markersAll children ++ [{ closing with mark := .closes kind.tag }])

/-- The markers of all controls of a list, in order. -/
def Control.markersAll : List Control → List Marker
  | [] => []
  | c :: cs => c.markers ++ Control.markersAll cs

end

mutual

/-- The openings of the controls of a walk are among the markers, in the same order, as far as their
places are concerned. -/
theorem Control.sublist_markers {α : Type} (place : Marker → α)
    (hplace : ∀ m mark, place { m with mark := mark } = place m) : ∀ c : Control,
    (c.walk.map fun c => place c.opening).Sublist (c.markers.map place)
  | .node kind condition opening closing line children => by
    rw [Control.walk, Control.markers, List.map_cons, List.map_cons, List.map_append,
      hplace opening (.opens kind.tag (condition.map Condition.text))]
    exact ((Control.sublist_markersAll place hplace children).trans
      (List.sublist_append_left _ _)).cons_cons _

theorem Control.sublist_markersAll {α : Type} (place : Marker → α)
    (hplace : ∀ m mark, place { m with mark := mark } = place m) : ∀ cs : List Control,
    ((Control.walkAll cs).map fun c => place c.opening).Sublist
      ((Control.markersAll cs).map place)
  | [] => List.Sublist.slnil
  | c :: cs => by
    rw [Control.walkAll, Control.markersAll, List.map_append, List.map_append]
    exact (Control.sublist_markers place hplace c).append
      (Control.sublist_markersAll place hplace cs)

end

/-- The control was read from its opening marker: the line and the tree of the condition are those
of the marker. -/
def Control.IsRead (text : List Char) (c : Control) : Prop :=
  c.line = c.opening.line text ∧
    ∀ condition, c.condition = some condition → Condition.parse? condition.text = some condition

namespace Template

/-! ### Reading bracket words -/

/-- The state of the reading after it has read some more controls. -/
def grow (stack : List Frame) (done controls : List Control) : List Frame × List Control :=
  match stack with
  | [] => ([], done ++ controls)
  | f :: stack => ({ f with children := f.children ++ controls } :: stack, done)

theorem grow_nil (stack : List Frame) (done : List Control) :
    grow stack done [] = (stack, done) := by
  cases stack <;> simp [grow]

theorem grow_grow (stack : List Frame) (done cs ds : List Control) :
    grow (grow stack done cs).1 (grow stack done cs).2 ds = grow stack done (cs ++ ds) := by
  cases stack <;> simp [grow]

/-- The frame is that of an opening marker, with any controls read inside it. -/
structure Frame.IsOf (text : List Char) (f : Frame) (o : Marker) : Prop where
  opening : f.opening = o
  mark : o.mark = .opens f.kind.tag (f.condition.map Condition.text)
  line : f.line = o.line text
  condition : ∀ condition, f.condition = some condition →
    Condition.parse? condition.text = some condition

theorem parse?_text {text : List Char} {c : Condition} (h : Condition.parse? text = some c) :
    c.text = text := by
  obtain ⟨expr, -, rfl⟩ := Option.map_eq_some_iff.mp h
  rfl

theorem nest_opens {text : List Char} {o : Marker} {kind : ControlKind} (ho : o.Opens kind) :
    ∃ f : Frame, f.IsOf text o ∧ f.kind = kind ∧ f.children = [] ∧
      ∀ stack done ms, nest text stack done (o :: ms) = nest text (f :: stack) done ms := by
  obtain ⟨condition, hmark, hread⟩ := ho
  have hkind : ControlKind.ofTag? kind.tag = some kind := ControlKind.ofTag?_eq_some_iff.mpr rfl
  cases condition with
  | none =>
    refine ⟨⟨kind, none, o, o.line text, []⟩, ⟨rfl, hmark, rfl, nofun⟩, rfl, rfl, ?_⟩
    intro stack done ms
    rw [nest, hmark]
    simp only [Frame.open?, hkind]
    rfl
  | some cond =>
    obtain ⟨c, hc⟩ := Option.isSome_iff_exists.mp (hread cond rfl)
    refine ⟨⟨kind, some c, o, o.line text, []⟩, ⟨rfl, ?_, rfl, ?_⟩, rfl, rfl, ?_⟩
    · rw [hmark, Option.map_some, parse?_text hc]
    · rintro _ ⟨⟩
      rw [parse?_text hc]; exact hc
    · intro stack done ms
      rw [nest, hmark]
      simp only [Frame.open?, hkind, hc]
      rfl

theorem nest_closes {text : List Char} {c : Marker} {f : Frame} (hc : c.Closes f.kind)
    (stack : List Frame) (done : List Control) (ms : List Marker) :
    nest text (f :: stack) done (c :: ms) =
      nest text (grow stack done [f.close c]).1 (grow stack done [f.close c]).2 ms := by
  rw [nest, hc]
  simp only [if_true]
  cases stack <;> rfl

/-- **A bracket word is read** into controls that flatten to it. -/
theorem nest_nested (text : List Char) {w : List Marker} (hw : Nested w) :
    ∃ controls, Control.markersAll controls = w ∧
      (∀ c ∈ Control.walkAll controls, c.IsRead text) ∧
      ∀ stack done ms, nest text stack done (w ++ ms) =
        nest text (grow stack done controls).1 (grow stack done controls).2 ms := by
  -- For every state of the reading, since the word inside a pair is read with one more frame.
  induction hw with
  | nil => exact ⟨[], rfl, nofun, fun stack done ms => by rw [grow_nil]; rfl⟩
  | @pair kind o c inner rest ho hc _ _ ihinner ihrest =>
    obtain ⟨inside, hinside, hreadInside, hinner⟩ := ihinner
    obtain ⟨after, hafter, hreadAfter, hrest⟩ := ihrest
    obtain ⟨f, ⟨rfl, hmark, hline, hcondition⟩, rfl, hchildren, hopens⟩ := nest_opens ho
    let control : Control := ({ f with children := inside } : Frame).close c
    refine ⟨control :: after, ?_, ?_, fun stack done ms => ?_⟩
    · have hopen : { f.opening with mark := .opens f.kind.tag (f.condition.map Condition.text) } =
          f.opening := by rw [← hmark]
      have hclose : { c with mark := .closes f.kind.tag } = c := by rw [← hc]
      show Control.markersAll (.node f.kind f.condition f.opening c f.line inside :: after) = _
      rw [Control.markersAll, Control.markers, hopen, hclose, hinside, hafter]
      simp
    · intro d hd
      rw [Control.walkAll] at hd
      rcases List.mem_append.mp hd with hd | hd
      · rcases List.mem_cons.mp hd with rfl | hd
        · exact ⟨hline, hcondition⟩
        · exact hreadInside d hd
      · exact hreadAfter d hd
    · calc nest text stack done (f.opening :: (inner ++ c :: rest) ++ ms)
          = nest text (f :: stack) done (inner ++ (c :: (rest ++ ms))) := by
            rw [List.cons_append, hopens, List.append_assoc, List.cons_append]
        _ = nest text ({ f with children := inside } :: stack) done (c :: (rest ++ ms)) := by
            rw [hinner]; simp only [grow, hchildren, List.nil_append]
        _ = nest text (grow stack done [control]).1 (grow stack done [control]).2 (rest ++ ms) :=
            nest_closes (f := { f with children := inside }) hc stack done _
        _ = _ := by rw [hrest, grow_grow]; rfl

/-- **The beginning of a bracket word is read** into frames for its unclosed openings. -/
theorem nest_openAfter (text : List Char) {stack w : List Marker} (hw : OpenAfter stack w) :
    ∃ frames done, List.Forall₂ (Frame.IsOf text) frames stack ∧
      ∀ ms, nest text [] [] (w ++ ms) = nest text frames done ms := by
  induction hw with
  | closed hw =>
    obtain ⟨controls, -, -, h⟩ := nest_nested text hw
    exact ⟨[], controls, List.Forall₂.nil, fun ms => h [] [] ms⟩
  | @push stack w inner kind o hw ho hinner ih =>
    obtain ⟨frames, done, hframes, hread⟩ := ih
    obtain ⟨f, hf, rfl, -, hopens⟩ := nest_opens ho
    obtain ⟨inside, -, -, hinside⟩ := nest_nested text hinner
    refine ⟨{ f with children := f.children ++ inside } :: frames, done,
      List.Forall₂.cons ⟨hf.opening, hf.mark, hf.line, hf.condition⟩ hframes, fun ms => ?_⟩
    rw [List.append_assoc, List.cons_append, hread, hopens, hinside]
    rfl

theorem Frame.IsOf.kind_eq {text : List Char} {f : Frame} {o : Marker} {kind : ControlKind}
    (h : f.IsOf text o) (ho : o.Opens kind) : f.kind = kind := by
  obtain ⟨condition, hmark, -⟩ := ho
  have htag : f.kind.tag = kind.tag := by
    have := h.mark.symm.trans hmark
    exact (Mark.opens.inj this).1
  have := ControlKind.ofTag?_eq_some_iff.mpr htag
  rw [ControlKind.ofTag?_eq_some_iff.mpr rfl] at this
  exact (Option.some.inj this).symm

theorem nest_fault {text : List Char} {frames : List Frame} {stack : List Marker} {m : Marker}
    {e : ParseError} (hframes : List.Forall₂ (Frame.IsOf text) frames stack)
    (hm : Fault text stack m e) (done : List Control) (ms : List Marker) :
    nest text frames done (m :: ms) = .error e := by
  cases hm with
  | @unknownKind _ _ tag condition hm htag =>
    have hnone : ControlKind.ofTag? tag = none :=
      Option.eq_none_iff_forall_ne_some.mpr fun kind h =>
        htag kind (ControlKind.ofTag?_eq_some_iff.mp h)
    rw [nest, hm]
    simp only [Frame.open?, hnone]
    rfl
  | @condition _ _ kind condition hm hread =>
    have hkind : ControlKind.ofTag? kind.tag = some kind := ControlKind.ofTag?_eq_some_iff.mpr rfl
    rw [nest, hm]
    simp only [Frame.open?, hkind, hread]
    rfl
  | unexpectedEnd hm =>
    cases hframes
    rw [nest, hm]
    rfl
  | mismatched ho hm hne =>
    cases hframes with
    | cons hf _ =>
      rw [nest, hm]
      simp only [hf.kind_eq ho, hne, if_false, hf.line]
      rfl

theorem nest_firstFault {text : List Char} {ms : List Marker} {e : ParseError}
    (h : FirstFault text ms e) : nest text [] [] ms = .error e := by
  cases h with
  | marker hms hbefore hm =>
    obtain ⟨frames, done, hframes, hread⟩ := nest_openAfter text hbefore
    rw [hms, hread]
    exact nest_fault hframes hm done _
  | @unclosed stack o kind ho hms =>
    obtain ⟨frames, done, hframes, hread⟩ := nest_openAfter text hms
    cases hframes with
    | @cons f _ frames _ hf _ =>
      have := hread []
      rw [List.append_nil] at this
      rw [this, nest, hf.kind_eq ho, hf.line]

theorem nest_of_nested {text : List Char} {ms : List Marker} (h : Nested ms) :
    ∃ controls, nest text [] [] ms = .ok controls ∧ Control.markersAll controls = ms ∧
      ∀ c ∈ Control.walkAll controls, c.IsRead text := by
  obtain ⟨controls, hmarkers, hisRead, hnest⟩ := nest_nested text h
  refine ⟨controls, ?_, hmarkers, hisRead⟩
  have := hnest [] [] []
  rw [List.append_nil] at this
  rw [this]; rfl

/-! ### Whole texts -/

theorem parse_of_nested {text : List Char} (h : Nested (Marker.scan text)) :
    ∃ t, parse text = .ok t ∧ t.text = text ∧ Control.markersAll t.controls = Marker.scan text ∧
      ∀ c ∈ t.walk, c.IsRead text := by
  obtain ⟨controls, hnest, hmarkers, hisRead⟩ := nest_of_nested h
  exact ⟨⟨text, controls⟩, by rw [parse, hnest], rfl, hmarkers, hisRead⟩

theorem parse_of_firstFault {text : List Char} {e : ParseError}
    (h : FirstFault text (Marker.scan text) e) : parse text = .error e := by
  rw [parse, nest_firstFault h]

theorem pairwise_byteOffset_of_markersAll {text : List Char} {controls : List Control}
    (h : Control.markersAll controls = Marker.scan text) :
    ((Control.walkAll controls).map fun c => Text.byteOffset text c.opening.sign).Pairwise
      (· < ·) := by
  have hsublist := Control.sublist_markersAll Marker.sign (fun _ _ => rfl) controls
  rw [h] at hsublist
  have hscan : ((Marker.scan text).map Marker.sign).Pairwise (· < ·) :=
    List.pairwise_map.mpr ((Marker.pairwise_scan text).imp And.right)
  have hwalk := List.pairwise_map.mp (hscan.sublist hsublist)
  refine List.pairwise_map.mpr (hwalk.imp_of_mem fun _ hd hlt => ?_)
  obtain ⟨m, hm, hsign⟩ := List.mem_map.mp (hsublist.subset (List.mem_map_of_mem hd))
  obtain ⟨family, hstands⟩ := Marker.mem_scan hm
  have hlt' := hstands.sign_lt
  have hle := hstands.stop_le
  exact Text.byteOffset_lt_byteOffset hlt (by omega)

/-- **Templates are the texts whose markers nest.** A text is a template if and only if its markers
are a bracket word. The controls, flattened, are then the markers, each once and in order; the walk
lists them by the offset of their at signs. A text that is no template is reported by the first
fault in the order of its markers. -/
theorem parse_eq_ok_iff_nested (text : List Char) :
    ((∃ t, parse text = .ok t) ↔ Nested (Marker.scan text)) ∧
    (∀ t, parse text = .ok t → t.text = text ∧ Control.markersAll t.controls = Marker.scan text ∧
      (∀ c ∈ t.walk, c.IsRead text) ∧
      (t.walk.map fun c => Text.byteOffset text c.opening.sign).Pairwise (· < ·)) ∧
    ∀ e, parse text = .error e ↔ FirstFault text (Marker.scan text) e := by
  rcases nested_or_firstFault text (Marker.scan text) with hnested | ⟨e, hfault⟩
  · obtain ⟨t, hparse, htext, hmarkers, hisRead⟩ := parse_of_nested hnested
    refine ⟨⟨fun _ => hnested, fun _ => ⟨t, hparse⟩⟩, ?_,
      fun e => ⟨fun h => ?_, parse_of_firstFault⟩⟩
    · intro t' ht'
      rw [hparse] at ht'
      cases ht'
      exact ⟨htext, hmarkers, hisRead, pairwise_byteOffset_of_markersAll hmarkers⟩
    · rw [hparse] at h; cases h
  · have hparse := parse_of_firstFault hfault
    refine ⟨⟨?_, fun hnested => ?_⟩, ?_, fun e' => ⟨fun h => ?_, parse_of_firstFault⟩⟩
    · rintro ⟨t, ht⟩; rw [hparse] at ht; cases ht
    · obtain ⟨t, ht, -⟩ := parse_of_nested hnested
      exact ⟨t, ht⟩
    · intro t ht; rw [hparse] at ht; cases ht
    · rw [hparse] at h; cases h; exact hfault

end Template

end LayerStencil
