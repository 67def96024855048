import LayerStencil.Proofs.Template.Nesting
import LayerStencil.Proofs.Template.Visit
import Mathlib.Data.List.Forall2
import Mathlib.Order.Monotone.Defs

/-! # The text between the markers

Visiting every control of a template once reads the text in stretches: those between the controls,
and in each control those between its opening marker, the controls in it and its closing marker. The
white space around a line form may belong to two markers, and then the bounds of the stretch between
them are inverted. Still no text is lost and none is read twice, as long as no at sign of a marker
lies inside another marker.

* `texts_of_expand`: an expansion in which every control keeps one item prints the stretches,
  filled.
* `Control.between_markersAll`: the stretches are what lies between the markers, taken in order.
* `Marker.pairwise_spans`: starts and ends of markers increase alike.
* `hasByte_between_iff`: then the stretches hold the bytes that no marker holds.
* `Template.stretches_partition`: what this says of a whole template. -/

namespace LayerStencil

/-- A part of a text from one position up to another. Nothing is in it if its bounds are
inverted. -/
structure Stretch where
  start : Nat
  stop : Nat
deriving DecidableEq, Repr

/-- Is the byte of a text with a given offset in the stretch? -/
def Stretch.HasByte (text : List Char) (g : Stretch) (b : Nat) : Prop :=
  Text.byteOffset text g.start ≤ b ∧ b < Text.byteOffset text g.stop

/-- The part of the text that a marker takes. -/
def Marker.span (m : Marker) : Stretch := ⟨m.start, m.stop⟩

/-- The at sign of the second marker does not lie inside the first one. -/
def Marker.Spares (m m' : Marker) : Prop := ¬ (m.start ≤ m'.sign ∧ m'.sign < m.stop)

instance (m m' : Marker) : Decidable (m.Spares m') := inferInstanceAs (Decidable (¬ _))

/-- The stretches lie between characters of the text, follow each other without overlap, and hold
exactly the bytes of the text that none of the markers holds. -/
structure Stretch.Partition (text : List Char) (markers : List Marker) (gs : List Stretch) :
    Prop where
  isValid : ∀ g ∈ gs,
    String.Pos.Raw.IsValid (String.ofList text) ⟨Text.byteOffset text g.start⟩ ∧
    String.Pos.Raw.IsValid (String.ofList text) ⟨Text.byteOffset text g.stop⟩
  ordered : gs.Pairwise fun g h => Text.byteOffset text g.stop ≤ Text.byteOffset text h.start
  hasByte_iff : ∀ b, (∃ g ∈ gs, g.HasByte text b) ↔
    b < Text.byteLength text ∧ ∀ m ∈ markers, ¬ m.span.HasByte text b

/-! ### The stretches of a template -/

mutual

/-- The stretches that a visit of a control reads, if it visits every control inside once. -/
def Control.stretches : Control → List Stretch
  | .node _ _ opening closing _ children =>
    Control.bodyStretches opening.stop closing.start children

/-- The stretches from `start` up to `stop` around and inside the controls there. -/
def Control.bodyStretches (start stop : Nat) : List Control → List Stretch
  | [] => [⟨start, stop⟩]
  | c :: cs => ⟨start, c.opening.start⟩ ::
      (c.stretches ++ Control.bodyStretches c.closing.stop stop cs)

end

/-- The stretches of a whole template. -/
def Template.stretches (t : Template) : List Stretch :=
  Control.bodyStretches 0 t.text.length t.controls

/-- The stretches between markers, from `start` up to `stop`. -/
def between (start stop : Nat) : List Marker → List Stretch
  | [] => [⟨start, stop⟩]
  | m :: ms => ⟨start, m.start⟩ :: between m.stop stop ms

theorem between_append (start stop : Nat) (ms : List Marker) (m : Marker) (ms' : List Marker) :
    between start stop (ms ++ m :: ms') = between start m.start ms ++ between m.stop stop ms' := by
  induction ms generalizing start with
  | nil => rfl
  | cons m₀ ms ih => simp only [List.cons_append, between, ih]

mutual

theorem Control.between_markers (start stop : Nat) (rest : List Marker) : ∀ c : Control,
    between start stop (c.markers ++ rest) =
      ⟨start, c.opening.start⟩ :: (c.stretches ++ between c.closing.stop stop rest)
  | .node kind condition opening closing line children => by
    have hinside := Control.between_markersAll opening.stop closing.start children
    rw [Control.markers, List.cons_append, List.append_assoc, List.singleton_append, between,
      between_append, hinside]
    rfl

/-- **The stretches are what lies between the markers.** -/
theorem Control.between_markersAll (start stop : Nat) : ∀ cs : List Control,
    between start stop (Control.markersAll cs) = Control.bodyStretches start stop cs
  | [] => rfl
  | c :: cs => by
    rw [Control.markersAll, Control.between_markers start stop _ c, Control.bodyStretches,
      Control.between_markersAll c.closing.stop stop cs]

end

/-! ### What an expansion reads -/

/-- The text of an event that prints text of the template. -/
def Event.text? : Event → Option (List Char)
  | text s => some s
  | _ => none

/-- The text is what a stretch becomes with the values of some scope. -/
def Stretch.Fills (text : List Char) (g : Stretch) (s : List Char) : Prop :=
  ∃ values, Template.fill text values g.start g.stop = .ok s

/-- Every visit of a control in the sequence of events has kept one item. -/
def Event.KeepOne (events : List Event) : Prop := ∀ t, Event.tally t ∈ events → t.emitted = 1

theorem Event.KeepOne.of_append {es fs : List Event} (h : Event.KeepOne (es ++ fs)) :
    Event.KeepOne es ∧ Event.KeepOne fs :=
  ⟨fun t ht => h t (List.mem_append_left _ ht), fun t ht => h t (List.mem_append_right _ ht)⟩

namespace Template

variable {m : Model} {text : List Char}

theorem filterMap_text?_guarded (guard : Option String) (events : List Event) :
    (guarded guard events).filterMap Event.text? = events.filterMap Event.text? := by
  cases guard with
  | none => rfl
  | some g =>
    show (.openGuard g :: (events ++ [.closeGuard g])).filterMap Event.text? = _
    rw [List.filterMap_cons_none rfl, List.filterMap_append]
    exact List.append_nil _

theorem keepOne_of_guarded {guard : Option String} {events : List Event}
    (h : Event.KeepOne (guarded guard events)) : Event.KeepOne events := by
  intro t ht
  refine h t ?_
  cases guard with
  | none => exact ht
  | some g => exact List.mem_cons_of_mem _ (List.mem_append_left _ ht)

theorem fills_of_fill {values : Values} {start stop : Nat} {s : List Char}
    (h : fill text values start stop = .ok s) : Stretch.Fills text ⟨start, stop⟩ s :=
  ⟨values, h⟩

mutual

theorem texts_of_expandControl (scope : Scope) : ∀ (c : Control) {events : List Event},
    expandControl m text scope c = .ok events → Event.KeepOne events →
      List.Forall₂ (Stretch.Fills text) c.stretches (events.filterMap Event.text?)
  | .node kind condition opening closing line children, events, h, hone => by
    -- If one item is kept, the events are those of this item.
    obtain ⟨items, n, visited, -, ⟨-, hvisited⟩, rfl⟩ :=
      exists_of_expandControl h (P := fun _ n es => (n = 0 → es = []) ∧
          (n = 1 → Event.KeepOne es →
            List.Forall₂ (Stretch.Fills text) (Control.bodyStretches opening.stop closing.start
              children) (es.filterMap Event.text?)))
        ⟨fun _ => rfl, nofun⟩ (fun _ _ _ _ _ hes => hes) (by
          intro item k n es body hbody ⟨hnone, _⟩
          refine ⟨nofun, fun hn honeBody => ?_⟩
          rw [hnone (Nat.succ.inj hn), List.append_nil] at honeBody ⊢
          rw [filterMap_text?_guarded]
          exact texts_of_expandBody _ _ _ _ children hbody (keepOne_of_guarded honeBody))
    obtain ⟨hinside, hself⟩ := hone.of_append
    rw [List.filterMap_append]
    show List.Forall₂ _ _ (_ ++ [])
    rw [List.append_nil]
    exact hvisited (hself _ (List.mem_singleton.mpr rfl)) hinside

/-- The texts of an expansion in which every control keeps one item. -/
theorem texts_of_expandBody (scope : Scope) (values : Values) (start stop : Nat) :
    ∀ (cs : List Control) {events : List Event},
      expandBody m text scope values start stop cs = .ok events → Event.KeepOne events →
        List.Forall₂ (Stretch.Fills text) (Control.bodyStretches start stop cs)
          (events.filterMap Event.text?)
  | [], events, h, _ => by
    obtain ⟨s, hs, rfl⟩ := exists_of_expandBody_nil h
    exact List.Forall₂.cons (fills_of_fill hs) List.Forall₂.nil
  | c :: cs, events, h, hone => by
    obtain ⟨s, here, rest, hs, hhere, hrest, rfl⟩ := exists_of_expandBody_cons h
    obtain ⟨honeHere, honeRest⟩ :=
      Event.KeepOne.of_append (fun t ht => hone t (List.mem_cons_of_mem _ ht))
    have hc := texts_of_expandControl scope c hhere honeHere
    have hcs := texts_of_expandBody scope values c.closing.stop stop cs hrest honeRest
    rw [List.filterMap_cons_some (show Event.text? (.text s) = some s from rfl),
      List.filterMap_append, Control.bodyStretches]
    exact List.Forall₂.cons (fills_of_fill hs) (List.rel_append hc hcs)

end

theorem texts_of_expand {t : Template} {events : List Event} (h : t.expand m = .ok events)
    (hone : Event.KeepOne events) :
    List.Forall₂ (Stretch.Fills t.text) t.stretches (events.filterMap Event.text?) :=
  texts_of_expandBody [] .empty 0 t.text.length t.controls h hone

end Template

/-! ### Spans in order -/

/-- **Starts and ends of markers increase alike** if no at sign lies inside another marker. -/
theorem Marker.pairwise_spans {text : List Char}
    (h : ∀ m ∈ Marker.scan text, ∀ m' ∈ Marker.scan text, m ≠ m' → m.Spares m') :
    (Marker.scan text).Pairwise fun m m' => m.start < m'.start ∧ m.stop < m'.stop := by
  refine (Marker.pairwise_scan text).imp_of_mem fun {m m'} hm hm' hlt => ⟨hlt.1, ?_⟩
  have hne : m ≠ m' := by rintro rfl; exact Nat.lt_irrefl _ hlt.1
  have hspares := h m hm m' hm' hne
  obtain ⟨_, hstands⟩ := Marker.mem_scan hm
  obtain ⟨_, hstands'⟩ := Marker.mem_scan hm'
  have hstart := hstands.start_le
  have hsign := hstands'.sign_lt
  unfold Marker.Spares at hspares
  omega

theorem monotone_byteOffset (cs : List Char) : Monotone (Text.byteOffset cs) := by
  intro i j hij
  have hsplit : cs.take i ++ (cs.take j).drop i = cs.take j := by
    conv_lhs => rw [← Nat.min_eq_left hij, ← List.take_take]
    rw [Nat.min_eq_left hij, List.take_append_drop]
  rw [Text.byteOffset, Text.byteOffset, ← hsplit, Text.byteLength_append]
  exact Nat.le_add_right _ _

/-- **Between the markers** are the bytes that no marker holds. -/
theorem hasByte_between_iff (text : List Char) (stop : Nat) (b : Nat) :
    ∀ (ms : List Marker) (start : Nat),
      (ms.Pairwise fun m m' => m.start < m'.start ∧ m.stop < m'.stop) →
      (∀ m ∈ ms, start ≤ m.stop ∧ m.start ≤ m.stop ∧ m.stop ≤ stop) →
        ((∃ g ∈ between start stop ms, g.HasByte text b) ↔
          Stretch.HasByte text ⟨start, stop⟩ b ∧ ∀ m ∈ ms, ¬ m.span.HasByte text b)
  | [], start, _, _ => by simp [between]
  | m :: ms, start, hpairwise, hbounds => by
    obtain ⟨hfirst, hrest⟩ := List.pairwise_cons.mp hpairwise
    obtain ⟨hstart, hm, hstop⟩ := hbounds m List.mem_cons_self
    have ih := hasByte_between_iff text stop b ms m.stop hrest fun m' hm' => by
      have := hbounds m' (List.mem_cons_of_mem _ hm')
      have := hfirst m' hm'
      omega
    have hmono := monotone_byteOffset text
    have h₁ := hmono hstart
    have h₂ := hmono hm
    have h₃ := hmono hstop
    rw [between, List.exists_mem_cons_iff, ih, List.forall_mem_cons]
    simp only [Stretch.HasByte, Marker.span]
    constructor
    · rintro (⟨hb, hb'⟩ | ⟨⟨hb, hb'⟩, hnone⟩)
      · refine ⟨⟨hb, by omega⟩, by omega, fun m' hm' => ?_⟩
        -- The byte is before `m`, and `m'` starts behind the start of `m`.
        have := hmono (Nat.le_of_lt (hfirst m' hm').1)
        omega
      · exact ⟨⟨by omega, hb'⟩, by omega, hnone⟩
    · rintro ⟨⟨hb, hb'⟩, hself, hnone⟩
      by_cases hbefore : b < Text.byteOffset text m.start
      · exact Or.inl ⟨hb, hbefore⟩
      · exact Or.inr ⟨⟨by omega, hb'⟩, hnone⟩

theorem pairwise_between (stop : Nat) : ∀ (ms : List Marker) (start : Nat),
    (ms.Pairwise fun m m' => m.start < m'.start ∧ m.stop < m'.stop) →
    (∀ m ∈ ms, m.start ≤ m.stop) →
      (between start stop ms).Pairwise (fun g h => g.stop ≤ h.start) ∧
        ∀ g ∈ between start stop ms, g.start = start ∨ ∃ m ∈ ms, g.start = m.stop
  | [], start, _, _ => by simp [between]
  | m :: ms, start, hpairwise, hbounds => by
    obtain ⟨hfirst, hrest⟩ := List.pairwise_cons.mp hpairwise
    have hm := hbounds m List.mem_cons_self
    obtain ⟨ih, ihstart⟩ := pairwise_between stop ms m.stop hrest fun m' hm' =>
      hbounds m' (List.mem_cons_of_mem _ hm')
    refine ⟨List.Pairwise.cons (fun g hg => ?_) ih, fun g hg => ?_⟩
    · rcases ihstart g hg with h | ⟨m', hm', h⟩
      · rw [h]; exact hm
      · have := hfirst m' hm'
        show m.start ≤ g.start
        omega
    · rcases List.mem_cons.mp hg with rfl | hg
      · exact Or.inl rfl
      · rcases ihstart g hg with h | ⟨m', hm', h⟩
        · exact Or.inr ⟨m, List.mem_cons_self, h⟩
        · exact Or.inr ⟨m', List.mem_cons_of_mem _ hm', h⟩

/-! ### Whole templates -/

theorem byteLength_eq_utf8ByteSize (cs : List Char) :
    Text.byteLength cs = (String.ofList cs).utf8ByteSize := by
  induction cs with
  | nil => rfl
  | cons c cs ih =>
    rw [Text.byteLength_cons, ih, ← List.singleton_append, String.ofList_append,
      String.utf8ByteSize_append, ← String.singleton_eq_ofList, String.utf8ByteSize_singleton]

theorem isValid_byteOffset (cs : List Char) (i : Nat) :
    String.Pos.Raw.IsValid (String.ofList cs) ⟨Text.byteOffset cs i⟩ :=
  String.Pos.Raw.isValid_ofList.mpr ⟨i, byteLength_eq_utf8ByteSize _⟩

/-- What is known of every marker: it takes some of the text, and no more than there is. -/
theorem Marker.bounds_of_mem_scan {text : List Char} {m : Marker} (h : m ∈ Marker.scan text) :
    m.start ≤ m.stop ∧ m.stop ≤ text.length := by
  obtain ⟨_, hstands⟩ := Marker.mem_scan h
  have := hstands.start_le
  have := hstands.sign_lt
  have := hstands.stop_le
  omega

namespace Template

theorem stretches_eq_between {text : List Char} {t : Template} (h : parse text = .ok t) :
    t.text = text ∧ t.stretches = between 0 text.length (Marker.scan text) := by
  rcases nested_or_firstFault text (Marker.scan text) with hnested | ⟨e, hfault⟩
  · obtain ⟨t', hparse, htext, hmarkers, -⟩ := parse_of_nested hnested
    obtain rfl : t = t' := by rw [h] at hparse; cases hparse; rfl
    refine ⟨htext, ?_⟩
    rw [stretches, htext, ← Control.between_markersAll, hmarkers]
  · rw [parse_of_firstFault hfault] at h; cases h

/-- **No text of a template is lost or read twice**, if no at sign of a marker lies inside another
marker. The stretches are what an expansion reads in which every control keeps one item, and they
partition the text outside the markers. -/
theorem stretches_partition {text : List Char} {t : Template} (hparse : parse text = .ok t)
    (hspares : ∀ m ∈ Marker.scan text, ∀ m' ∈ Marker.scan text, m ≠ m' → m.Spares m') :
    (∀ (m : Model) (events : List Event), t.expand m = .ok events → Event.KeepOne events →
      List.Forall₂ (Stretch.Fills text) t.stretches (events.filterMap Event.text?)) ∧
    Stretch.Partition text (Marker.scan text) t.stretches := by
  obtain ⟨htext, hstretches⟩ := stretches_eq_between hparse
  have hpairwise := Marker.pairwise_spans hspares
  refine ⟨fun m events hexpand hone => htext ▸ texts_of_expand hexpand hone,
    fun g _ => ⟨isValid_byteOffset text g.start, isValid_byteOffset text g.stop⟩, ?_, fun b => ?_⟩
  · rw [hstretches]
    have hbetween := pairwise_between text.length (Marker.scan text) 0 hpairwise
      fun m hm => (Marker.bounds_of_mem_scan hm).1
    exact hbetween.1.imp fun h => monotone_byteOffset text h
  · have hbounds : ∀ m ∈ Marker.scan text, 0 ≤ m.stop ∧ m.start ≤ m.stop ∧ m.stop ≤ text.length :=
      fun m hm => ⟨Nat.zero_le _, Marker.bounds_of_mem_scan hm⟩
    have hall : Stretch.HasByte text ⟨0, text.length⟩ b ↔ b < Text.byteLength text := by
      simp [Stretch.HasByte, Text.byteOffset]
    rw [hstretches, hasByte_between_iff text text.length b _ 0 hpairwise hbounds, hall]

/-- Two line forms whose white space overlaps: the blanks in front of the condition belong to both
markers, and the bounds of the stretch between them are inverted. -/
theorem stretches_partition_of_overlap : ∃ (text : List Char) (t : Template),
    parse text = .ok t ∧
    (∀ m ∈ Marker.scan text, ∀ m' ∈ Marker.scan text, m ≠ m' → m.Spares m') ∧
    t.stretches = [⟨0, 2⟩, ⟨19, 18⟩, ⟨31, 34⟩, ⟨42, 42⟩, ⟨54, 54⟩] ∧
    (∀ (m : Model) (events : List Event), t.expand m = .ok events → Event.KeepOne events →
      List.Forall₂ (Stretch.Fills text) t.stretches (events.filterMap Event.text?)) ∧
    Stretch.Partition text (Marker.scan text) t.stretches := by
  have hscan : Marker.scan
      "é\n@foreach struct\n\n  @if(True)\n x\n@end if\n@end struct\n".toList =
      [⟨2, 19, 2, .opens "struct" none⟩, ⟨18, 31, 21, .opens "if" (some "True".toList)⟩,
        ⟨34, 42, 34, .closes "if"⟩, ⟨42, 54, 42, .closes "struct"⟩] := by cbv
  have hparse : parse "é\n@foreach struct\n\n  @if(True)\n x\n@end if\n@end struct\n".toList =
      .ok ⟨"é\n@foreach struct\n\n  @if(True)\n x\n@end if\n@end struct\n".toList,
        [.node (.each .struct) none ⟨2, 19, 2, .opens "struct" none⟩
          ⟨42, 54, 42, .closes "struct"⟩ 2
          [.node .cond (some ⟨"True".toList, .literal (.bool true)⟩)
            ⟨18, 31, 21, .opens "if" (some "True".toList)⟩ ⟨34, 42, 34, .closes "if"⟩ 4 []]]⟩ := by
    cbv
  refine ⟨_, _, hparse, ?_, rfl, ?_⟩
  · rw [hscan]; decide
  · exact stretches_partition hparse (by rw [hscan]; decide)

end Template

end LayerStencil
