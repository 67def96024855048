import LayerStencil.Proofs.Template.Respacing

/-! # Scans in lockstep

Two texts `L ++ g ++ R` and `L ++ g' ++ R` that differ in one run of white space are scanned side by
side. In front of the gap the scans find the same markers at the same places; at the first character
behind the gap they find the same marker, which may begin at different line starts of the two gaps;
from then on they read the same text, at places that differ by the lengths of the gaps. What carries
the scans past the gap is how far each family has come: to the same place in front of it, to the
last line break of it, or equally far behind it (`SameStop`).

* `scanFrom_shifted`: what a scan finds in a text does not depend on the place of the text.
* `exists_scanFrom_beforeGap`, `exists_scanFrom_atGap`: the scans in front of the gap, and at it.
* `exists_lockstep`: the markers of both texts, in three parts that correspond. -/

namespace LayerStencil.Marker

/-! ### Behind the gap -/

/-- Two markers that say the same, one as far behind the place `n` as the other behind `n'`. -/
structure Shifted (n n' : Nat) (m m' : Marker) : Prop where
  mark : m.mark = m'.mark
  start : m.start + n' = m'.start + n
  sign : m.sign + n' = m'.sign + n
  stop : m.stop + n' = m'.stop + n

/-- Both families look from here on, or from the same place further on. -/
def ShiftedProgress (i i' : Nat) (p p' : Progress) : Prop :=
  ∀ family, p.of family ≤ i ∧ p'.of family ≤ i' ∨ p.of family + i' = p'.of family + i

theorem ShiftedProgress.succ {i i' : Nat} {p p' : Progress} (h : ShiftedProgress i i' p p') :
    ShiftedProgress (i + 1) (i' + 1) p p' := by
  intro family
  rcases h family with ⟨hp, hp'⟩ | hp
  · exact .inl ⟨by omega, by omega⟩
  · exact .inr (by omega)

theorem ShiftedProgress.advance {i i' : Nat} {p p' : Progress} (h : ShiftedProgress i i' p p')
    {stop stop' : Nat} (hstop : stop + i' = stop' + i) (family : Family) :
    ShiftedProgress i i' (p.advance stop family) (p'.advance stop' family) := by
  intro family'
  have hother := h family'
  cases family <;> cases family' <;> first | exact .inr hstop | exact hother

theorem marker?_shifted {i i' : Nat} {p p' : Progress} (h : ShiftedProgress i i' p p')
    (family : Family) (lineStart : Bool) (cs : List Char) :
    Option.Rel (Shifted i i') (p.marker? family lineStart i cs)
      (p'.marker? family lineStart i' cs) := by
  have hle : p.of family ≤ i ↔ p'.of family ≤ i' := by
    rcases h family with ⟨hp, hp'⟩ | hp <;> omega
  unfold Progress.marker? Family.marker?
  simp only [hle]
  split
  · have hshifted : ∀ mark x y z, Shifted i i' ⟨i + x, i + y, i + z, mark⟩
        ⟨i' + x, i' + y, i' + z, mark⟩ := fun _ _ _ _ =>
      ⟨rfl, by dsimp only; omega, by dsimp only; omega, by dsimp only; omega⟩
    generalize (if lineStart then family.line? (cs.dropWhile Text.isWhiteSpace) else none) = x
    cases x with
    | some read => exact .some (hshifted _ 0 _ _)
    | none =>
      cases family.inline? cs with
      | some read => exact .some (hshifted _ 0 _ 0)
      | none => exact .none
  · exact .none

theorem Shifted.of_eq {i i' n n' : Nat} {m m' : Marker} (h : Shifted i i' m m')
    (heq : i + n' = i' + n) : Shifted n n' m m' :=
  ⟨h.mark, by have := h.start; omega, by have := h.sign; omega, by have := h.stop; omega⟩

/-- **The scan of a text** does not depend on the place of the text. -/
theorem scanFrom_shifted : ∀ {cs : List Char} {p p' : Progress} {lineStart : Bool} {i i' : Nat},
    ShiftedProgress i i' p p' →
      List.Forall₂ (Shifted i i') (scanFrom p lineStart i cs) (scanFrom p' lineStart i' cs)
  | [], _, _, _, _, _, _ => .nil
  | c :: r, p, p', lineStart, i, i', h => by
    have hrest : ∀ {q q'}, ShiftedProgress i i' q q' → List.Forall₂ (Shifted i i')
        (scanFrom q (c = '\n') (i + 1) r) (scanFrom q' (c = '\n') (i' + 1) r) :=
      fun hq => (scanFrom_shifted hq.succ).imp fun _ _ hm => hm.of_eq (by omega)
    have hnext : Option.Rel
        (fun a a' => Shifted i i' a.1 a'.1 ∧ ShiftedProgress i i' a.2 a'.2)
        (p.next? lineStart i (c :: r)) (p'.next? lineStart i' (c :: r)) := by
      refine Option.rel_findSome? (fun family => ?_) _
      have hm := marker?_shifted h family lineStart (c :: r)
      generalize p.marker? family lineStart i (c :: r) = x at hm ⊢
      generalize p'.marker? family lineStart i' (c :: r) = x' at hm ⊢
      cases hm with
      | none => exact .none
      | some hm => exact .some ⟨hm, h.advance hm.stop family⟩
    rw [scanFrom, scanFrom]
    generalize p.next? lineStart i (c :: r) = x at hnext ⊢
    generalize p'.next? lineStart i' (c :: r) = x' at hnext ⊢
    cases hnext with
    | none => exact hrest h
    | some hm => exact .cons hm.1 (hrest hm.2)

/-! ### In front of the gap -/

variable {L R : List Char} {g g' : Gap}

/-- Markers end at the same place in front of the gap, at its last line break, or behind the first
character after it. -/
inductive SameStop (L R : List Char) (g g' : Gap) : Nat → Nat → Prop
  | left {k : Nat} (h : k ≤ L.length) : SameStop L R g g' k k
  | indent (h : g.lines ≠ []) (h' : g'.lines ≠ []) :
    SameStop L R g g' (L.length + g.lines.length) (L.length + g'.lines.length)
  | right {k : Nat} (h : 0 < k) (hat : ∃ c ∈ R.head?, c ≠ '@') :
    SameStop L R g g' (L.length + g.text.length + k) (L.length + g'.text.length + k)

/-- All families look on from the same places. -/
def SameProgress (L R : List Char) (g g' : Gap) (p p' : Progress) : Prop :=
  ∀ family, SameStop L R g g' (p.of family) (p'.of family)

/-- Two markers that say the same, at the same place in front of the gap. -/
structure BeforeGap (L R : List Char) (g g' : Gap) (m m' : Marker) : Prop where
  mark : m.mark = m'.mark
  start : m.start = m'.start
  start_le : m.start ≤ L.length
  sign : m.sign = m'.sign
  sign_lt : m.sign < L.length
  stop : SameStop L R g g' m.stop m'.stop

theorem Gap.length_lines_pos (h : g.lines ≠ []) : 0 < g.lines.length := List.length_pos_iff.mpr h

theorem Gap.length_text (g : Gap) : g.text.length = g.lines.length + g.indent.length :=
  List.length_append

/-- In front of the gap, the families have come equally far. -/
theorem SameStop.le_iff {k k' : Nat} (h : SameStop L R g g' k k') {j : Nat} (hj : j ≤ L.length) :
    k ≤ j ↔ k' ≤ j := by
  cases h with
  | left => rfl
  | indent h h' =>
    have := Gap.length_lines_pos h
    have := Gap.length_lines_pos h'
    omega
  | right => omega

theorem SameProgress.advance {p p' : Progress} (h : SameProgress L R g g' p p') {stop stop' : Nat}
    (hstop : SameStop L R g g' stop stop') (family : Family) :
    SameProgress L R g g' (p.advance stop family) (p'.advance stop' family) := by
  intro family'
  have hother := h family'
  cases family <;> cases family' <;> first | exact hstop | exact hother

/-- The places where a text ends that leaves matching ends. -/
theorem MatchingEnd.sameStop (hg : g.lines ≠ []) (hg' : g'.lines ≠ []) {rest rest' : List Char}
    (h : MatchingEnd g g' R rest rest') {X : List Char} {i : Nat} (hi : i + X.length = L.length)
    (hrest : rest.length ≤ (X ++ (g.text ++ R)).length) :
    SameStop L R g g' (i + ((X ++ (g.text ++ R)).length - rest.length))
      (i + ((X ++ (g'.text ++ R)).length - rest'.length)) := by
  simp only [List.length_append] at hrest ⊢
  cases h with
  | same h =>
    cases h with
    | @before Y hY =>
      simp only [List.length_append] at hrest ⊢
      have hstop : i + (X.length + (g.text.length + R.length) -
          (Y.length + (g.text.length + R.length))) = L.length - Y.length := by omega
      have hstop' : i + (X.length + (g'.text.length + R.length) -
          (Y.length + (g'.text.length + R.length))) = L.length - Y.length := by omega
      rw [hstop, hstop']
      exact .left (Nat.sub_le _ _)
    | after hsuffix hat =>
      obtain ⟨c, hc, hne⟩ := hat
      have hpos : 0 < R.length := by cases R with
        | nil => cases hc
        | cons d r => exact Nat.succ_pos _
      have hle := hsuffix.length_le
      rw [List.length_tail] at hle
      have hstop : ∀ n, i + (X.length + (n + R.length) - rest.length) =
          L.length + n + (R.length - rest.length) := fun n => by omega
      rw [hstop, hstop]
      exact .right (by omega) ⟨c, hc, hne⟩
  | indent =>
    rw [Gap.length_text, Gap.length_text]
    simp only [List.length_append]
    have hstop : ∀ n k, i + (X.length + (n + k + R.length) - (k + R.length)) = L.length + n :=
      fun n k => by omega
    rw [hstop, hstop]
    exact .indent hg hg'

section Before
variable (h : Respaced g g' R)
include h

/-- A family finds the same at an at sign in front of the gap. -/
theorem afterRun?_beforeGap {p p' : Progress} (hp : SameProgress L R g g' p p') (family : Family)
    (lineStart : Bool) {X s : List Char} (hX : Ended X) (hne : X ≠ []) {i : Nat}
    (hi : i + s.length + X.length = L.length) :
    Option.Rel (BeforeGap L R g g') (p.afterRun? family lineStart i s (X ++ (g.text ++ R)))
      (p'.afterRun? family lineStart i s (X ++ (g'.text ++ R))) := by
  have hpos : 0 < X.length := List.length_pos_iff.mpr hne
  have hstart : lineStart? (p.of family) lineStart i s = lineStart? (p'.of family) lineStart i s :=
    lineStart?_congr fun j _ hj => (hp family).le_iff (by omega)
  have hle : p.of family ≤ i + s.length ↔ p'.of family ≤ i + s.length :=
    (hp family).le_iff (by omega)
  have hline := h.line? family (.before hX)
  have hinline := h.inline? family (.before hX)
  have hlineEnd : ∀ read, family.line? (X ++ (g.text ++ R)) = some read →
      read.2.length ≤ (X ++ (g.text ++ R)).length :=
    fun _ hread => (Family.suffix_line? hread).length_le
  have hinlineEnd : ∀ read, family.inline? (X ++ (g.text ++ R)) = some read →
      read.2.length ≤ (X ++ (g.text ++ R)).length :=
    fun _ hread => (Family.suffix_inline? hread).length_le
  unfold Progress.afterRun?
  simp only [hstart, hle]
  generalize family.line? (X ++ (g.text ++ R)) = x at hline hlineEnd ⊢
  generalize family.line? (X ++ (g'.text ++ R)) = x' at hline ⊢
  generalize family.inline? (X ++ (g.text ++ R)) = y at hinline hinlineEnd ⊢
  generalize family.inline? (X ++ (g'.text ++ R)) = y' at hinline ⊢
  have hinside : Option.Rel (BeforeGap L R g g')
      (if p'.of family ≤ i + s.length then y.map fun read =>
        ⟨i + s.length, i + s.length + ((X ++ (g.text ++ R)).length - read.2.length), i + s.length,
          read.1⟩ else none)
      (if p'.of family ≤ i + s.length then y'.map fun read =>
        ⟨i + s.length, i + s.length + ((X ++ (g'.text ++ R)).length - read.2.length), i + s.length,
          read.1⟩ else none) := by
    split
    · cases hinline with
      | none => exact .none
      | some hread =>
        exact .some ⟨hread.1, rfl, by dsimp only; omega, rfl, by dsimp only; omega,
          hread.2.sameStop h.lines h.lines' hi (hinlineEnd _ rfl)⟩
    · exact .none
  cases hfound : lineStart? (p'.of family) lineStart i s with
  | none => exact hinside
  | some start =>
    have hbound := (lineStart?_bounds hfound).2.2
    cases hline with
    | none => exact hinside
    | some hread =>
      exact .some ⟨hread.1, rfl, by dsimp only; omega, rfl, by dsimp only; omega,
        hread.2.sameStop h.lines h.lines' hi (hlineEnd _ rfl)⟩

end Before

/-- What the next step finds in front of the gap. -/
structure NextBeforeGap (L R : List Char) (g g' : Gap) (p : Progress)
    (next next' : Marker × Progress) : Prop where
  marker : BeforeGap L R g g' next.1 next'.1
  progress : SameProgress L R g g' next.2 next'.2
  reach : ∀ family, L.length < next.2.of family → L.length < p.of family ∨ L.length < next.1.stop

theorem nextAfterRun?_beforeGap (h : Respaced g g' R) {p p' : Progress}
    (hp : SameProgress L R g g' p p') (lineStart : Bool) {X s : List Char} (hX : Ended X)
    (hne : X ≠ []) {i : Nat} (hi : i + s.length + X.length = L.length) :
    Option.Rel (NextBeforeGap L R g g' p) (p.nextAfterRun? lineStart i s (X ++ (g.text ++ R)))
      (p'.nextAfterRun? lineStart i s (X ++ (g'.text ++ R))) := by
  refine Option.rel_findSome? (fun family => ?_) _
  have hm := afterRun?_beforeGap h hp family lineStart hX hne hi
  generalize p.afterRun? family lineStart i s (X ++ (g.text ++ R)) = x at hm ⊢
  generalize p'.afterRun? family lineStart i s (X ++ (g'.text ++ R)) = x' at hm ⊢
  cases hm with
  | none => exact .none
  | some hm =>
    refine .some ⟨hm, hp.advance hm.stop family, fun family' hlt => ?_⟩
    cases family <;> cases family' <;> first | exact .inr hlt | exact .inl hlt

/-- A text that does not end with white space has a first character after white space. -/
theorem Ended.exists_run : ∀ {X : List Char}, Ended X → X ≠ [] →
    ∃ s d X', X = s ++ d :: X' ∧ Blank s ∧ ¬ Text.isWhiteSpace d
  | [], _, hne => absurd rfl hne
  | c :: X, hX, _ => by
    by_cases hc : Text.isWhiteSpace c
    · have hne : X ≠ [] := by rintro rfl; exact hX c rfl hc
      obtain ⟨s, d, X', rfl, hs, hd⟩ := hX.of_cons.exists_run hne
      exact ⟨c :: s, d, X', rfl, List.forall_mem_cons.mpr ⟨hc, hs⟩, hd⟩
    · exact ⟨[], c, X, rfl, List.forall_mem_nil _, hc⟩

/-- **In front of the gap**, both scans find the same. A family is beyond the gap only if it was so
at the beginning or has a marker that reaches there. -/
theorem exists_scanFrom_beforeGap (h : L ≠ [] → Respaced g g' R) {X : List Char} (hX : Ended X)
    {p p' : Progress} (hp : SameProgress L R g g' p p') (lineStart : Bool) {i : Nat}
    (hi : i + X.length = L.length) : ∃ pre pre' q q',
      scanFrom p lineStart i (X ++ (g.text ++ R)) =
        pre ++ scanFrom q (lineStart && X.isEmpty) L.length (g.text ++ R) ∧
      scanFrom p' lineStart i (X ++ (g'.text ++ R)) =
        pre' ++ scanFrom q' (lineStart && X.isEmpty) L.length (g'.text ++ R) ∧
      List.Forall₂ (BeforeGap L R g g') pre pre' ∧ SameProgress L R g g' q q' ∧
      ∀ family, L.length < q.of family →
        L.length < p.of family ∨ ∃ m ∈ pre, L.length < m.stop := by
  by_cases hne : X = []
  · subst hne
    obtain rfl : i = L.length := by simpa using hi
    exact ⟨[], [], p, p', by simp, by simp, .nil, hp, fun _ hlt => .inl hlt⟩
  · obtain ⟨s, d, X', rfl, hs, hd⟩ := hX.exists_run hne
    have hlen : i + s.length + (d :: X').length = L.length := by
      rw [List.length_append] at hi; omega
    have hX' : Ended (d :: X') := hX.of_suffix (List.suffix_append s _)
    have hL : L ≠ [] := by
      rintro rfl
      simp at hlen
    have hnext := nextAfterRun?_beforeGap (h hL) hp lineStart hX' (List.cons_ne_nil d X') hlen
    have hempty : (lineStart && (s ++ d :: X').isEmpty) = false := by simp
    -- Both scans pass the white space and the character behind it, and go on in front of the gap.
    have ih : ∀ {q q' : Progress}, SameProgress L R g g' q q' → _ := fun hq =>
      exists_scanFrom_beforeGap h hX'.of_cons hq false (i := i + s.length + 1)
        (by rw [List.length_cons] at hlen; omega)
    rw [List.append_assoc, List.append_assoc, List.cons_append, List.cons_append,
      scanFrom_run p hs hd, scanFrom_run p' hs hd, hempty]
    rw [List.cons_append, List.cons_append] at hnext
    generalize p.nextAfterRun? lineStart i s (d :: (X' ++ (g.text ++ R))) = x at hnext ⊢
    generalize p'.nextAfterRun? lineStart i s (d :: (X' ++ (g'.text ++ R))) = x' at hnext ⊢
    cases hnext with
    | none => exact ih hp
    | @some next next' hm =>
      obtain ⟨pre, pre', q, q', hscan, hscan', hpre, hq, hreach⟩ := ih hm.progress
      refine ⟨next.1 :: pre, next'.1 :: pre', q, q', ?_, ?_, .cons hm.marker hpre, hq, ?_⟩
      · exact congrArg (next.1 :: ·) hscan
      · exact congrArg (next'.1 :: ·) hscan'
      · intro family hlt
        rcases hreach family hlt with hlt | ⟨m, hmem, hlt⟩
        · rcases hm.reach family hlt with hlt | hlt
          · exact .inl hlt
          · exact .inr ⟨next.1, List.mem_cons_self, hlt⟩
        · exact .inr ⟨m, List.mem_cons_of_mem _ hmem, hlt⟩
termination_by X.length

/-! ### At the gap -/

/-- Where a marker may begin whose at sign is the first character behind the gap: at the first line
start of the gap, at the last one if a marker reaches there, or at its at sign if it has no line
form. -/
inductive SameStart (L R : List Char) (g g' : Gap) (reach : Prop) : Nat → Nat → Prop
  | first {k k' : Nat} (h : lineStart? 0 L.isEmpty L.length g.text = some k)
      (h' : lineStart? 0 L.isEmpty L.length g'.text = some k') : SameStart L R g g' reach k k'
  | last (h : reach) :
    SameStart L R g g' reach (L.length + g.lines.length) (L.length + g'.lines.length)
  | atSign {family : Family} (h : family.line? R = none) (h' : (family.inline? R).isSome) :
    SameStart L R g g' reach (L.length + g.text.length) (L.length + g'.text.length)

/-- Two markers that say the same, at the first character behind the gap. -/
structure AtGap (L R : List Char) (g g' : Gap) (reach : Prop) (m m' : Marker) : Prop where
  mark : m.mark = m'.mark
  sign : m.sign = L.length + g.text.length
  sign' : m'.sign = L.length + g'.text.length
  start : SameStart L R g g' reach m.start m'.start
  stop : m.stop + g'.text.length = m'.stop + g.text.length

theorem SameStop.shifted {k k' : Nat} (h : SameStop L R g g' k k') :
    k ≤ L.length + g.text.length ∧ k' ≤ L.length + g'.text.length ∨
      k + (L.length + g'.text.length) = k' + (L.length + g.text.length) := by
  have := g.length_text
  have := g'.length_text
  cases h with
  | left => exact .inl ⟨by omega, by omega⟩
  | indent => exact .inl ⟨by omega, by omega⟩
  | right => exact .inr (by omega)

/-- The line starts of the gap that a family may use: both gaps have one, or the family is beyond
both. -/
theorem lineStart?_atGap (hlines : L ≠ [] → g.lines ≠ []) (hlines' : L ≠ [] → g'.lines ≠ [])
    {reach : Prop} {k k' : Nat} (hk : SameStop L R g g' k k') (hreach : L.length < k → reach) :
    (∃ a a', lineStart? k L.isEmpty L.length g.text = some a ∧
      lineStart? k' L.isEmpty L.length g'.text = some a' ∧ SameStart L R g g' reach a a' ∧
      k ≤ L.length + g.text.length ∧ k' ≤ L.length + g'.text.length) ∨
    L.length + g.text.length < k ∧ L.length + g'.text.length < k' := by
  have hstarts : ∀ {g : Gap}, (L ≠ [] → g.lines ≠ []) →
      ∃ a, lineStart? 0 L.isEmpty L.length g.text = some a := by
    intro g hlines
    refine exists_lineStart? ?_
    by_cases hL : L = []
    · exact .inl (by simp [hL])
    · exact .inr (Gap.mem_text (hlines hL))
  cases hk with
  | left hle =>
    have hsame : ∀ g : Gap, lineStart? k L.isEmpty L.length g.text =
        lineStart? 0 L.isEmpty L.length g.text :=
      fun g => lineStart?_congr fun j hj _ => iff_of_true (by omega) (Nat.zero_le j)
    obtain ⟨a, ha⟩ := hstarts hlines
    obtain ⟨a', ha'⟩ := hstarts hlines'
    rw [hsame, hsame]
    exact .inl ⟨a, a', ha, ha', .first ha ha', by omega, by omega⟩
  | indent hne hne' =>
    have hpos := Gap.length_lines_pos hne
    refine .inl ⟨_, _, lineStart?_lines _ hne g.wholeLines _ _,
      lineStart?_lines _ hne' g'.wholeLines _ _, .last (hreach (by omega)), ?_, ?_⟩
    · rw [Gap.length_text]; omega
    · rw [Gap.length_text]; omega
  | right => exact .inr ⟨by omega, by omega⟩

/-- A family finds the same at the first character behind the gap. -/
theorem afterRun?_atGap (hlines : L ≠ [] → g.lines ≠ []) (hlines' : L ≠ [] → g'.lines ≠ [])
    {reach : Prop} {p p' : Progress} {family : Family}
    (hp : SameStop L R g g' (p.of family) (p'.of family))
    (hreach : L.length < p.of family → reach) :
    Option.Rel (AtGap L R g g' reach) (p.afterRun? family L.isEmpty L.length g.text R)
      (p'.afterRun? family L.isEmpty L.length g'.text R) := by
  have hstop : ∀ k, L.length + g.text.length + k + g'.text.length =
      L.length + g'.text.length + k + g.text.length := fun k => by omega
  unfold Progress.afterRun?
  rcases lineStart?_atGap hlines hlines' hp hreach with ⟨a, a', ha, ha', hstart, hle, hle'⟩ |
    ⟨hlt, hlt'⟩
  · rw [ha, ha', if_pos hle, if_pos hle']
    cases hline : family.line? R with
    | some read => exact .some ⟨rfl, rfl, rfl, hstart, hstop _⟩
    | none =>
      cases hinline : family.inline? R with
      | none => exact .none
      | some read => exact .some ⟨rfl, rfl, rfl, .atSign hline (by rw [hinline]; rfl), hstop _⟩
  · rw [lineStart?_eq_none hlt, lineStart?_eq_none hlt', if_neg (by omega), if_neg (by omega)]
    exact .none

/-- **At the gap and behind it**, both scans find the same. -/
theorem exists_scanFrom_atGap (hlines : L ≠ [] → g.lines ≠ []) (hlines' : L ≠ [] → g'.lines ≠ [])
    (hR : ∀ c ∈ R.head?, ¬ Text.isWhiteSpace c) {reach : Prop} {p p' : Progress}
    (hp : SameProgress L R g g' p p') (hreach : ∀ family, L.length < p.of family → reach) :
    ∃ head head' post post',
      scanFrom p L.isEmpty L.length (g.text ++ R) = head.toList ++ post ∧
      scanFrom p' L.isEmpty L.length (g'.text ++ R) = head'.toList ++ post' ∧
      Option.Rel (AtGap L R g g' reach) head head' ∧
      List.Forall₂ (Shifted g.text.length g'.text.length) post post' ∧
      ∀ m ∈ post, L.length + g.text.length < m.start := by
  cases R with
  | nil =>
    refine ⟨none, none, [], [], ?_, ?_, .none, .nil, List.forall_mem_nil _⟩ <;>
      rw [List.append_nil]
    · exact scanFrom_blank p g.blank_text _ _
    · exact scanFrom_blank p' g'.blank_text _ _
  | cons d t =>
    have hd : ¬ Text.isWhiteSpace d := hR d rfl
    have hshift : ShiftedProgress (L.length + g.text.length) (L.length + g'.text.length) p p' :=
      fun family => (hp family).shifted
    have hnext : Option.Rel
        (fun a a' => AtGap L (d :: t) g g' reach a.1 a'.1 ∧
          ShiftedProgress (L.length + g.text.length) (L.length + g'.text.length) a.2 a'.2)
        (p.nextAfterRun? L.isEmpty L.length g.text (d :: t))
        (p'.nextAfterRun? L.isEmpty L.length g'.text (d :: t)) := by
      refine Option.rel_findSome? (fun family => ?_) _
      have hm := afterRun?_atGap hlines hlines' (hp family) (hreach family)
      generalize p.afterRun? family L.isEmpty L.length g.text (d :: t) = x at hm ⊢
      generalize p'.afterRun? family L.isEmpty L.length g'.text (d :: t) = x' at hm ⊢
      cases hm with
      | none => exact .none
      | some hm =>
        have := hm.stop
        exact .some ⟨hm, hshift.advance (by omega) family⟩
    -- Behind the first character, both scans read the same text at different places.
    have hpost : ∀ {q q'}, ShiftedProgress (L.length + g.text.length) (L.length + g'.text.length)
        q q' → List.Forall₂ (Shifted g.text.length g'.text.length)
          (scanFrom q false (L.length + g.text.length + 1) t)
          (scanFrom q' false (L.length + g'.text.length + 1) t) :=
      fun hq => (scanFrom_shifted hq.succ).imp fun _ _ hm => hm.of_eq (by omega)
    have hstart : ∀ q, ∀ m ∈ scanFrom q false (L.length + g.text.length + 1) t,
        L.length + g.text.length < m.start := by
      intro q m hm
      have hdrop : (L ++ (g.text ++ d :: t)).drop (L.length + g.text.length + 1) = t := by
        simp [← List.drop_drop]
      obtain ⟨_, -, hle, -⟩ := mem_scanFrom hdrop hm
      exact hle
    rw [scanFrom_run p g.blank_text hd, scanFrom_run p' g'.blank_text hd]
    generalize p.nextAfterRun? L.isEmpty L.length g.text (d :: t) = x at hnext ⊢
    generalize p'.nextAfterRun? L.isEmpty L.length g'.text (d :: t) = x' at hnext ⊢
    cases hnext with
    | none => exact ⟨none, none, _, _, rfl, rfl, .none, hpost hshift, hstart _⟩
    | @some next next' hm =>
      exact ⟨some next.1, some next'.1, _, _, rfl, rfl, .some hm.1, hpost hm.2, hstart _⟩

/-! ### Whole texts -/

/-- The markers of two texts with different gaps: those in front of the gap, that at the first
character behind it, and those further on. -/
structure Lockstep (L R : List Char) (g g' : Gap) (pre pre' : List Marker)
    (head head' : Option Marker) (post post' : List Marker) : Prop where
  scan : scan (L ++ (g.text ++ R)) = pre ++ (head.toList ++ post)
  scan' : Marker.scan (L ++ (g'.text ++ R)) = pre' ++ (head'.toList ++ post')
  before : List.Forall₂ (BeforeGap L R g g') pre pre'
  atGap : Option.Rel (AtGap L R g g' (∃ m ∈ pre, L.length < m.stop)) head head'
  behind : List.Forall₂ (Shifted g.text.length g'.text.length) post post'
  start_lt : ∀ m ∈ post, L.length + g.text.length < m.start

/-- **Two texts that differ in a run of white space** have the same markers. -/
theorem exists_lockstep {L R : List Char} (g g' : Gap) (hL : Ended L)
    (hR : ∀ c ∈ R.head?, ¬ Text.isWhiteSpace c) (hlines : L ≠ [] → g.lines ≠ [])
    (hlines' : L ≠ [] → g'.lines ≠ []) :
    ∃ pre pre' head head' post post', Lockstep L R g g' pre pre' head head' post post' := by
  have hrespaced : L ≠ [] → Respaced g g' R := fun hne => ⟨hlines hne, hlines' hne, hR⟩
  have hp : SameProgress L R g g' ⟨0, 0, 0⟩ ⟨0, 0, 0⟩ := by
    rintro (_ | _ | _) <;> exact .left (Nat.zero_le _)
  obtain ⟨pre, pre', q, q', hscan, hscan', hpre, hq, hreach⟩ :=
    exists_scanFrom_beforeGap hrespaced hL hp true (Nat.zero_add _)
  have hreach' : ∀ family, L.length < q.of family → ∃ m ∈ pre, L.length < m.stop := by
    intro family hlt
    refine (hreach family hlt).resolve_left ?_
    cases family <;> exact Nat.not_lt_zero _
  obtain ⟨head, head', post, post', hgap, hgap', hhead, hpost, hstart⟩ :=
    exists_scanFrom_atGap hlines hlines' hR hq hreach'
  rw [Bool.true_and] at hscan hscan'
  exact ⟨pre, pre', head, head', post, post', by rw [Marker.scan, hscan, hgap],
    by rw [Marker.scan, hscan', hgap'], hpre, hhead, hpost, hstart⟩

end LayerStencil.Marker
