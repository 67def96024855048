import LayerStencil.Proofs.Template.Lockstep
import LayerStencil.Proofs.Template.SameContent

/-! # The text between markers in lockstep

If the white space between two parts of a text is replaced, the markers say the same, and between
them is the same text unless a stretch reaches over the white space. No stretch does where the white
space stands at a line form that holds no at sign of another marker: in front of it the stretch ends
in the white space, or in a marker that takes the white space; behind it the stretch begins there.

* `slices_between`: the text between markers whose bounds correspond.
* `Lockstep.marks`: the markers of both texts say the same.
* `sameContent_indent`: white space in front of a line form.
* `sameContent_trail`: white space behind a line form. -/

namespace LayerStencil

/-! ### The text between markers -/

/-- Places in two texts, the same number of characters behind the parts `A` and `A'`. -/
def Behind (A A' : List Char) (x x' : Nat) : Prop :=
  A.length ≤ x ∧ x + A'.length = x' + A.length

theorem Behind.slice {A A' : List Char} {x x' y y' : Nat} (hx : Behind A A' x x')
    (hy : Behind A A' y y') (B : List Char) :
    Text.slice (A ++ B) x y = Text.slice (A' ++ B) x' y' := by
  obtain ⟨hx, hx'⟩ := hx
  obtain ⟨hy, hy'⟩ := hy
  obtain ⟨i, rfl⟩ := Nat.exists_eq_add_of_le hx
  obtain ⟨j, rfl⟩ := Nat.exists_eq_add_of_le hy
  obtain rfl : x' = A'.length + i := by omega
  obtain rfl : y' = A'.length + j := by omega
  rw [Text.slice_append_right, Text.slice_append_right]

/-- Markers that stop and start at corresponding places have the same text between them. -/
theorem slices_between {text text' : List Char} {Stop Start : Nat → Nat → Prop}
    (h : ∀ x x' y y', Stop x x' → Start y y' → Text.slice text x y = Text.slice text' x' y') :
    ∀ {ms ms' : List Marker},
      List.Forall₂ (fun m m' => Start m.start m'.start ∧ Stop m.stop m'.stop) ms ms' →
        ∀ {x x' y y' : Nat}, Stop x x' → Start y y' →
          (between x y ms).map (Stretch.slice text) = (between x' y' ms').map (Stretch.slice text')
  | [], [], _, _, _, _, _, hx, hy => congrArg (fun s => [s]) (h _ _ _ _ hx hy)
  | m :: ms, m' :: ms', .cons hm hms, x, x', y, y', hx, hy => by
    rw [between, between, List.map_cons, List.map_cons, slices_between h hms hm.2 hy]
    exact congrArg (· :: _) (h _ _ _ _ hx hm.1)

namespace Marker

theorem Ended.append_left {s : List Char} (h : Ended s) (t : List Char) (hne : s ≠ []) :
    Ended (t ++ s) := by
  have hlast := List.getLast?_eq_some_getLast hne
  intro c hc
  rw [List.getLast?_append, hlast] at hc
  exact h c (hlast ▸ hc)

/-! ### Markers in lockstep -/

namespace Lockstep

variable {L R : List Char} {g g' : Gap} {pre pre' post post' : List Marker}
  {head head' : Option Marker} (h : Lockstep L R g g' pre pre' head head' post post')
include h

theorem exists_before : ∀ m ∈ pre, ∃ m' ∈ pre', BeforeGap L R g g' m m' :=
  exists_mem_of_forall₂ (r := flip (BeforeGap L R g g')) (List.Forall₂.flip h.before)

theorem sign_lt : ∀ m ∈ pre, m.sign < L.length := by
  intro m hm
  obtain ⟨m', -, hmm⟩ := h.exists_before m hm
  exact hmm.sign_lt

/-- A marker with its at sign in front of the gap is found there. -/
theorem mem_pre {m : Marker} (hm : m ∈ Marker.scan (L ++ (g.text ++ R)))
    (hsign : m.sign < L.length) : m ∈ pre := by
  obtain ⟨_, hstands⟩ := mem_scan hm
  have hstart := hstands.start_le
  rw [h.scan] at hm
  rcases List.mem_append.mp hm with hm | hm
  · exact hm
  · rcases List.mem_append.mp hm with hm | hm
    · have hgap := h.atGap
      rw [Option.mem_toList.mp hm] at hgap
      cases hgap with
      | some hgap => have := hgap.sign; omega
    · have := h.start_lt m hm
      omega

/-- A marker in front of the gap, behind which no other one has its at sign there, is the last
one. -/
theorem exists_concat {m : Marker} (hm : m ∈ pre)
    (hlast : ∀ a ∈ Marker.scan (L ++ (g.text ++ R)), m.sign < a.sign → L.length ≤ a.sign) :
    ∃ s s' m', pre = s ++ [m] ∧ pre' = s' ++ [m'] ∧ List.Forall₂ (BeforeGap L R g g') s s' ∧
      BeforeGap L R g g' m m' := by
  obtain ⟨s, t, rfl⟩ := List.append_of_mem hm
  have ht : t = [] := by
    cases t with
    | nil => rfl
    | cons a t =>
      have hpairwise := pairwise_scan (L ++ (g.text ++ R))
      rw [h.scan] at hpairwise
      have hlt : m.sign < a.sign := by
        have hpre := (List.pairwise_append.mp hpairwise).1
        exact (List.pairwise_cons.mp (List.pairwise_append.mp hpre).2.1).1 a List.mem_cons_self |>.2
      have hmem : a ∈ s ++ m :: a :: t := by simp
      have := h.sign_lt a hmem
      have := hlast a (by rw [h.scan]; exact List.mem_append_left _ hmem) hlt
      omega
  subst ht
  have hbefore := h.before
  obtain ⟨s', m', rfl, hs, hmm⟩ := exists_of_forall₂_concat hbefore
  exact ⟨s, s', m', rfl, rfl, hs, hmm⟩

omit h in
/-- In front of the gap, the same text is between the markers, up to a place in the part that both
texts begin with. -/
theorem slices_before {s s' : List Marker} (hs : List.Forall₂ (BeforeGap L R g g') s s')
    {T k k' : List Char} (htext : L ++ (g.text ++ R) = T ++ k)
    (htext' : L ++ (g'.text ++ R) = T ++ k') (hL : L.length ≤ T.length)
    (hT : T.length ≤ L.length + g.lines.length) (hT' : T.length ≤ L.length + g'.lines.length)
    {y : Nat} (hy : y ≤ T.length) :
    (between 0 y s).map (Stretch.slice (L ++ (g.text ++ R))) =
      (between 0 y s').map (Stretch.slice (L ++ (g'.text ++ R))) := by
  have := g.length_text
  have := g'.length_text
  refine @slices_between _ _ (SameStop L R g g') (fun y y' => y = y' ∧ y ≤ T.length) ?_ _ _
    (hs.imp fun _ _ hm => ⟨⟨hm.start, hm.start_le.trans hL⟩, hm.stop⟩) _ _ _ _
    (.left (Nat.zero_le _)) ⟨rfl, hy⟩
  rintro x x' y _ hx ⟨rfl, hy⟩
  cases hx with
  | left => rw [htext, htext', Text.slice_append_left _ hy, Text.slice_append_left _ hy]
  | indent => rw [Text.slice_eq_nil _ (by omega), Text.slice_eq_nil _ (by omega)]
  | right => rw [Text.slice_eq_nil _ (by omega), Text.slice_eq_nil _ (by omega)]

/-- The markers of both texts say the same. -/
theorem marks : (Marker.scan (L ++ (g.text ++ R))).map Marker.mark =
    (Marker.scan (L ++ (g'.text ++ R))).map Marker.mark := by
  have hbefore : pre.map Marker.mark = pre'.map Marker.mark :=
    map_eq_of_forall₂ h.before fun _ _ hm => hm.mark
  have hbehind : post.map Marker.mark = post'.map Marker.mark :=
    map_eq_of_forall₂ h.behind fun _ _ hm => hm.mark
  have hgap : head.toList.map Marker.mark = head'.toList.map Marker.mark := by
    cases h.atGap with
    | none => rfl
    | some hm => simp [hm.mark]
  rw [h.scan, h.scan']
  simp only [List.map_append, hbefore, hbehind, hgap]

/-- Behind the gap, the markers are at corresponding places. -/
theorem behind_post (A A' : List Char) (hA : A.length ≤ L.length + g.text.length)
    (hA' : A.length + g'.text.length = A'.length + g.text.length) :
    List.Forall₂ (fun m m' => Behind A A' m.start m'.start ∧ Behind A A' m.stop m'.stop)
      post post' := by
  have hstop : ∀ m ∈ post, L.length + g.text.length < m.start ∧ m.start < m.stop := by
    intro m hm
    have hmem : m ∈ Marker.scan (L ++ (g.text ++ R)) := by
      rw [h.scan]; exact List.mem_append_right _ (List.mem_append_right _ hm)
    obtain ⟨_, hstands⟩ := mem_scan hmem
    have := hstands.start_le
    have := hstands.sign_lt
    exact ⟨h.start_lt m hm, by omega⟩
  refine ((List.forall₂_and_left _ _).mpr ⟨hstop, h.behind⟩).imp fun m m' hm => ?_
  obtain ⟨⟨hstart, hlt⟩, hshift⟩ := hm
  have := hshift.start
  have := hshift.stop
  exact ⟨⟨by omega, by omega⟩, by omega, by omega⟩

/-- The marker with its at sign at the first character behind the gap. -/
theorem head_eq {m : Marker} (hm : m ∈ Marker.scan (L ++ (g.text ++ R)))
    (hsign : m.sign = L.length + g.text.length) : head = some m := by
  obtain ⟨_, hstands⟩ := mem_scan hm
  have hstart := hstands.start_le
  rw [h.scan] at hm
  rcases List.mem_append.mp hm with hm | hm
  · have := h.sign_lt m hm
    omega
  · rcases List.mem_append.mp hm with hm | hm
    · exact Option.mem_toList.mp hm
    · have := h.start_lt m hm
      omega

omit h in
/-- Up to a place inside the last marker in front of the gap, the same text is between the
markers. -/
theorem slices_concat {s s' : List Marker} {m m' : Marker}
    (hs : List.Forall₂ (BeforeGap L R g g') s s') (hm : BeforeGap L R g g' m m') {y y' : Nat}
    (hy : y ≤ m.stop) (hy' : y' ≤ m'.stop) :
    (between 0 y (s ++ [m])).map (Stretch.slice (L ++ (g.text ++ R))) =
      (between 0 y' (s' ++ [m'])).map (Stretch.slice (L ++ (g'.text ++ R))) := by
  have hbefore := slices_before hs (T := L) rfl rfl (Nat.le_refl _) (Nat.le_add_right _ _)
    (Nat.le_add_right _ _) hm.start_le
  have hlast : Stretch.slice (L ++ (g.text ++ R)) ⟨m.stop, y⟩ =
      Stretch.slice (L ++ (g'.text ++ R)) ⟨m'.stop, y'⟩ := by
    rw [Stretch.slice, Stretch.slice, Text.slice_eq_nil _ hy, Text.slice_eq_nil _ hy']
  rw [between_append, between_append, List.map_append, List.map_append, hbefore, hm.start]
  exact congrArg (_ ++ [·]) hlast

end Lockstep

/-! ### White space in front of a marker -/

/-- White space, split behind its last line break. -/
theorem exists_lines : ∀ {s : List Char}, Blank s → ∃ b e, s = b ++ e ∧ WholeLines b ∧ '\n' ∉ e
  | [], _ => ⟨[], [], rfl, wholeLines_nil, List.not_mem_nil⟩
  | c :: s, hs => by
    obtain ⟨b, e, rfl, hb, he⟩ := exists_lines fun d hd => hs d (List.mem_cons_of_mem c hd)
    by_cases hsame : b = [] ∧ c ≠ '\n'
    · obtain ⟨rfl, hc⟩ := hsame
      exact ⟨[], c :: e, rfl, wholeLines_nil, by simp [Ne.symm hc, he]⟩
    · refine ⟨c :: b, e, rfl, ?_, he⟩
      cases b with
      | nil =>
        obtain rfl : c = '\n' := by simpa using hsame
        exact WholeLines.append_line [] wholeLines_nil
      | cons d b =>
        intro a ha
        rw [List.getLast?_cons_cons] at ha
        exact hb a ha

/-- Whole lines of white space and more white space. -/
def Gap.ofLines {u b e : List Char} (hu : Blank u) (hlines : WholeLines u) (hbe : Blank (b ++ e))
    (hb : WholeLines b) (he : '\n' ∉ e) : Gap where
  lines := u ++ b
  indent := e
  blank := by
    rw [List.append_assoc]
    exact fun c hc => (List.mem_append.mp hc).elim (hu c) (hbe c)
  wholeLines := hlines.append hb
  noBreak := he

/-- Whole lines end with white space, or nothing is there. -/
theorem exists_ended {T : List Char} (hT : WholeLines T) :
    ∃ L u, T = L ++ u ∧ Ended L ∧ Blank u ∧ WholeLines u ∧ (L ≠ [] → u ≠ []) := by
  have hsplit : T.rdropWhile Text.isWhiteSpace ++ T.rtakeWhile Text.isWhiteSpace = T :=
    List.rdropWhile_append_rtakeWhile
  have hended : Ended (T.rdropWhile Text.isWhiteSpace) := Text.not_getLast_rdropWhile _ T
  refine ⟨T.rdropWhile Text.isWhiteSpace, T.rtakeWhile Text.isWhiteSpace, hsplit.symm, hended,
    fun c hc => List.mem_rtakeWhile_imp hc, hT.of_suffix (List.rtakeWhile_suffix _ T),
    fun hne hnil => ?_⟩
  -- The last character of the lines would be a line break outside the white space.
  rw [hnil, List.append_nil] at hsplit
  rw [hsplit] at hended hne
  have hlast := List.getLast?_eq_some_getLast hne
  refine hended _ hlast ?_
  rw [hT _ hlast]
  decide

/-- At the first line start of whole lines, whatever white space follows. -/
theorem exists_firstLine {L u : List Char} (hu : L ≠ [] → u ≠ []) (hlines : WholeLines u) :
    ∃ a, a ≤ L.length + u.length ∧ ∀ k, lineStart? 0 L.isEmpty L.length (u ++ k) = some a := by
  have hstart : L.isEmpty ∨ '\n' ∈ u := by
    by_cases hL : L = []
    · exact .inl (by simp [hL])
    · have hlast := List.getLast?_eq_some_getLast (hu hL)
      exact .inr (hlines _ hlast ▸ List.getLast_mem (hu hL))
  obtain ⟨a, ha⟩ := exists_lineStart? (i := L.length) hstart
  exact ⟨a, (lineStart?_bounds ha).2.2, fun k => lineStart?_append k ha⟩

/-- The marker holds no at sign of a later one. -/
def HoldsNone (text : List Char) (m : Marker) : Prop :=
  ∀ m' ∈ scan text, m.sign < m'.sign → m.stop ≤ m'.sign

section Front
variable {L u b b' t : List Char} {g g' : Gap} {pre pre' post post' : List Marker} {m m' : Marker}
  (h : Lockstep L ('@' :: t) g g' pre pre' (some m) (some m') post post')
include h

/-- If a marker in front of the gap reaches into it, it is the last one there. -/
theorem Lockstep.slices_front_reach
    (hnone : ∀ a ∈ Marker.scan (L ++ (g.text ++ '@' :: t)), a.stop = L.length + g.lines.length →
      HoldsNone (L ++ (g.text ++ '@' :: t)) a)
    (hreach : ∃ a ∈ pre, L.length < a.stop) :
    (between 0 (L.length + g.lines.length) pre).map (Stretch.slice (L ++ (g.text ++ '@' :: t))) =
      (between 0 (L.length + g'.lines.length) pre').map
        (Stretch.slice (L ++ (g'.text ++ '@' :: t))) := by
  obtain ⟨a, ha, hlt⟩ := hreach
  have hmem : a ∈ Marker.scan (L ++ (g.text ++ '@' :: t)) := by
    rw [h.scan]; exact List.mem_append_left _ ha
  have hstop : ∀ a', BeforeGap L ('@' :: t) g g' a a' → a.stop = L.length + g.lines.length ∧
      a'.stop = L.length + g'.lines.length := by
    intro a' haa
    have hsame := haa.stop
    generalize a.stop = x at hsame hlt ⊢
    generalize a'.stop = x' at hsame ⊢
    cases hsame with
    | left hle => omega
    | indent => exact ⟨rfl, rfl⟩
    | right _ hat =>
      obtain ⟨c, ⟨⟩, hc⟩ := hat
      exact absurd rfl hc
  have hfree : HoldsNone (L ++ (g.text ++ '@' :: t)) a := by
    obtain ⟨a', -, haa⟩ := h.exists_before a ha
    exact hnone a hmem (hstop a' haa).1
  obtain ⟨s, s', a', rfl, rfl, hs, haa⟩ := h.exists_concat ha fun c hc hsign =>
    Nat.le_trans (Nat.le_of_lt hlt) (hfree c hc hsign)
  obtain ⟨hx, hx'⟩ := hstop a' haa
  exact Lockstep.slices_concat hs haa (Nat.le_of_eq hx.symm) (Nat.le_of_eq hx'.symm)

/-- In front of a line form, the same text is between the markers, although the line form may begin
with another line. -/
theorem Lockstep.slices_front (hu : L ≠ [] → u ≠ []) (hlines : WholeLines u)
    (hg : g.lines = u ++ b) (hg' : g'.lines = u ++ b') {family : Family} {read : Mark × List Char}
    (hline : family.line? ('@' :: t) = some read)
    (hnone : ∀ a ∈ Marker.scan (L ++ (g.text ++ '@' :: t)), a.stop = m.start →
      HoldsNone (L ++ (g.text ++ '@' :: t)) a) :
    (between 0 m.start pre).map (Stretch.slice (L ++ (g.text ++ '@' :: t))) =
      (between 0 m'.start pre').map (Stretch.slice (L ++ (g'.text ++ '@' :: t))) := by
  obtain ⟨a, ha, hfirst⟩ := exists_firstLine hu hlines
  obtain ⟨mark, rest⟩ := read
  have hgap := h.atGap
  cases hgap with
  | some hgap =>
    have hstart := hgap.start
    generalize m.start = x at hstart hnone ⊢
    generalize m'.start = x' at hstart ⊢
    cases hstart with
    | first hx hx' =>
      rw [Gap.text, hg, List.append_assoc, hfirst] at hx
      rw [Gap.text, hg', List.append_assoc, hfirst] at hx'
      obtain rfl := Option.some.inj hx
      obtain rfl := Option.some.inj hx'
      have htext : ∀ g : Gap, ∀ b, g.lines = u ++ b → L ++ (g.text ++ '@' :: t) =
          (L ++ u) ++ (b ++ (g.indent ++ '@' :: t)) := by
        intro g b hg
        rw [Gap.text, hg]
        simp only [List.append_assoc]
      refine slices_before h.before (htext g b hg) (htext g' b' hg') ?_ ?_ ?_ ?_ <;>
        simp only [List.length_append, hg, hg'] <;> omega
    | last hreach => exact h.slices_front_reach hnone hreach
    | @atSign family' hnoLine hinline =>
      -- The at sign belongs to one family, which has a line form there.
      obtain ⟨⟨mark', rest'⟩, hread⟩ := Option.isSome_iff_exists.mp hinline
      obtain ⟨r, hr, -⟩ := Family.lead_inline? hread
      obtain ⟨r', hr', -⟩ := Family.lead_line? hline
      rw [Family.eq_of_lead (hr'.symm.trans hr)] at hline
      rw [hnoLine] at hline
      cases hline

/-- Behind a line form, the same text is between the markers. -/
theorem Lockstep.slices_behind : (between m.stop (L ++ (g.text ++ '@' :: t)).length post).map
      (Stretch.slice (L ++ (g.text ++ '@' :: t))) =
    (between m'.stop (L ++ (g'.text ++ '@' :: t)).length post').map
      (Stretch.slice (L ++ (g'.text ++ '@' :: t))) := by
  have hpost := h.behind_post (L ++ g.text) (L ++ g'.text)
    (by rw [List.length_append]) (by rw [List.length_append, List.length_append]; omega)
  have hmem : m ∈ Marker.scan (L ++ (g.text ++ '@' :: t)) := by
    rw [h.scan]; simp
  obtain ⟨_, hstands⟩ := mem_scan hmem
  have hlt := hstands.sign_lt
  have hgap := h.atGap
  cases hgap with
  | some hgap =>
    have hsign := hgap.sign
    have hstop := hgap.stop
    refine slices_between ?_ hpost ⟨?_, ?_⟩ ⟨?_, ?_⟩
    · intro x x' y y' hx hy
      rw [← List.append_assoc, ← List.append_assoc]
      exact hx.slice hy _
    all_goals simp only [List.length_append]; omega

end Front

open Template in
/-- **The white space in front of a line form** can be replaced. The line form is found again, and
holds no at sign that it did not hold before. -/
theorem sameContent_indent {T w w' t : List Char} (hT : WholeLines T) (hw : Blank w)
    (hw' : Blank w') {m : Marker} (hm : m ∈ scan (T ++ (w ++ '@' :: t)))
    (hsign : m.sign = T.length + w.length) {family : Family} {read : Mark × List Char}
    (hline : family.line? ('@' :: t) = some read)
    (hnone : ∀ a ∈ scan (T ++ (w ++ '@' :: t)), a.stop = m.start →
      HoldsNone (T ++ (w ++ '@' :: t)) a) :
    SameContent (T ++ (w ++ '@' :: t)) (T ++ (w' ++ '@' :: t)) ∧
      ∃ m' ∈ scan (T ++ (w' ++ '@' :: t)), m'.sign = T.length + w'.length ∧
        m'.stop + w.length = m.stop + w'.length ∧
        (HoldsNone (T ++ (w ++ '@' :: t)) m → HoldsNone (T ++ (w' ++ '@' :: t)) m') := by
  obtain ⟨L, u, rfl, hL, hu, hlines, hne⟩ := exists_ended hT
  obtain ⟨b, e, rfl, hb, he⟩ := exists_lines hw
  obtain ⟨b', e', rfl, hb', he'⟩ := exists_lines hw'
  let g := Gap.ofLines hu hlines hw hb he
  let g' := Gap.ofLines hu hlines hw' hb' he'
  have htext : L ++ u ++ (b ++ e ++ '@' :: t) = L ++ (g.text ++ '@' :: t) := by
    simp [g, Gap.text, Gap.ofLines]
  have htext' : L ++ u ++ (b' ++ e' ++ '@' :: t) = L ++ (g'.text ++ '@' :: t) := by
    simp [g', Gap.text, Gap.ofLines]
  have hlength : (L ++ u).length + (b ++ e).length = L.length + g.text.length := by
    simp [g, Gap.text, Gap.ofLines]; omega
  have hlength' : (L ++ u).length + (b' ++ e').length = L.length + g'.text.length := by
    simp [g', Gap.text, Gap.ofLines]; omega
  have hnonempty : ∀ b, L ≠ [] → u ++ b ≠ [] :=
    fun b hLne => List.append_ne_nil_of_left_ne_nil (hne hLne) b
  rw [htext] at hm hnone ⊢
  rw [htext']
  obtain ⟨pre, pre', head, head', post, post', h⟩ :=
    exists_lockstep g g' hL (R := '@' :: t) (by simpa using not_isWhiteSpace_at) (hnonempty b)
      (hnonempty b')
  obtain rfl := h.head_eq hm (hsign.trans hlength)
  obtain ⟨m', rfl, hgap⟩ : ∃ m', head' = some m' ∧ AtGap L ('@' :: t) g g' _ m m' := by
    cases h.atGap with
    | some hgap => exact ⟨_, rfl, hgap⟩
  have hscan : Marker.scan _ = pre ++ m :: post := h.scan
  have hscan' : Marker.scan _ = pre' ++ m' :: post' := h.scan'
  have hstop := hgap.stop
  refine ⟨⟨h.marks, ?_⟩, m', by rw [hscan']; simp, hgap.sign'.trans hlength'.symm, by omega, ?_⟩
  · rw [hscan, hscan', between_append, between_append, List.map_append, List.map_append,
      h.slices_front hne hlines rfl rfl hline hnone, h.slices_behind]
  · intro hfree a' ha' hlt
    rw [hscan'] at ha'
    have hsign' := hgap.sign'
    rcases List.mem_append.mp ha' with ha' | ha'
    · obtain ⟨a, -, haa⟩ := exists_mem_of_forall₂ h.before a' ha'
      have := haa.sign
      have := haa.sign_lt
      omega
    · rcases List.mem_cons.mp ha' with rfl | ha'
      · omega
      · obtain ⟨a, ha, haa⟩ := exists_mem_of_forall₂ h.behind a' ha'
        have := hgap.sign
        have := haa.sign
        have := hfree a (by rw [hscan]; simp [ha]) (by omega)
        omega

/-! ### White space behind a marker -/

/-- The part of a text up to the last line break of a gap. -/
def upToIndent (L : List Char) (g : Gap) : List Char := L ++ g.lines

/-- A place behind the last line break of both gaps, or one in front of it where a marker starts. -/
def StartsAtIndent (L : List Char) (g g' : Gap) (y y' : Nat) : Prop :=
  Behind (upToIndent L g) (upToIndent L g') y y' ∨
    y ≤ (upToIndent L g).length ∧ y' ≤ (upToIndent L g').length

theorem slice_startsAtIndent {L R : List Char} {g g' : Gap} (hindent : g.indent = g'.indent)
    {x x' y y' : Nat} (hx : Behind (upToIndent L g) (upToIndent L g') x x')
    (hy : StartsAtIndent L g g' y y') :
    Text.slice (L ++ (g.text ++ R)) x y = Text.slice (L ++ (g'.text ++ R)) x' y' := by
  have htext : ∀ g : Gap, L ++ (g.text ++ R) = upToIndent L g ++ (g.indent ++ R) := by
    intro g
    simp only [Gap.text, upToIndent, List.append_assoc]
  rcases hy with hy | ⟨hy, hy'⟩
  · rw [htext, htext, hindent]
    exact hx.slice hy _
  · obtain ⟨hle, hshift⟩ := hx
    rw [Text.slice_eq_nil _ (by omega), Text.slice_eq_nil _ (by omega)]

theorem AtGap.startsAtIndent {L R : List Char} {g g' : Gap} {reach : Prop} {m m' : Marker}
    (h : AtGap L R g g' reach m m') (hindent : g.indent = g'.indent) {w w' b b' : List Char}
    (hg : g.lines = w ++ b) (hg' : g'.lines = w' ++ b') (hlines : WholeLines w) (hne : w ≠ [])
    (hlines' : WholeLines w') (hne' : w' ≠ []) : StartsAtIndent L g g' m.start m'.start := by
  have hlen := g.length_text
  have hlen' := g'.length_text
  rw [hindent] at hlen
  have hstart := h.start
  unfold StartsAtIndent Behind upToIndent
  simp only [List.length_append]
  generalize m.start = x at hstart ⊢
  generalize m'.start = x' at hstart ⊢
  cases hstart with
  | first hx hx' =>
    obtain ⟨a, ha, hfirst⟩ := exists_firstLine (L := L) (fun _ => hne) hlines
    obtain ⟨a', ha', hfirst'⟩ := exists_firstLine (L := L) (fun _ => hne') hlines'
    rw [Gap.text, hg, List.append_assoc, hfirst] at hx
    rw [Gap.text, hg', List.append_assoc, hfirst'] at hx'
    obtain rfl := Option.some.inj hx
    obtain rfl := Option.some.inj hx'
    rw [hg, hg', List.length_append, List.length_append]
    exact .inr ⟨by omega, by omega⟩
  | last => exact .inl ⟨by omega, by omega⟩
  | atSign => exact .inl ⟨by omega, by omega⟩

/-- Behind the last line break of the gap, the same text is between the markers. -/
theorem Lockstep.slices_indent {L R : List Char} {g g' : Gap} {pre pre' post post' : List Marker}
    {head head' : Option Marker} (h : Lockstep L R g g' pre pre' head head' post post')
    (hindent : g.indent = g'.indent) {w w' b b' : List Char} (hg : g.lines = w ++ b)
    (hg' : g'.lines = w' ++ b') (hlines : WholeLines w) (hne : w ≠ []) (hlines' : WholeLines w')
    (hne' : w' ≠ []) :
    (between (L.length + g.lines.length) (L ++ (g.text ++ R)).length (head.toList ++ post)).map
        (Stretch.slice (L ++ (g.text ++ R))) =
      (between (L.length + g'.lines.length) (L ++ (g'.text ++ R)).length
        (head'.toList ++ post')).map (Stretch.slice (L ++ (g'.text ++ R))) := by
  have hlen := g.length_text
  have hlen' := g'.length_text
  rw [hindent] at hlen
  have hA : (upToIndent L g).length = L.length + g.lines.length := List.length_append
  have hA' : (upToIndent L g').length = L.length + g'.lines.length := List.length_append
  have hhead : List.Forall₂ (fun m m' => StartsAtIndent L g g' m.start m'.start ∧
      Behind (upToIndent L g) (upToIndent L g') m.stop m'.stop) head.toList head'.toList := by
    have hmem : ∀ m ∈ head, m ∈ Marker.scan (L ++ (g.text ++ R)) := by
      rintro m rfl
      rw [h.scan]; simp
    cases h.atGap with
    | none => exact .nil
    | @some m m' hm =>
      obtain ⟨_, hstands⟩ := mem_scan (hmem m rfl)
      have := hstands.sign_lt
      have := hm.sign
      have := hm.stop
      have hstarts := hm.startsAtIndent hindent hg hg' hlines hne hlines' hne'
      exact .cons ⟨hstarts, by omega, by omega⟩ .nil
  have hpost := (h.behind_post (upToIndent L g) (upToIndent L g') (by omega)
    (by omega)).imp fun _ _ hm => (⟨.inl hm.1, hm.2⟩ : StartsAtIndent L g g' _ _ ∧ _)
  refine slices_between (fun x x' y y' => slice_startsAtIndent hindent)
    (List.rel_append hhead hpost) ⟨Nat.le_of_eq hA, by omega⟩ (.inl ⟨?_, ?_⟩) <;>
      simp only [List.length_append] at * <;> omega

open Template in
/-- **The white space behind a line form** can be replaced, up to its last line break. -/
theorem sameContent_trail {T w w' C : List Char} (hT : Ended T) (hw : Blank w) (hw' : Blank w')
    (hlines : WholeLines w) (hne : w ≠ []) (hlines' : WholeLines w') (hne' : w' ≠ []) {m : Marker}
    (hm : m ∈ scan (T ++ (w ++ C))) (hsign : m.sign < T.length)
    (hstop : m.stop = T.length + w.length)
    (hfree : HoldsNone (T ++ (w ++ C)) m) :
    SameContent (T ++ (w ++ C)) (T ++ (w' ++ C)) := by
  have hsplit := List.takeWhile_append_dropWhile (p := Text.isWhiteSpace) (l := C)
  have hblank : Blank (C.takeWhile Text.isWhiteSpace) := fun c hc => List.mem_takeWhile_imp hc
  have hR := Text.not_head_dropWhile Text.isWhiteSpace C
  obtain ⟨b, e, hbe, hb, he⟩ := exists_lines hblank
  generalize C.dropWhile Text.isWhiteSpace = R at hsplit hR
  rw [hbe] at hsplit hblank
  let g := Gap.ofLines hw hlines hblank hb he
  let g' := Gap.ofLines hw' hlines' hblank hb he
  have htext : T ++ (w ++ C) = T ++ (g.text ++ R) := by
    simp [← hsplit, g, Gap.text, Gap.ofLines]
  have htext' : T ++ (w' ++ C) = T ++ (g'.text ++ R) := by
    simp [← hsplit, g', Gap.text, Gap.ofLines]
  rw [htext] at hm hfree ⊢
  rw [htext']
  obtain ⟨pre, pre', head, head', post, post', h⟩ := exists_lockstep g g' hT hR
    (fun _ => List.append_ne_nil_of_left_ne_nil hne b)
    (fun _ => List.append_ne_nil_of_left_ne_nil hne' b)
  obtain ⟨s, s', m', rfl, rfl, hs, hmm⟩ := h.exists_concat (h.mem_pre hm hsign) fun a ha hlt =>
    Nat.le_trans (by omega) (hfree a ha hlt)
  -- The marker ends with the last line break of the gap.
  have hstops : m.stop = T.length + g.lines.length ∧ m'.stop = T.length + g'.lines.length := by
    have hlen := g.length_text
    have hgLines : g.lines.length = w.length + b.length := List.length_append
    have hpos := List.length_pos_iff.mpr hne
    have hsame := hmm.stop
    generalize m.stop = x at hsame hstop ⊢
    generalize m'.stop = x' at hsame ⊢
    cases hsame with
    | left => omega
    | indent => exact ⟨rfl, rfl⟩
    | right => omega
  have hscan : Marker.scan (T ++ (g.text ++ R)) = s ++ m :: (head.toList ++ post) := by
    rw [h.scan, List.append_assoc]; rfl
  have hscan' : Marker.scan (T ++ (g'.text ++ R)) = s' ++ m' :: (head'.toList ++ post') := by
    rw [h.scan', List.append_assoc]; rfl
  have hfront := Lockstep.slices_before hs (T := T) rfl rfl (Nat.le_refl _) (Nat.le_add_right _ _)
    (Nat.le_add_right _ _) hmm.start_le
  refine ⟨h.marks, ?_⟩
  rw [hscan, hscan', between_append, between_append, List.map_append, List.map_append, hfront,
    hmm.start, hstops.1, hstops.2, h.slices_indent rfl rfl rfl hlines hne hlines' hne']

end Marker

end LayerStencil
