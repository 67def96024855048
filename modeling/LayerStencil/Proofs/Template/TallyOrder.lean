import LayerStencil.Proofs.Template.Tallies
import LayerStencil.Proofs.Text.Lines
import Mathlib.Data.List.Pairwise

/-! # The order of statistics

A control reports when it has visited its items, so the controls inside it report before it does.
The statistics list the controls by their lines, and the sort is stable: on one line they come in
the order in which they have first reported, which need not be the order in which they stand.

* `Tally.DoneBefore`: one control has reported before another one does for the first time.
* `Tally.pairwise_total`, `Event.pairwise_statistics`: the order of the sums before and after they
  are sorted by lines.
* `Settled`: whenever a control reports, those directly inside it have reported as often as it has
  kept an item. Like `Counted`, this holds of the reports of an expansion (`settled_of_expandBody`).
* `Template.statistics_in_order_iff`: when the statistics are in the order of the template. -/

namespace LayerStencil

namespace Tally

/-- The control that starts at `a` has reported before the first report of the one that starts at
`b`. -/
def DoneBefore (ts : List Tally) (a b : Nat) : Prop :=
  ∃ before x after, ts = before ++ x :: after ∧ x.start = b ∧ b ∉ before.map Tally.start ∧
    a ∈ before.map Tally.start

variable {ts us : List Tally} {a b : Nat}

theorem DoneBefore.append (h : DoneBefore ts a b) (us : List Tally) :
    DoneBefore (ts ++ us) a b := by
  obtain ⟨before, x, after, rfl, hx, hb, ha⟩ := h
  exact ⟨before, x, after ++ us, by rw [List.append_assoc, List.cons_append], hx, hb, ha⟩

theorem DoneBefore.asymm (h : DoneBefore ts a b) : ¬ DoneBefore ts b a := by
  obtain ⟨before, x, after, rfl, rfl, hb, ha⟩ := h
  rintro ⟨before', y, after', heq, rfl, hnot, hmem⟩
  -- The shorter of the two beginnings holds a report that it should not hold.
  rcases List.append_eq_append_iff.mp heq with ⟨more, rfl, -⟩ | ⟨more, rfl, -⟩
  · rw [List.map_append, List.mem_append, not_or] at hnot
    exact hnot.1 ha
  · rw [List.map_append, List.mem_append, not_or] at hb
    exact hb.1 hmem

theorem DoneBefore.mem_left (h : DoneBefore ts a b) : a ∈ ts.map Tally.start := by
  obtain ⟨before, x, after, rfl, -, -, ha⟩ := h
  rw [List.map_append]
  exact List.mem_append_left _ ha

theorem DoneBefore.mem_right (h : DoneBefore ts a b) : b ∈ ts.map Tally.start := by
  obtain ⟨before, x, after, rfl, rfl, -, -⟩ := h
  simp

/-- **The sums** come in the order of the first reports. -/
theorem pairwise_foldl : ∀ (ts : List Tally) {before us : List Tally}, Sums before us →
    (us.map Tally.start).Pairwise (DoneBefore before) →
      ((ts.foldl (fun acc t => t.addTo acc) us).map Tally.start).Pairwise
        (DoneBefore (before ++ ts))
  | [], before, us, _, h => by rwa [List.append_nil]
  | t :: ts, before, us, hsums, h => by
    rw [List.append_cons]
    refine pairwise_foldl ts (hsums.addTo t) ?_
    have hold : (us.map Tally.start).Pairwise (DoneBefore (before ++ [t])) :=
      h.imp fun hdone => hdone.append [t]
    rw [map_start_addTo]
    split
    · exact hold
    · rename_i hnew
      refine List.pairwise_append.mpr ⟨hold, List.pairwise_singleton _ _, fun k hk l hl => ?_⟩
      obtain rfl := List.mem_singleton.mp hl
      exact ⟨before, t, [], rfl, rfl, fun hmem => hnew ((hsums.mem_iff _).mpr hmem),
        (hsums.mem_iff k).mp hk⟩

theorem pairwise_total (ts : List Tally) : ((total ts).map Tally.start).Pairwise (DoneBefore ts) :=
  pairwise_foldl ts Sums.nil List.Pairwise.nil

end Tally

open Tally (DoneBefore ofStart ofStart_append)

/-! ### Sorting by lines -/

/-- What a list with growing keys relates, it relates in the order of the keys. -/
theorem rel_of_key_lt {α : Type} {key : α → Nat} {R : α → α → Prop} {l : List α}
    (h : l.Pairwise fun x y => key x < key y ∧ R x y) {x y : α} (hx : x ∈ l) (hy : y ∈ l)
    (hlt : key x < key y) : R x y := by
  have : Std.Symm fun x y => (key x < key y ∧ R x y) ∨ (key y < key x ∧ R y x) :=
    ⟨fun _ _ h => h.symm⟩
  have hne : x ≠ y := by
    rintro rfl
    exact Nat.lt_irrefl _ hlt
  have horder : l.Pairwise fun x y => (key x < key y ∧ R x y) ∨ (key y < key x ∧ R y x) :=
    h.imp .inl
  exact (horder.forall hx hy hne).elim And.right fun hback => absurd hlt (Nat.lt_asymm hback.1)

/-- A sort by keys is stable: elements with one key stay in their order. -/
theorem pairwise_mergeSort_key {α : Type} (key : α → Nat) {R : α → α → Prop} {l : List α}
    (h : l.Pairwise R) :
    (l.mergeSort fun a b => key a ≤ key b).Pairwise fun a b =>
      key a < key b ∨ key a = key b ∧ R a b := by
  have htrans : ∀ a b c : α, decide (key a ≤ key b) → decide (key b ≤ key c) →
      decide (key a ≤ key c) := by
    intro a b c
    simp only [decide_eq_true_eq]
    exact Nat.le_trans
  have htotal : ∀ a b : α, decide (key a ≤ key b) || decide (key b ≤ key a) := by
    intro a b
    simpa using Nat.le_total (key a) (key b)
  have hsorted := List.pairwise_mergeSort htrans htotal l
  refine List.pairwise_iff_forall_sublist.mpr fun {a b} hsublist => ?_
  have hle : key a ≤ key b := by
    simpa using List.pairwise_iff_forall_sublist.mp hsorted hsublist
  rcases Nat.lt_or_eq_of_le hle with hlt | heq
  · exact .inl hlt
  · -- The elements with this key are the same list before and after the sort.
    let here (x : α) : Bool := key x = key b
    have hsame : (l.mergeSort fun a b => key a ≤ key b).filter here = l.filter here := by
      have hkeys : (l.filter here).Pairwise fun a b => decide (key a ≤ key b) := by
        refine List.pairwise_of_forall_mem_list fun x hx y hy => ?_
        have hx : key x = key b := by simpa [here] using (List.mem_filter.mp hx).2
        have hy : key y = key b := by simpa [here] using (List.mem_filter.mp hy).2
        simp [hx, hy]
      have hsub := (List.sublist_mergeSort htrans htotal hkeys List.filter_sublist).filter here
      rw [List.filter_filter] at hsub
      simp only [Bool.and_self] at hsub
      exact (hsub.eq_of_length ((List.mergeSort_perm l _).filter here).length_eq.symm).symm
    have hpair : [a, b].Sublist (l.filter here) := by
      have := hsublist.filter here
      rwa [hsame, List.filter_eq_self.mpr (by simp [here, heq])] at this
    exact .inr ⟨heq, List.pairwise_iff_forall_sublist.mp h (hpair.trans List.filter_sublist)⟩

/-- **The statistics** go by lines and, on one line, by the first reports. -/
theorem Event.pairwise_statistics (events : List Event) :
    (Event.statistics events).Pairwise fun u v =>
      u.line < v.line ∨ u.line = v.line ∧ DoneBefore (Event.tallies events) u.start v.start :=
  pairwise_mergeSort_key Tally.line (List.pairwise_map.mp (Tally.pairwise_total _))

/-! ### When a control first reports -/

/-- Whenever a control reports, the controls directly inside it have reported as often as it has
kept an item. -/
def Settled (walk : List Control) (ts : List Tally) : Prop :=
  ∀ c ∈ walk, ∀ d ∈ c.children, ∀ before x after, ts = before ++ x :: after → x.start = c.start →
    (ofStart d.start before).length = ((ofStart c.start (before ++ [x])).map Tally.emitted).sum

namespace Settled

variable {m : Model} {walk walk' : List Control} {ts us : List Tally}

theorem nil : Settled walk [] := by
  intro c _ d _ before x after h
  simp at h

/-- A list of tallies with a tally in it is split before this tally in one of two parts. -/
theorem split_cases {before after : List Tally} {x : Tally} (h : ts ++ us = before ++ x :: after) :
    (∃ more, ts = before ++ x :: more) ∨ ∃ more, before = ts ++ more ∧ us = more ++ x :: after := by
  rcases List.append_eq_append_iff.mp h with ⟨more, hbefore, hus⟩ | ⟨more, hts, hafter⟩
  · exact .inr ⟨more, hbefore, hus⟩
  · cases more with
    | nil => exact .inr ⟨[], by simpa using hts.symm, hafter.symm⟩
    | cons y more =>
      cases hafter
      exact .inl ⟨more, hts⟩

theorem append (hcounted : Counted m walk ts) (hts : Settled walk ts) (hus : Settled walk us) :
    Settled walk (ts ++ us) := by
  intro c hc d hd before x after h hx
  rcases split_cases h with ⟨more, rfl⟩ | ⟨more, rfl, rfl⟩
  · exact hts c hc d hd before x more rfl hx
  · rw [List.append_assoc, ofStart_append, ofStart_append c.start, List.length_append,
      List.map_append, List.sum_append, hcounted.nested c hc d hd,
      hus c hc d hd more x after rfl hx]

/-- Tallies of controls that start at different places. -/
theorem append_walks (hcounted : Counted m walk ts) (hcounted' : Counted m walk' us)
    (hts : Settled walk ts) (hus : Settled walk' us)
    (hnodup : ((walk ++ walk').map Control.start).Nodup)
    (hwalk' : ∀ c ∈ walk', ∀ d ∈ c.children, d ∈ walk') : Settled (walk ++ walk') (ts ++ us) := by
  rw [List.map_append, List.nodup_append] at hnodup
  have hright : ∀ c ∈ walk', ofStart c.start ts = [] := fun c hc =>
    hcounted.ofStart_eq_nil fun hmem => hnodup.2.2 _ hmem _ (List.mem_map_of_mem hc) rfl
  intro c hc d hd before x after h hx
  rcases List.mem_append.mp hc with hc | hc
  · rcases split_cases h with ⟨more, rfl⟩ | ⟨more, rfl, rfl⟩
    · exact hts c hc d hd before x more rfl hx
    · obtain ⟨e, he, hreports⟩ := hcounted'.reports x (by simp)
      exact absurd (hx.symm.trans hreports.start)
        (hnodup.2.2 _ (List.mem_map_of_mem hc) _ (List.mem_map_of_mem he))
  · rcases split_cases h with ⟨more, rfl⟩ | ⟨more, rfl, rfl⟩
    · have hnil := Tally.ofStart_eq_nil.mp (hright c hc)
      exact absurd (by rw [← hx]; simp) hnil
    · rw [List.append_assoc, ofStart_append, ofStart_append c.start, hright d (hwalk' c hc d hd),
        hright c hc, List.nil_append, List.nil_append]
      exact hus c hc d hd more x after rfl hx

/-- The report of a control behind those of the controls inside it. -/
theorem report {c : Control} {x : Tally} (hcounted : Counted m (Control.walkAll c.children) ts)
    (h : Settled (Control.walkAll c.children) ts) (hstart : x.start = c.start)
    (hself : c.start ∉ (Control.walkAll c.children).map Control.start)
    (honce : ∀ d ∈ c.children, (ofStart d.start ts).length = x.emitted) :
    Settled (c :: Control.walkAll c.children) (ts ++ [x]) := by
  have hnil : ofStart c.start ts = [] := hcounted.ofStart_eq_nil hself
  intro e he d hd before y after heq hy
  rcases List.mem_cons.mp he with rfl | he
  · rcases split_cases heq with ⟨more, rfl⟩ | ⟨more, rfl, hmore⟩
    · exact absurd (by rw [← hy]; simp) (Tally.ofStart_eq_nil.mp hnil)
    · cases more with
      | nil =>
        cases hmore
        rw [List.append_nil, ofStart_append, hnil, ← hstart, Tally.ofStart_singleton]
        simpa using honce d hd
      | cons z more => simp at hmore
  · rcases split_cases heq with ⟨more, rfl⟩ | ⟨more, rfl, hmore⟩
    · exact h e he d hd before y more rfl hy
    · cases more with
      | nil =>
        cases hmore
        exact absurd (List.mem_map.mpr ⟨e, he, hy.symm.trans hstart⟩) hself
      | cons z more => simp at hmore

/-- **A control is done before the one around it** if and only if that one keeps an item at its
first visit. -/
theorem doneBefore_iff (h : Settled walk ts) {c d : Control} (hc : c ∈ walk) (hd : d ∈ c.children) :
    DoneBefore ts d.start c.start ↔
      ∃ x, ts.find? (·.start = c.start) = some x ∧ 0 < x.emitted := by
  -- Up to its first report the control has kept as many items as it says there.
  have hfirst : ∀ before x after, ts = before ++ x :: after → x.start = c.start →
      c.start ∉ before.map Tally.start → (ofStart d.start before).length = x.emitted := by
    intro before x after hts hx hnot
    rw [h c hc d hd before x after hts hx, ofStart_append, Tally.ofStart_eq_nil.mpr hnot, ← hx,
      Tally.ofStart_singleton]
    rfl
  have hmem : ∀ before : List Tally, d.start ∈ before.map Tally.start ↔
      0 < (ofStart d.start before).length := by
    intro before
    rw [List.length_pos_iff, Ne, Tally.ofStart_eq_nil, not_not]
  constructor
  · rintro ⟨before, x, after, hts, hx, hnot, hbefore⟩
    refine ⟨x, ?_, hfirst before x after hts hx hnot ▸ (hmem before).mp hbefore⟩
    refine List.find?_eq_some_iff_append.mpr ⟨by simpa using hx, before, after, hts, ?_⟩
    intro y hy
    have hne : y.start ≠ c.start := fun hstart => hnot (hstart ▸ List.mem_map_of_mem hy)
    simpa using hne
  · rintro ⟨x, hfind, hpos⟩
    obtain ⟨hx, before, after, hts, hbefore⟩ := List.find?_eq_some_iff_append.mp hfind
    have hx : x.start = c.start := by simpa using hx
    have hnot : c.start ∉ before.map Tally.start := by
      intro hmem
      obtain ⟨y, hy, hstart⟩ := List.mem_map.mp hmem
      simpa [hstart] using hbefore y hy
    exact ⟨before, x, after, hts, hx, hnot,
      (hmem before).mpr (hfirst before x after hts hx hnot ▸ hpos)⟩

end Settled

namespace Template

open Event (tallies tallies_append tallies_text tallies_guarded)

variable {m : Model} {text : List Char}

mutual

theorem settled_of_expandControl (scope : Scope) : ∀ (c : Control) {events : List Event},
    (c.walk.map Control.start).Nodup → expandControl m text scope c = .ok events →
      Settled c.walk (tallies events)
  | .node kind condition opening closing line children, events, hnodup, h => by
    rw [Control.walk, List.map_cons, List.nodup_cons] at hnodup
    obtain ⟨hself, hnodup⟩ := hnodup
    obtain ⟨items, n, visited, -, ⟨hcounted, hsettled, honce⟩, rfl⟩ :=
      exists_of_expandControl h
        (P := fun _ n es => Counted m (Control.walkAll children) (tallies es) ∧
          Settled (Control.walkAll children) (tallies es) ∧
          ∀ d ∈ children, (ofStart d.start (tallies es)).length = n)
        ⟨Counted.nil, Settled.nil, fun _ _ => rfl⟩ (fun _ _ _ _ _ h => h)
        (by
          intro item k n es body hbody ⟨hcounted, hsettled, honce⟩
          obtain ⟨hcounted', honce'⟩ := counted_of_expandBody _ _ _ _ children hnodup hbody
          have hsettled' := settled_of_expandBody _ _ _ _ children hnodup hbody
          rw [tallies_append, tallies_guarded]
          refine ⟨hcounted'.append hcounted, hsettled'.append hcounted' hsettled, fun d hd => ?_⟩
          obtain ⟨x, _, hx, -⟩ := honce' d hd
          rw [ofStart_append, List.length_append, hx, honce d hd, List.length_singleton,
            Nat.add_comm])
    rw [tallies_append, Control.walk]
    exact hsettled.report (c := .node kind condition opening closing line children)
      (x := ⟨opening.start, kind, line, items.length, n⟩) hcounted rfl hself honce

/-- **Controls report after those inside them.** -/
theorem settled_of_expandBody (scope : Scope) (values : Values) (start stop : Nat) :
    ∀ (cs : List Control) {events : List Event}, ((Control.walkAll cs).map Control.start).Nodup →
      expandBody m text scope values start stop cs = .ok events →
        Settled (Control.walkAll cs) (tallies events)
  | [], events, _, h => by
    obtain ⟨s, -, rfl⟩ := exists_of_expandBody_nil h
    exact Settled.nil
  | c :: cs, events, hnodup, h => by
    obtain ⟨s, inner, rest, -, hinner, hrest, rfl⟩ := exists_of_expandBody_cons h
    rw [Control.walkAll] at hnodup ⊢
    have hparts := List.nodup_append.mp (List.map_append ▸ hnodup)
    rw [tallies_text, tallies_append]
    exact Settled.append_walks (counted_of_expandControl scope c hparts.1 hinner).1
      (counted_of_expandBody scope values _ stop cs hparts.2.1 hrest).1
      (settled_of_expandControl scope c hparts.1 hinner)
      (settled_of_expandBody scope values _ stop cs hparts.2.1 hrest) hnodup
      fun e he d hd => Control.mem_walkAll_of_mem_children hd he

end

/-! ### The order of the template -/

/-- The at signs of two controls are in the order of their starts. -/
theorem sign_lt_of_start_lt {t : Template} (hparse : parse text = .ok t) {c d : Control}
    (hc : c ∈ t.walk) (hd : d ∈ t.walk) (h : c.start < d.start) :
    c.opening.sign < d.opening.sign := by
  obtain ⟨-, hmarkers, -, -⟩ := (parse_eq_ok_iff_nested text).2.1 t hparse
  have hsublist := Control.sublist_markersAll (fun m => (m.start, m.sign)) (fun _ _ => rfl)
    t.controls
  rw [hmarkers] at hsublist
  have hscan : ((Marker.scan text).map fun m => (m.start, m.sign)).Pairwise
      fun x y => x.1 < y.1 ∧ x.2 < y.2 := List.pairwise_map.mpr (Marker.pairwise_scan text)
  exact rel_of_key_lt (hscan.sublist hsublist) (List.mem_map_of_mem hc) (List.mem_map_of_mem hd) h

/-- Controls on different lines stand in the order of their lines. -/
theorem start_lt_of_line_lt {t : Template} (hparse : parse text = .ok t) {c d : Control}
    (hc : c ∈ t.walk) (hd : d ∈ t.walk) (h : c.line < d.line) : c.start < d.start := by
  obtain ⟨-, -, hread, -⟩ := (parse_eq_ok_iff_nested text).2.1 t hparse
  by_contra hnot
  rcases Nat.lt_or_eq_of_le (Nat.le_of_not_lt hnot) with hlt | heq
  · have hsign := sign_lt_of_start_lt hparse hd hc hlt
    have hline := Text.lineAt_eq_add_count text (Nat.le_of_lt hsign)
    rw [(hread c hc).1, (hread d hd).1, Marker.line, Marker.line] at h
    omega
  · obtain rfl := List.inj_on_of_nodup_map (nodup_starts hparse) hd hc heq
    exact Nat.lt_irrefl _ h

/-- **The order of statistics.** They go by the lines of the controls and, on one line, by the first
reports. So they are in the order of the template if and only if no control reports before one does
for the first time that stands before it on the same line. A control that is directly inside another
one does so if and only if the other one keeps an item at its first visit. -/
theorem statistics_in_order_iff {t : Template} {events : List Event}
    (hparse : parse text = .ok t) (hexpand : t.expand m = .ok events) :
    ((Event.statistics events).Pairwise fun u v =>
      u.line < v.line ∨ u.line = v.line ∧ DoneBefore (tallies events) u.start v.start) ∧
    (((Event.statistics events).map Tally.start).Pairwise (· < ·) ↔
      ∀ c ∈ t.walk, ∀ d ∈ t.walk, c.line = d.line → c.start < d.start →
        ¬ DoneBefore (tallies events) d.start c.start) ∧
    ∀ c ∈ t.walk, ∀ d ∈ c.children, DoneBefore (tallies events) d.start c.start ↔
      ∃ x, (tallies events).find? (·.start = c.start) = some x ∧ 0 < x.emitted := by
  have hnodup := nodup_starts hparse
  have hsorted := Event.pairwise_statistics events
  have hsums := Event.sums_statistics events
  have howned := (statistics_of_expand hparse hexpand).owned
  refine ⟨hsorted, ?_, fun c hc d hd =>
    (settled_of_expandBody [] .empty 0 _ t.controls hnodup hexpand).doneBefore_iff hc hd⟩
  rw [List.pairwise_map]
  constructor
  · intro hstarts c hc d hd hline hlt hdone
    -- The entries of the two controls stand in the order of their starts.
    have hentry : ∀ e ∈ t.walk, e.start ∈ (tallies events).map Tally.start →
        ∃ u ∈ Event.statistics events, u.start = e.start ∧ u.line = e.line := by
      intro e he hmem
      obtain ⟨u, hu, hstart⟩ := List.mem_map.mp ((hsums.mem_iff e.start).mpr hmem)
      obtain ⟨e', he', hustart, -, huline, -⟩ := howned u hu
      obtain rfl := List.inj_on_of_nodup_map hnodup he' he (hustart.symm.trans hstart)
      exact ⟨u, hu, hstart, huline⟩
    obtain ⟨u, hu, hustart, huline⟩ := hentry c hc hdone.mem_right
    obtain ⟨v, hv, hvstart, hvline⟩ := hentry d hd hdone.mem_left
    rw [← hustart, ← hvstart] at hlt hdone
    rcases rel_of_key_lt (hstarts.and hsorted) hu hv hlt with hless | ⟨-, hdone'⟩
    · omega
    · exact hdone.asymm hdone'
  · intro hnone
    refine hsorted.imp_of_mem fun {u v} hu hv huv => ?_
    obtain ⟨c, hc, hustart, -, huline, -⟩ := howned u hu
    obtain ⟨d, hd, hvstart, -, hvline, -⟩ := howned v hv
    rw [hustart, hvstart, huline, hvline] at huv
    rw [hustart, hvstart]
    rcases huv with hline | ⟨hline, hdone⟩
    · exact start_lt_of_line_lt hparse hc hd hline
    · rcases Nat.lt_trichotomy c.start d.start with hlt | heq | hgt
      · exact hlt
      · exact absurd (heq ▸ hdone) hdone.asymm
      · exact absurd hdone (hnone d hd c hc hline.symm hgt)

/-- A loop inside a conditional part, both on the first line, and a loop on the second line. -/
def sharedLine : Template where
  text := "@if(True) @foreach flag @end flag @end if\n@foreach enum\n@end enum\n".toList
  controls := [.node .cond (some ⟨"True".toList, .literal (.bool true)⟩)
      ⟨0, 9, 0, .opens "if" (some "True".toList)⟩ ⟨34, 41, 34, .closes "if"⟩ 1
      [.node (.each .flag) none ⟨10, 23, 10, .opens "flag" none⟩ ⟨24, 33, 24, .closes "flag"⟩ 1 []],
    .node (.each .enum) none ⟨42, 56, 42, .opens "enum" none⟩ ⟨56, 66, 56, .closes "enum"⟩ 2 []]

/-- The events of the template over the empty model. -/
def sharedLineEvents : List Event :=
  [.text [], .text [' '], .tally ⟨10, .each .flag, 1, 0, 0⟩, .text [' '],
    .tally ⟨0, .cond, 1, 1, 1⟩, .text ['\n'], .tally ⟨42, .each .enum, 2, 0, 0⟩, .text []]

/-- The loop inside the conditional part reports first, since the part keeps the sentinel. -/
theorem statistics_in_order_iff_sharedLine : parse sharedLine.text = .ok sharedLine ∧
    sharedLine.expand Model.empty = .ok sharedLineEvents ∧
    DoneBefore (tallies sharedLineEvents) 10 0 := by
  have hparse : parse sharedLine.text = .ok sharedLine := by cbv
  have hexpand : sharedLine.expand Model.empty = .ok sharedLineEvents := by cbv
  obtain ⟨-, -, hinside⟩ := statistics_in_order_iff hparse hexpand
  exact ⟨hparse, hexpand, (hinside _ (.head _) _ (.head _)).mpr ⟨_, rfl, by decide⟩⟩

/-- **Two directives on one line** come in the opposite order: the statistics list the inner one,
which starts later, before the outer one. -/
theorem not_pairwise_starts_of_shared_line : ∃ t events,
    parse sharedLine.text = .ok t ∧ t.expand Model.empty = .ok events ∧
    (Event.statistics events).map Tally.start = [10, 0, 42] ∧
    ¬ ((Event.statistics events).map Tally.start).Pairwise (· < ·) := by
  have hstarts : (Event.statistics sharedLineEvents).map Tally.start = [10, 0, 42] := by cbv
  refine ⟨sharedLine, sharedLineEvents, by cbv, by cbv, hstarts, ?_⟩
  rw [hstarts]
  decide

end Template

end LayerStencil
