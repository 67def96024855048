import LayerStencil.Proofs.Template.Nesting
import LayerStencil.Proofs.Template.Visit
import LayerStencil.Template.Statistics
import Mathlib.Algebra.Order.BigOperators.Group.List
import Mathlib.Algebra.Order.Ring.Nat
import Mathlib.Data.List.Nodup
import Mathlib.Data.List.Permutation

/-! # Exact statistics

A control is visited once for each item that the control around it keeps, and reports a tally each
time; the statistics add the tallies of one control up. Since the opening markers of a template
start at different places, no two controls share an entry.

* `Tally.Sums`: one list of tallies holds the sums of another one, by the starts of the controls;
  `Event.sums_statistics`: the statistics are the sums of all tallies.
* `Counted`: every tally is a report of one of the given controls, and each control reports as often
  as the control around it has kept an item. Such lists of tallies can be put one after another
  (`Counted.append`), also those of different controls (`Counted.append_walks`).
* `Template.counted_of_expandControl`: what a control reports is of this sort.
* `Template.statistics_of_expand`: what this says of the statistics of a whole template. -/

namespace LayerStencil

/-! ### Sums of tallies -/

namespace Tally

/-- The tallies of the control whose opening marker starts at a given place. -/
def ofStart (k : Nat) (ts : List Tally) : List Tally := ts.filter (·.start = k)

theorem mem_ofStart {x : Tally} {k : Nat} {ts : List Tally} :
    x ∈ ofStart k ts ↔ x ∈ ts ∧ x.start = k := by
  simp [ofStart]

theorem ofStart_append (k : Nat) (ts us : List Tally) :
    ofStart k (ts ++ us) = ofStart k ts ++ ofStart k us := List.filter_append _ _

theorem ofStart_singleton (t : Tally) : ofStart t.start [t] = [t] := by simp [ofStart]

theorem ofStart_eq_nil {k : Nat} {ts : List Tally} :
    ofStart k ts = [] ↔ k ∉ ts.map Tally.start := by
  simp [ofStart, List.filter_eq_nil_iff]

theorem length_ofStart (k : Nat) (ts : List Tally) :
    (ofStart k ts).length = (ts.map Tally.start).count k := by
  rw [ofStart, ← List.countP_eq_length_filter, List.count, List.countP_map]
  exact List.countP_congr fun t _ => by simp

/-- `us` has one tally for each place at which a tally of `ts` starts, with the sums of these. -/
structure Sums (ts us : List Tally) : Prop where
  nodup : (us.map Tally.start).Nodup
  mem_iff : ∀ k, k ∈ us.map Tally.start ↔ k ∈ ts.map Tally.start
  visited : ∀ u ∈ us, u.visited = ((ofStart u.start ts).map Tally.visited).sum
  emitted : ∀ u ∈ us, u.emitted = ((ofStart u.start ts).map Tally.emitted).sum
  same : ∀ u ∈ us, ∃ t ∈ ts, t.start = u.start ∧ t.kind = u.kind ∧ t.line = u.line

theorem Sums.nil : Sums [] [] := ⟨List.nodup_nil, by simp, nofun, nofun, nofun⟩

theorem Sums.perm {ts us vs : List Tally} (h : Sums ts us) (hperm : vs.Perm us) : Sums ts vs where
  nodup := (hperm.map Tally.start).nodup_iff.mpr h.nodup
  mem_iff k := (hperm.map Tally.start).mem_iff.trans (h.mem_iff k)
  visited u hu := h.visited u (hperm.mem_iff.mp hu)
  emitted u hu := h.emitted u (hperm.mem_iff.mp hu)
  same u hu := h.same u (hperm.mem_iff.mp hu)

theorem map_start_addTo (t : Tally) : ∀ us : List Tally, (t.addTo us).map Tally.start =
    if t.start ∈ us.map Tally.start then us.map Tally.start else us.map Tally.start ++ [t.start]
  | [] => rfl
  | u :: us => by
    by_cases h : u.start = t.start
    · simp [addTo, h]
    · have hne : t.start ≠ u.start := Ne.symm h
      simp only [addTo, if_neg h, List.map_cons, map_start_addTo t us, List.mem_cons, hne, false_or]
      split <;> rfl

/-- What is in the sums when a tally has been added: an old sum, the tally itself, or the sum to
which it was added. -/
theorem mem_addTo {t w : Tally} : ∀ {us : List Tally}, (us.map Tally.start).Nodup →
    w ∈ t.addTo us → (w ∈ us ∧ w.start ≠ t.start) ∨ (t.start ∉ us.map Tally.start ∧ w = t) ∨
      ∃ u ∈ us, u.start = t.start ∧
        w = { u with visited := u.visited + t.visited, emitted := u.emitted + t.emitted }
  | [], _, h => by
    rw [addTo, List.mem_singleton] at h
    exact .inr (.inl ⟨by simp, h⟩)
  | u :: us, hnodup, h => by
    rw [List.map_cons, List.nodup_cons] at hnodup
    rw [addTo] at h
    split at h
    · rename_i heq
      rcases List.mem_cons.mp h with rfl | h
      · exact .inr (.inr ⟨u, List.mem_cons_self, heq, rfl⟩)
      · refine .inl ⟨List.mem_cons_of_mem _ h, fun hw => hnodup.1 ?_⟩
        rw [heq, ← hw]
        exact List.mem_map_of_mem h
    · rename_i hne
      rcases List.mem_cons.mp h with rfl | h
      · exact .inl ⟨List.mem_cons_self, hne⟩
      · rcases mem_addTo hnodup.2 h with ⟨hw, hstart⟩ | ⟨hnew, rfl⟩ | ⟨v, hv, hstart, rfl⟩
        · exact .inl ⟨List.mem_cons_of_mem _ hw, hstart⟩
        · refine .inr (.inl ⟨?_, rfl⟩)
          rw [List.map_cons, List.mem_cons, not_or]
          exact ⟨Ne.symm hne, hnew⟩
        · exact .inr (.inr ⟨v, List.mem_cons_of_mem _ hv, hstart, rfl⟩)

/-- **One more tally** is added to the sums. -/
theorem Sums.addTo {ts us : List Tally} (h : Sums ts us) (t : Tally) :
    Sums (ts ++ [t]) (t.addTo us) := by
  have hold : ∀ k, k ≠ t.start → ofStart k (ts ++ [t]) = ofStart k ts := by
    intro k hk
    have hnil : ofStart k [t] = [] := ofStart_eq_nil.mpr (by simpa using hk)
    rw [ofStart_append, hnil, List.append_nil]
  have hhere : ofStart t.start (ts ++ [t]) = ofStart t.start ts ++ [t] := by
    rw [ofStart_append, ofStart_singleton]
  have hnew : t.start ∉ us.map Tally.start → ofStart t.start ts = [] := fun hnot =>
    ofStart_eq_nil.mpr fun hmem => hnot ((h.mem_iff _).mpr hmem)
  constructor
  · rw [map_start_addTo]
    split
    · exact h.nodup
    · rename_i hnot
      exact List.nodup_append.mpr ⟨h.nodup, by simp, fun k hk l hl => by
        rw [List.mem_singleton.mp hl]
        exact fun heq => hnot (heq ▸ hk)⟩
  · intro k
    rw [map_start_addTo, List.map_append, List.mem_append, ← h.mem_iff k]
    split
    · rename_i hmem
      exact ⟨.inl, fun hk => hk.elim id fun hk => by
        rw [List.map_singleton, List.mem_singleton] at hk
        rwa [hk]⟩
    · rw [List.mem_append, List.map_singleton]
  · intro w hw
    rcases mem_addTo h.nodup hw with ⟨hw, hne⟩ | ⟨hnot, rfl⟩ | ⟨u, hu, hstart, rfl⟩
    · rw [hold _ hne, h.visited w hw]
    · rw [hhere, hnew hnot]
      simp
    · show u.visited + t.visited = _
      rw [hstart, hhere, List.map_append, List.sum_append, h.visited u hu, hstart]
      simp
  · intro w hw
    rcases mem_addTo h.nodup hw with ⟨hw, hne⟩ | ⟨hnot, rfl⟩ | ⟨u, hu, hstart, rfl⟩
    · rw [hold _ hne, h.emitted w hw]
    · rw [hhere, hnew hnot]
      simp
    · show u.emitted + t.emitted = _
      rw [hstart, hhere, List.map_append, List.sum_append, h.emitted u hu, hstart]
      simp
  · intro w hw
    rcases mem_addTo h.nodup hw with ⟨hw, -⟩ | ⟨-, rfl⟩ | ⟨u, hu, -, rfl⟩
    · obtain ⟨x, hx, hsame⟩ := h.same w hw
      exact ⟨x, List.mem_append_left _ hx, hsame⟩
    · exact ⟨w, by simp, rfl, rfl, rfl⟩
    · obtain ⟨x, hx, hsame⟩ := h.same u hu
      exact ⟨x, List.mem_append_left _ hx, hsame⟩

theorem sums_foldl : ∀ (ts : List Tally) {before us : List Tally}, Sums before us →
    Sums (before ++ ts) (ts.foldl (fun acc t => t.addTo acc) us)
  | [], before, us, h => by rwa [List.append_nil]
  | t :: ts, before, us, h => by
    rw [List.append_cons]
    exact sums_foldl ts (h.addTo t)

end Tally

/-- The tallies that a sequence of events reports. -/
def Event.tallies (events : List Event) : List Tally := events.filterMap Event.tally?

/-- **The statistics** are the sums of all tallies. -/
theorem Event.sums_statistics (events : List Event) :
    Tally.Sums (Event.tallies events) (Event.statistics events) :=
  (Tally.sums_foldl (Event.tallies events) Tally.Sums.nil).perm (List.mergeSort_perm _ _)

/-! ### Controls and their parts -/

namespace Control

theorem mem_walk_self (c : Control) : c ∈ c.walk := by
  cases c with
  | node => exact List.mem_cons_self

theorem mem_walkAll_of_mem {c : Control} : ∀ {cs : List Control}, c ∈ cs → c ∈ walkAll cs
  | d :: cs, h => by
    rw [walkAll]
    rcases List.mem_cons.mp h with rfl | h
    · exact List.mem_append_left _ (mem_walk_self c)
    · exact List.mem_append_right _ (mem_walkAll_of_mem h)

mutual

/-- A walk holds the children of all its controls. -/
theorem mem_walk_of_mem_children {c d : Control} (hd : d ∈ c.children) :
    ∀ {e : Control}, c ∈ e.walk → d ∈ e.walk
  | .node kind condition opening closing line children, hc => by
    rw [walk] at hc ⊢
    rcases List.mem_cons.mp hc with rfl | hc
    · exact List.mem_cons_of_mem _ (mem_walkAll_of_mem hd)
    · exact List.mem_cons_of_mem _ (mem_walkAll_of_mem_children hd hc)

theorem mem_walkAll_of_mem_children {c d : Control} (hd : d ∈ c.children) :
    ∀ {cs : List Control}, c ∈ walkAll cs → d ∈ walkAll cs
  | e :: cs, hc => by
    rw [walkAll] at hc ⊢
    rcases List.mem_append.mp hc with hc | hc
    · exact List.mem_append_left _ (mem_walk_of_mem_children hd hc)
    · exact List.mem_append_right _ (mem_walkAll_of_mem_children hd hc)

end

/-- The place at which the opening marker starts, under which the visits are recorded. -/
def start (c : Control) : Nat := c.opening.start

end Control

/-- **Opening markers start at different places.** -/
theorem Template.nodup_starts {text : List Char} {t : Template} (h : Template.parse text = .ok t) :
    (t.walk.map Control.start).Nodup := by
  obtain ⟨-, hmarkers, -⟩ := (Template.parse_eq_ok_iff_nested text).2.1 t h
  have hsublist := Control.sublist_markersAll Marker.start (fun _ _ => rfl) t.controls
  rw [hmarkers] at hsublist
  have hscan : ((Marker.scan text).map Marker.start).Pairwise (· < ·) :=
    List.pairwise_map.mpr ((Marker.pairwise_scan text).imp And.left)
  exact (hscan.sublist hsublist).imp Nat.ne_of_lt

/-! ### Reports of controls -/

/-- The tally is what a visit of the control reports in some scope. -/
structure Tally.Reports (m : Model) (x : Tally) (c : Control) : Prop where
  start : x.start = c.start
  kind : x.kind = c.kind
  line : x.line = c.line
  emitted_le : x.emitted ≤ x.visited
  unconditional : c.condition = none → x.emitted = x.visited
  domain : ∃ scope items, m.domain scope c.kind = .ok items ∧ x.visited = items.length

open Tally (ofStart ofStart_append ofStart_eq_nil ofStart_singleton mem_ofStart)

/-- The tallies are reports of the controls in `walk`, and a control inside another one reports as
often as that one has kept an item. -/
structure Counted (m : Model) (walk : List Control) (ts : List Tally) : Prop where
  reports : ∀ x ∈ ts, ∃ c ∈ walk, x.Reports m c
  nested : ∀ c ∈ walk, ∀ d ∈ c.children,
    (ofStart d.start ts).length = ((ofStart c.start ts).map Tally.emitted).sum

namespace Counted

variable {m : Model} {walk walk' : List Control} {ts us : List Tally}

theorem nil : Counted m walk [] := ⟨nofun, fun _ _ _ _ => rfl⟩

theorem append (hts : Counted m walk ts) (hus : Counted m walk us) : Counted m walk (ts ++ us) where
  reports x hx := (List.mem_append.mp hx).elim (hts.reports x) (hus.reports x)
  nested c hc d hd := by
    rw [ofStart_append, ofStart_append, List.length_append, List.map_append, List.sum_append,
      hts.nested c hc d hd, hus.nested c hc d hd]

/-- No tally is reported under a place at which none of the controls starts. -/
theorem ofStart_eq_nil (h : Counted m walk ts) {k : Nat} (hk : k ∉ walk.map Control.start) :
    ofStart k ts = [] := by
  refine Tally.ofStart_eq_nil.mpr fun hmem => ?_
  obtain ⟨x, hx, rfl⟩ := List.mem_map.mp hmem
  obtain ⟨c, hc, hreports⟩ := h.reports x hx
  exact hk (hreports.start ▸ List.mem_map_of_mem hc)

/-- Tallies of controls that start at different places. -/
theorem append_walks (hts : Counted m walk ts) (hus : Counted m walk' us)
    (hnodup : ((walk ++ walk').map Control.start).Nodup)
    (hwalk : ∀ c ∈ walk, ∀ d ∈ c.children, d ∈ walk)
    (hwalk' : ∀ c ∈ walk', ∀ d ∈ c.children, d ∈ walk') :
    Counted m (walk ++ walk') (ts ++ us) := by
  rw [List.map_append, List.nodup_append] at hnodup
  have hleft : ∀ c ∈ walk, ofStart c.start us = [] := fun c hc => hus.ofStart_eq_nil fun hmem =>
    hnodup.2.2 _ (List.mem_map_of_mem hc) _ hmem rfl
  have hright : ∀ c ∈ walk', ofStart c.start ts = [] := fun c hc => hts.ofStart_eq_nil fun hmem =>
    hnodup.2.2 _ hmem _ (List.mem_map_of_mem hc) rfl
  constructor
  · intro x hx
    rcases List.mem_append.mp hx with hx | hx
    · obtain ⟨c, hc, hreports⟩ := hts.reports x hx
      exact ⟨c, List.mem_append_left _ hc, hreports⟩
    · obtain ⟨c, hc, hreports⟩ := hus.reports x hx
      exact ⟨c, List.mem_append_right _ hc, hreports⟩
  · intro c hc d hd
    rw [ofStart_append, ofStart_append]
    rcases List.mem_append.mp hc with hc | hc
    · rw [hleft c hc, hleft d (hwalk c hc d hd), List.append_nil, List.append_nil]
      exact hts.nested c hc d hd
    · rw [hright c hc, hright d (hwalk' c hc d hd)]
      exact hus.nested c hc d hd

/-- The report of a control behind those of the controls inside it, each of which has reported as
often as it keeps an item. -/
theorem report {c : Control} {x : Tally}
    (h : Counted m (Control.walkAll c.children) ts) (hown : x.Reports m c)
    (hself : c.start ∉ (Control.walkAll c.children).map Control.start)
    (honce : ∀ d ∈ c.children, (ofStart d.start ts).length = x.emitted) :
    Counted m (c :: Control.walkAll c.children) (ts ++ [x]) ∧
      ofStart c.start (ts ++ [x]) = [x] := by
  have hinside : ∀ d ∈ Control.walkAll c.children,
      ofStart d.start (ts ++ [x]) = ofStart d.start ts := by
    intro d hd
    have hne : ofStart d.start [x] = [] := by
      refine Tally.ofStart_eq_nil.mpr ?_
      rw [List.map_singleton, List.mem_singleton, hown.start]
      exact fun heq => hself (List.mem_map.mpr ⟨d, hd, heq⟩)
    rw [ofStart_append, hne, List.append_nil]
  have hselfOnce : ofStart c.start (ts ++ [x]) = [x] := by
    rw [ofStart_append, h.ofStart_eq_nil hself, ← hown.start]
    exact ofStart_singleton x
  refine ⟨⟨fun y hy => ?_, fun e he d hd => ?_⟩, hselfOnce⟩
  · rcases List.mem_append.mp hy with hy | hy
    · obtain ⟨e, he, hreports⟩ := h.reports y hy
      exact ⟨e, List.mem_cons_of_mem _ he, hreports⟩
    · obtain rfl : y = x := List.mem_singleton.mp hy
      exact ⟨c, List.mem_cons_self, hown⟩
  · rcases List.mem_cons.mp he with rfl | he
    · rw [hinside d (Control.mem_walkAll_of_mem hd), honce d hd, hselfOnce]
      exact (Nat.add_zero _).symm
    · rw [hinside d (Control.mem_walkAll_of_mem_children hd he), hinside e he]
      exact h.nested e he d hd

end Counted

/-! ### Expansions -/

namespace Event

theorem tallies_append (es fs : List Event) : tallies (es ++ fs) = tallies es ++ tallies fs :=
  List.filterMap_append

theorem tallies_text (s : List Char) (es : List Event) : tallies (.text s :: es) = tallies es := rfl

theorem tallies_guarded (guard : Option String) (events : List Event) :
    tallies (Template.guarded guard events) = tallies events := by
  cases guard with
  | none => rfl
  | some g =>
    show tallies (events ++ [.closeGuard g]) = tallies events
    rw [tallies_append]
    exact List.append_nil _

end Event

namespace Template

open Event (tallies tallies_append tallies_text tallies_guarded)

/-- The control has reported once, with the number of the items that it visits in the scope. -/
def ReportsOnce (m : Model) (scope : Scope) (c : Control) (ts : List Tally) : Prop :=
  ∃ x items, ofStart c.start ts = [x] ∧ m.domain scope c.kind = .ok items ∧
    x.visited = items.length

variable {m : Model} {text : List Char}

mutual

/-- **What a control reports**: its own tally once, and each control inside it as often as the one
around it keeps an item. -/
theorem counted_of_expandControl (scope : Scope) : ∀ (c : Control) {events : List Event},
    (c.walk.map Control.start).Nodup → expandControl m text scope c = .ok events →
      Counted m c.walk (tallies events) ∧ ReportsOnce m scope c (tallies events)
  | .node kind condition opening closing line children, events, hnodup, h => by
    rw [Control.walk, List.map_cons, List.nodup_cons] at hnodup
    obtain ⟨hself, hnodup⟩ := hnodup
    -- Each child reports once for every item that is kept.
    obtain ⟨items, n, visited, hdomain, ⟨hle, hall, hcounted, honce⟩, rfl⟩ :=
      exists_of_expandControl h
        (P := fun k n es => n ≤ k ∧ (condition = none → n = k) ∧
          Counted m (Control.walkAll children) (tallies es) ∧
          ∀ d ∈ children, (ofStart d.start (tallies es)).length = n)
        ⟨Nat.le_refl 0, fun _ => rfl, Counted.nil, fun _ _ => rfl⟩
        (fun item k n es hkeeps ⟨hle, _, hcounted, honce⟩ =>
          ⟨Nat.le_succ_of_le hle, (by rintro rfl; cases hkeeps), hcounted, honce⟩)
        (by
          intro item k n es body hbody ⟨hle, hall, hcounted, honce⟩
          obtain ⟨hcounted', honce'⟩ := counted_of_expandBody _ _ _ _ children hnodup hbody
          rw [tallies_append, tallies_guarded]
          refine ⟨Nat.succ_le_succ hle, fun hnone => congrArg (· + 1) (hall hnone),
            hcounted'.append hcounted, fun d hd => ?_⟩
          obtain ⟨x, _, hx, -⟩ := honce' d hd
          rw [ofStart_append, List.length_append, hx, honce d hd, List.length_singleton,
            Nat.add_comm])
    have hreport := hcounted.report (c := .node kind condition opening closing line children)
      (x := ⟨opening.start, kind, line, items.length, n⟩)
      ⟨rfl, rfl, rfl, hle, hall, scope, items, hdomain, rfl⟩ hself honce
    rw [tallies_append, Control.walk]
    exact ⟨hreport.1, _, items, hreport.2, hdomain, rfl⟩

theorem counted_of_expandBody (scope : Scope) (values : Values) (start stop : Nat) :
    ∀ (cs : List Control) {events : List Event}, ((Control.walkAll cs).map Control.start).Nodup →
      expandBody m text scope values start stop cs = .ok events →
        Counted m (Control.walkAll cs) (tallies events) ∧
          ∀ c ∈ cs, ReportsOnce m scope c (tallies events)
  | [], events, _, h => by
    obtain ⟨s, -, rfl⟩ := exists_of_expandBody_nil h
    exact ⟨Counted.nil, nofun⟩
  | c :: cs, events, hnodup, h => by
    obtain ⟨s, inner, rest, -, hinner, hrest, rfl⟩ := exists_of_expandBody_cons h
    rw [Control.walkAll] at hnodup ⊢
    have hparts := List.nodup_append.mp (List.map_append ▸ hnodup)
    obtain ⟨hcounted, honce⟩ := counted_of_expandControl scope c hparts.1 hinner
    obtain ⟨hcounted', honce'⟩ :=
      counted_of_expandBody scope values c.closing.stop stop cs hparts.2.1 hrest
    rw [tallies_text, tallies_append]
    refine ⟨hcounted.append_walks hcounted' hnodup
      (fun e he d hd => Control.mem_walk_of_mem_children hd he)
      (fun e he d hd => Control.mem_walkAll_of_mem_children hd he), fun d hd => ?_⟩
    rcases List.mem_cons.mp hd with rfl | hd
    · obtain ⟨x, items, hx, hitems⟩ := honce
      refine ⟨x, items, ?_, hitems⟩
      rw [ofStart_append, hx, hcounted'.ofStart_eq_nil, List.append_nil]
      exact fun hmem => hparts.2.2 _ (List.mem_map_of_mem (Control.mem_walk_self d)) _ hmem rfl
    · obtain ⟨x, items, hx, hitems⟩ := honce' d hd
      refine ⟨x, items, ?_, hitems⟩
      rw [ofStart_append, hx, hcounted.ofStart_eq_nil, List.nil_append]
      exact fun hmem => hparts.2.2 _ hmem _
        (List.mem_map_of_mem (Control.mem_walkAll_of_mem hd)) rfl

end

/-- The statistics of a template count what an expansion over the model has visited: each control
has at most one entry, its own; a control outside all others has one, with the size of its domain; a
control inside another one has an entry if and only if that one has kept an item, with a multiple of
the number of items kept; and no control keeps more items than it visits, or less if it has no
condition. -/
structure Exact (m : Model) (t : Template) (stats : List Tally) : Prop where
  nodup : (t.walk.map Control.start).Nodup
  single : ∀ c ∈ t.walk, (ofStart c.start stats).length ≤ 1
  owned : ∀ u ∈ stats, ∃ c ∈ t.walk, u.start = c.start ∧ u.kind = c.kind ∧ u.line = c.line ∧
    u.emitted ≤ u.visited ∧ (c.condition = none → u.emitted = u.visited)
  top : ∀ c ∈ t.controls, ∃ u ∈ stats, u.start = c.start ∧
    ∃ items, m.domain [] c.kind = .ok items ∧ u.visited = items.length
  nested_iff : ∀ c ∈ t.walk, ∀ d ∈ c.children,
    (∃ u ∈ stats, u.start = d.start) ↔ ∃ v ∈ stats, v.start = c.start ∧ 0 < v.emitted
  nested_cond : ∀ c ∈ t.walk, ∀ d ∈ c.children, d.kind = .cond →
    ∀ u ∈ stats, u.start = d.start → ∀ v ∈ stats, v.start = c.start → u.visited = v.emitted
  nested_each : ∀ c ∈ t.walk, ∀ d ∈ c.children, ∀ kind, d.kind = .each kind → ¬ kind.isScoped →
    ∀ u ∈ stats, u.start = d.start → ∀ v ∈ stats, v.start = c.start →
      u.visited = v.emitted * (m.items kind).length

section Totals
variable {t : Template} {ts stats : List Tally} (hnodup : (t.walk.map Control.start).Nodup)
  (hcounted : Counted m t.walk ts) (hsums : Tally.Sums ts stats)
include hnodup hcounted hsums

omit hsums in
/-- What is recorded under the start of a control is reported by this control. -/
theorem reports_of_mem_ofStart {c : Control} (hc : c ∈ t.walk) {x : Tally}
    (hx : x ∈ ofStart c.start ts) : x.Reports m c := by
  obtain ⟨hx, hstart⟩ := mem_ofStart.mp hx
  obtain ⟨d, hd, hreports⟩ := hcounted.reports x hx
  obtain rfl : d = c := List.inj_on_of_nodup_map hnodup hd hc (hreports.start.symm.trans hstart)
  exact hreports

omit hnodup in
theorem length_eq_emitted {c d : Control} (hc : c ∈ t.walk) (hd : d ∈ c.children) {v : Tally}
    (hv : v ∈ stats) (hstart : v.start = c.start) : (ofStart d.start ts).length = v.emitted := by
  rw [hcounted.nested c hc d hd, hsums.emitted v hv, hstart]

omit hnodup hcounted in
theorem exists_entry_iff (k : Nat) : (∃ u ∈ stats, u.start = k) ↔ ofStart k ts ≠ [] := by
  rw [Ne, ofStart_eq_nil, not_not, ← hsums.mem_iff k, List.mem_map]

/-- A control inside another one that visits equally many items in all scopes. -/
theorem visited_eq {c d : Control} (hc : c ∈ t.walk) (hd : d ∈ c.children) {size : Nat}
    (hsize : ∀ scope items, m.domain scope d.kind = .ok items → items.length = size) {u v : Tally}
    (hu : u ∈ stats) (hustart : u.start = d.start) (hv : v ∈ stats) (hvstart : v.start = c.start) :
    u.visited = v.emitted * size := by
  have hdwalk : d ∈ t.walk := Control.mem_walkAll_of_mem_children hd hc
  have hconst : ∀ n ∈ (ofStart d.start ts).map Tally.visited, n = size := by
    intro n hn
    obtain ⟨x, hx, rfl⟩ := List.mem_map.mp hn
    obtain ⟨scope, items, hdomain, hvisited⟩ :=
      (reports_of_mem_ofStart hnodup hcounted hdwalk hx).domain
    rw [hvisited, hsize scope items hdomain]
  rw [hsums.visited u hu, hustart, List.sum_eq_card_nsmul _ size hconst, List.length_map,
    length_eq_emitted hcounted hsums hc hd hv hvstart, Nat.nsmul_eq_mul]

end Totals

/-- **Statistics are exact.** -/
theorem statistics_of_expand {m : Model} {text : List Char} {t : Template} {events : List Event}
    (hparse : parse text = .ok t) (hexpand : t.expand m = .ok events) :
    t.Exact m (Event.statistics events) := by
  have hnodup := nodup_starts hparse
  have hsums := Event.sums_statistics events
  obtain ⟨hcounted, honce⟩ := counted_of_expandBody [] .empty 0 _ t.controls hnodup hexpand
  refine ⟨hnodup, fun c _ => ?_, fun u hu => ?_, fun c hc => ?_, fun c hc d hd => ?_,
    fun c hc d hd hkind u hu hustart v hv hvstart => ?_,
    fun c hc d hd kind hkind hscoped u hu hustart v hv hvstart => ?_⟩
  · rw [Tally.length_ofStart]
    exact List.nodup_iff_count_le_one.mp hsums.nodup _
  · obtain ⟨x, hx, hstart, hkind, hline⟩ := hsums.same u hu
    obtain ⟨c, hc, hreports⟩ := hcounted.reports x hx
    have hucstart : u.start = c.start := hstart.symm.trans hreports.start
    have hall : ∀ y ∈ ofStart u.start (tallies events), y.Reports m c := fun y hy =>
      reports_of_mem_ofStart hnodup hcounted hc (hucstart ▸ hy)
    refine ⟨c, hc, hucstart, hkind.symm.trans hreports.kind, hline.symm.trans hreports.line, ?_,
      fun hnone => ?_⟩
    · rw [hsums.emitted u hu, hsums.visited u hu]
      exact List.sum_le_sum fun y hy => (hall y hy).emitted_le
    · rw [hsums.emitted u hu, hsums.visited u hu]
      exact congrArg List.sum (List.map_congr_left fun y hy => (hall y hy).unconditional hnone)
  · obtain ⟨x, items, hx, hdomain, hvisited⟩ := honce c hc
    obtain ⟨u, hu, hstart⟩ := (exists_entry_iff hsums c.start).mpr (by rw [hx]; simp)
    refine ⟨u, hu, hstart, items, hdomain, ?_⟩
    rw [hsums.visited u hu, hstart, hx]
    simpa using hvisited
  · rw [exists_entry_iff hsums, ← List.length_pos_iff]
    constructor
    · intro hpos
      have hne : ofStart c.start (tallies events) ≠ [] := by
        intro hnil
        rw [hcounted.nested c hc d hd, hnil] at hpos
        exact absurd hpos (Nat.lt_irrefl 0)
      obtain ⟨v, hv, hstart⟩ := (exists_entry_iff hsums c.start).mpr hne
      exact ⟨v, hv, hstart, length_eq_emitted hcounted hsums hc hd hv hstart ▸ hpos⟩
    · rintro ⟨v, hv, hstart, hpos⟩
      rwa [length_eq_emitted hcounted hsums hc hd hv hstart]
  · have hsize : ∀ scope items, m.domain scope d.kind = .ok items → items.length = 1 := by
      intro scope items hdomain
      rw [hkind] at hdomain
      cases hdomain
      rfl
    rw [visited_eq hnodup hcounted hsums hc hd hsize hu hustart hv hvstart, Nat.mul_one]
  · refine visited_eq hnodup hcounted hsums hc hd (fun scope items hdomain => ?_) hu hustart hv
      hvstart
    rw [hkind, Model.domain, if_neg hscoped] at hdomain
    cases hdomain
    rfl

/-- A loop over flags in one over enums, with conditions that never hold and always hold. -/
def countedLoops : Template where
  text := ("@foreach enum\n@foreach flag\n@if(False)\n@if(True)\n" ++
    "@end if\n@end if\n@end flag\n@end enum\n").toList
  controls := [.node (.each .enum) none ⟨0, 14, 0, .opens "enum" none⟩
    ⟨75, 85, 75, .closes "enum"⟩ 1
    [.node (.each .flag) none ⟨14, 28, 14, .opens "flag" none⟩ ⟨65, 75, 65, .closes "flag"⟩ 2
      [.node .cond (some ⟨"False".toList, .literal (.bool false)⟩)
        ⟨28, 39, 28, .opens "if" (some "False".toList)⟩ ⟨57, 65, 57, .closes "if"⟩ 3
        [.node .cond (some ⟨"True".toList, .literal (.bool true)⟩)
          ⟨39, 49, 39, .opens "if" (some "True".toList)⟩ ⟨49, 57, 49, .closes "if"⟩ 4 []]]]]

/-- Two enums and two flags. -/
def countedModel : Model where
  __ := Model.empty
  enums := [default, default]
  flags := [default, default]

/-- The conditional part in the other one has no entry. -/
theorem statistics_of_expand_countedLoops : parse countedLoops.text = .ok countedLoops ∧
    ∃ events, countedLoops.expand countedModel = .ok events ∧
      Event.statistics events = [⟨0, .each .enum, 1, 2, 2⟩, ⟨14, .each .flag, 2, 4, 4⟩,
        ⟨28, .cond, 3, 4, 0⟩] ∧
      countedLoops.Exact countedModel (Event.statistics events) := by
  have hparse : parse countedLoops.text = .ok countedLoops := by cbv
  let flag : List Event := [.text [], .tally ⟨28, .cond, 3, 1, 0⟩, .text []]
  let enum : List Event :=
    .text [] :: (flag ++ flag ++ [.tally ⟨14, .each .flag, 2, 2, 2⟩, .text []])
  have hexpand : countedLoops.expand countedModel =
      .ok (.text [] :: (enum ++ enum ++ [.tally ⟨0, .each .enum, 1, 2, 2⟩, .text []])) := rfl
  exact ⟨hparse, _, hexpand, by cbv, statistics_of_expand hparse hexpand⟩

end Template

end LayerStencil
