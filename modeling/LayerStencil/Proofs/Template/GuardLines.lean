import LayerStencil.Proofs.Segment.RoundTrip
import LayerStencil.Proofs.Template.DirectiveLine
import LayerStencil.Proofs.Template.Visit

/-! # Guard lines

An item that an extension gates is printed between two lines of the preprocessor. If all markers of
a template begin at the start of a line, these lines never share a line with other output, whatever
the values of the fields hold; and the two lines of one item enclose those of the items inside it.

* `Segment.getLast?_of_substitute`: a text that ends with a line break still does when it is filled.
* `Event.Tidy`: the output is whole lines, and so is what precedes each guard line in it; the guard
  lines match. Sequences of events of this sort can be put one after another (`Tidy.append`) and
  between the lines of a guard (`Tidy.guarded`).
* `Template.tidy_of_expandControl`: what a control prints is of this sort.
* `Template.guardLines_of_expand`: what this says of the output of a whole template. -/

namespace LayerStencil

open Marker (WholeLines wholeLines_nil)

/-! ### Filled text -/

namespace Segment

theorem getLast?_escape (s : List Char) : (escape s).getLast? = s.getLast? := by
  induction s with
  | nil => rfl
  | cons c s ih =>
    simp only [escape, List.flatMap_cons] at ih ⊢
    rw [List.getLast?_append, ih, List.getLast?_cons]
    cases s.getLast? with
    | some d => rfl
    | none => split <;> rfl

/-- The segment at the end of a text that ends with a line break is a literal run that does. -/
theorem getLast?_of_written {s : Segment} (h : s.written.getLast? = some '\n') {values : Values}
    {out : List Char} (hfill : fill values s = .ok out) : out.getLast? = some '\n' := by
  cases s with
  | text s =>
    cases hfill
    rwa [written, getLast?_escape] at h
  | field name =>
    rw [written, List.getLast?_append] at h
    cases h

theorem getLast?_of_fillAll {values : Values} (cs : List Char) :
    ∀ {out : List Char}, (scan cs).2 = [] → cs.getLast? = some '\n' →
      fillAll values (scan cs).1 = .ok out → out.getLast? = some '\n' := by
  induction hn : cs.length using Nat.strongRecOn generalizing cs with
  | ind n ih =>
    subst hn
    intro out hread hlast hfill
    cases hnext : next? cs with
    | none =>
      rw [scan_of_next?_eq_none hnext] at hread
      rw [show cs = [] from hread] at hlast
      cases hlast
    | some found =>
      obtain ⟨s, rest⟩ := found
      obtain ⟨-, hcs⟩ := written_of_next? hnext
      rw [scan_of_next? hnext] at hread hfill
      rw [fillAll] at hfill
      cases hhead : fill values s with
      | error e => rw [hhead] at hfill; cases hfill
      | ok head =>
        cases htail : fillAll values (scan rest).1 with
        | error e => rw [hhead, htail] at hfill; cases hfill
        | ok tail =>
          rw [hhead, htail] at hfill
          cases hfill
          rw [hcs, List.getLast?_append] at hlast
          cases hrest : rest.getLast? with
          | none =>
            -- The segment is the last one.
            obtain rfl : rest = [] := List.getLast?_eq_none_iff.mp hrest
            rw [scan_of_next?_eq_none rfl] at htail
            cases htail
            rw [List.append_nil]
            exact getLast?_of_written (by simpa using hlast) hhead
          | some c =>
            rw [hrest] at hlast
            obtain rfl : c = '\n' := by simpa using hlast
            have := ih rest.length (length_lt_of_next? hnext) rest rfl hread hrest htail
            rw [List.getLast?_append, this]
            rfl

/-- **A line break at the end of a text** stays at its end when fields are replaced. -/
theorem getLast?_of_substitute {values : Values} {cs out : List Char}
    (hlast : cs.getLast? = some '\n') (h : substitute values cs = .ok out) :
    out.getLast? = some '\n' := by
  rw [substitute_eq_substituteSegments, substituteSegments] at h
  split at h
  · cases h
  · rename_i segs hsegs
    have hscan := segments_eq_ok_iff.mp hsegs
    have hfill : fillAll values (scan cs).1 = .ok out := by rw [hscan]; exact h
    exact getLast?_of_fillAll cs (by rw [hscan]) hlast hfill

theorem wholeLines_of_substitute {values : Values} {cs out : List Char} (hlines : WholeLines cs)
    (h : substitute values cs = .ok out) : WholeLines out := by
  cases hlast : cs.getLast? with
  | none =>
    rw [List.getLast?_eq_none_iff.mp hlast] at h
    cases h
    exact wholeLines_nil
  | some c =>
    obtain rfl := hlines c hlast
    rintro d hd
    rw [getLast?_of_substitute hlast h] at hd
    exact (Option.some.inj hd).symm

end Segment

/-! ### Starts of lines -/

/-- A line begins at the position: it is the first one, or a line break precedes it. -/
def Text.IsLineStart (text : List Char) (i : Nat) : Prop := i = 0 ∨ text[i - 1]? = some '\n'

/-- Both markers of the control begin where a line begins. -/
def Control.OnLines (text : List Char) (c : Control) : Prop :=
  Text.IsLineStart text c.opening.start ∧ Text.IsLineStart text c.closing.start

instance (text : List Char) (i : Nat) : Decidable (Text.IsLineStart text i) :=
  inferInstanceAs (Decidable (_ ∨ _))

instance (text : List Char) (c : Control) : Decidable (c.OnLines text) :=
  inferInstanceAs (Decidable (_ ∧ _))

/-- Up to the start of a line there are whole lines. -/
theorem Text.IsLineStart.wholeLines_slice {text : List Char} {stop : Nat}
    (h : Text.IsLineStart text stop) (start : Nat) : WholeLines (Text.slice text start stop) := by
  rcases Nat.lt_or_ge start stop with hlt | hge
  · obtain rfl | hbreak := h
    · omega
    intro c hc
    have hindex : (text.drop start)[stop - start - 1]? = some '\n' := by
      rw [List.getElem?_drop, ← hbreak]
      congr 1; omega
    rw [Text.slice, List.getLast?_take, if_neg (by omega), hindex] at hc
    exact (Option.some.inj hc).symm
  · rw [Text.slice_eq_nil _ hge]
    exact wholeLines_nil

theorem Template.wholeLines_of_fill {text : List Char} {values : Values} {start stop : Nat}
    {s : List Char} (hstop : Text.IsLineStart text stop)
    (h : Template.fill text values start stop = .ok s) : WholeLines s := by
  unfold Template.fill at h
  split at h <;> cases h
  rename_i hs
  exact Segment.wholeLines_of_substitute (hstop.wholeLines_slice start) hs

/-! ### Tidy sequences of events -/

namespace Event

/-- Does the event print a guard line? -/
def isGuard : Event → Bool
  | openGuard _ => true
  | closeGuard _ => true
  | _ => false

/-- **Bracket words** of guard lines: each one that opens has one that closes and names the same
macro. -/
inductive Matched : List Event → Prop
  | nil : Matched []
  | pair {macroName : String} {inner rest : List Event} (hinner : Matched inner)
      (hrest : Matched rest) :
      Matched (openGuard macroName :: (inner ++ closeGuard macroName :: rest))

theorem Matched.append {es fs : List Event} (hes : Matched es) (hfs : Matched fs) :
    Matched (es ++ fs) := by
  induction hes with
  | nil => exact hfs
  | pair hinner _ _ ih =>
    rw [List.cons_append, List.append_assoc, List.cons_append]
    exact .pair hinner ih

/-- What is printed before each guard line is whole lines. -/
def GuardsOnLines (events : List Event) : Prop :=
  ∀ before e after, events = before ++ e :: after → e.isGuard → WholeLines (printAll before)

/-- The events print whole lines, and before each guard line as well; the guard lines match. -/
structure Tidy (events : List Event) : Prop where
  whole : WholeLines (printAll events)
  guards : GuardsOnLines events
  matched : Matched (events.filter isGuard)

theorem printAll_append (es fs : List Event) :
    printAll (es ++ fs) = printAll es ++ printAll fs := by
  rw [printAll, List.flatMap_append]; rfl

theorem printAll_singleton (e : Event) : printAll [e] = e.printed := by
  rw [printAll, List.flatMap_singleton]

theorem GuardsOnLines.append {es fs : List Event} (hwhole : WholeLines (printAll es))
    (hes : GuardsOnLines es) (hfs : GuardsOnLines fs) : GuardsOnLines (es ++ fs) := by
  intro before e after hsplit hguard
  rcases List.append_eq_append_iff.mp hsplit with ⟨mid, rfl, hmid⟩ | ⟨mid, rfl, hmid⟩
  · rw [printAll_append]
    exact hwhole.append (hfs mid e after hmid hguard)
  · cases mid with
    | nil =>
      rw [List.append_nil] at hwhole
      exact hwhole
    | cons d mid =>
      obtain ⟨rfl, -⟩ := List.cons.inj hmid
      exact hes before e mid rfl hguard

theorem guardsOnLines_singleton (e : Event) : GuardsOnLines [e] := by
  intro before d after hsplit _
  obtain rfl : before = [] := by
    cases before with
    | nil => rfl
    | cons _ before => exact absurd (congrArg List.length hsplit) (by simp)
  exact wholeLines_nil

theorem Tidy.nil : Tidy [] := ⟨wholeLines_nil, by simp [GuardsOnLines], .nil⟩

theorem Tidy.append {es fs : List Event} (hes : Tidy es) (hfs : Tidy fs) : Tidy (es ++ fs) := by
  refine ⟨?_, hes.guards.append hes.whole hfs.guards, ?_⟩
  · rw [printAll_append]
    exact hes.whole.append hfs.whole
  · rw [List.filter_append]
    exact hes.matched.append hfs.matched

/-- An event that prints whole lines and is no guard line. -/
theorem Tidy.single {e : Event} (hwhole : WholeLines e.printed) (he : e.isGuard = false) :
    Tidy [e] := by
  refine ⟨by rwa [printAll_singleton], guardsOnLines_singleton e, ?_⟩
  rw [List.filter_cons_of_neg (by simp [he]), List.filter_nil]
  exact .nil

theorem wholeLines_guard {e : Event} (he : e.isGuard) : WholeLines e.printed := by
  cases e with
  | openGuard macroName =>
    intro c hc
    rw [printed, List.getLast?_append] at hc
    exact (Option.some.inj hc).symm
  | closeGuard macroName => exact Marker.WholeLines.append_line _ wholeLines_nil
  | text s => cases he
  | tally t => cases he

/-- The events of an item between the lines of its guard. -/
theorem Tidy.guarded {events : List Event} (h : Tidy events) (guard : Option String) :
    Tidy (Template.guarded guard events) := by
  cases guard with
  | none => exact h
  | some macroName =>
    have hopen : WholeLines (printAll [openGuard macroName]) := by
      rw [printAll_singleton]; exact wholeLines_guard rfl
    have hclose : WholeLines (printAll [closeGuard macroName]) := by
      rw [printAll_singleton]; exact wholeLines_guard rfl
    have hinside : WholeLines (printAll ([openGuard macroName] ++ events)) := by
      rw [printAll_append]; exact hopen.append h.whole
    have hguards := (guardsOnLines_singleton (openGuard macroName)).append hopen h.guards
    show Tidy (([openGuard macroName] ++ events) ++ [closeGuard macroName])
    refine ⟨?_, hguards.append hinside (guardsOnLines_singleton _), ?_⟩
    · rw [printAll_append]
      exact hinside.append hclose
    · rw [List.filter_append, List.filter_append]
      exact .pair h.matched .nil

end Event

/-! ### Expansions -/

namespace Template

open Event (Tidy)

variable {m : Model} {text : List Char}

mutual

/-- **What a control prints** is whole lines with its guard lines on lines of their own. -/
theorem tidy_of_expandControl (scope : Scope) : ∀ (c : Control) {events : List Event},
    (∀ d ∈ c.walk, d.OnLines text) → expandControl m text scope c = .ok events → Tidy events
  | .node kind condition opening closing line children, events, hlines, h => by
    rw [Control.walk, List.forall_mem_cons] at hlines
    obtain ⟨⟨-, hclosing⟩, hinside⟩ := hlines
    have hbody : ∀ {item : Item} {body : List Event}, expandBody m text (item :: scope)
        (Scope.values (item :: scope)) opening.stop closing.start children = .ok body →
          Tidy body := by
      intro item body hbody
      obtain ⟨front, s, rfl, hfront, hlast⟩ :=
        exists_of_expandBody _ _ _ _ children hinside hbody
      exact hfront.append (.single (hlast hclosing) rfl)
    obtain ⟨items, n, visited, -, hvisited, rfl⟩ :=
      exists_of_expandControl h (P := fun _ _ es => Tidy es) .nil (fun _ _ _ _ _ hes => hes)
        fun _ _ _ _ _ hinner hes => ((hbody hinner).guarded _).append hes
    exact hvisited.append (.single wholeLines_nil rfl)

/-- What a body prints before the text at its end is tidy, and this text is whole lines if it ends
where a line begins. -/
theorem exists_of_expandBody (scope : Scope) (values : Values) (start stop : Nat) :
    ∀ (cs : List Control) {events : List Event}, (∀ d ∈ Control.walkAll cs, d.OnLines text) →
      expandBody m text scope values start stop cs = .ok events →
        ∃ front s, events = front ++ [.text s] ∧ Tidy front ∧
          (Text.IsLineStart text stop → WholeLines s)
  | [], events, _, h => by
    obtain ⟨s, hs, rfl⟩ := exists_of_expandBody_nil h
    exact ⟨[], s, rfl, .nil, fun hstop => wholeLines_of_fill hstop hs⟩
  | c :: cs, events, hlines, h => by
    rw [Control.walkAll, List.forall_mem_append] at hlines
    obtain ⟨hc, hcs⟩ := hlines
    obtain ⟨s, inner, rest, hs, hinner, hrest, rfl⟩ := exists_of_expandBody_cons h
    have hopening : Text.IsLineStart text c.opening.start := by
      cases c with
      | node => exact (hc _ List.mem_cons_self).1
    have hbefore : Tidy [.text s] := .single (wholeLines_of_fill hopening hs) rfl
    have hcontrol := tidy_of_expandControl scope c hc hinner
    obtain ⟨front, last, rfl, hfront, hlast⟩ :=
      exists_of_expandBody scope values c.closing.stop stop cs hcs hrest
    refine ⟨[.text s] ++ (inner ++ front), last, by simp, ?_, hlast⟩
    exact hbefore.append (hcontrol.append hfront)

end

/-- **Guard lines stand on lines of their own and match.** If all markers begin at the start of a
line, wherever they end, then the output before each guard line is empty or ends with a line break,
and the guard lines in order form a bracket word in which both lines of a pair name one macro. -/
theorem guardLines_of_expand {t : Template} {events : List Event}
    (hlines : ∀ c ∈ t.walk, c.OnLines t.text) (h : t.expand m = .ok events) :
    Event.GuardsOnLines events ∧ Event.Matched (events.filter Event.isGuard) := by
  obtain ⟨front, s, rfl, hfront, -⟩ := exists_of_expandBody [] .empty 0 _ t.controls hlines h
  refine ⟨hfront.guards.append hfront.whole (Event.guardsOnLines_singleton _), ?_⟩
  rw [List.filter_append, List.filter_cons_of_neg (by simp [Event.isGuard]), List.filter_nil,
    List.append_nil]
  exact hfront.matched

/-- A loop over parameters inside a loop over commands. -/
def nestedLoops : Template where
  text := ("@foreach function\nvoid\n@foreach parameter\n@end parameter\n" ++
    "@end function\n").toList
  controls := [.node (.each .command) none ⟨0, 18, 0, .opens "function" none⟩
    ⟨57, 71, 57, .closes "function"⟩ 1
    [.node (.each .parameter) none ⟨23, 42, 23, .opens "parameter" none⟩
      ⟨42, 57, 42, .closes "parameter"⟩ 3 []]]

/-- A command and its parameter, which two extensions gate. -/
def gatedModel : Model where
  __ := Model.empty
  commands := [{ (default : Command) with
    name := "vkRun"
    parameters := [{ (default : Parameter) with
      declaration := { (default : Declaration) with name := "window" } }] }]
  extensions := [{ (default : Extension) with guard := some "A" },
    { (default : Extension) with guard := some "B" }]
  commandExtensions := .ofList [("vkRun", 0)]
  typeExtensions := .ofList [("window", 1)]

/-- A guarded parameter inside a guarded command. -/
theorem guardLines_of_expand_nestedLoops : parse nestedLoops.text = .ok nestedLoops ∧
    (∀ c ∈ nestedLoops.walk, c.OnLines nestedLoops.text) ∧
    ∃ events, nestedLoops.expand gatedModel = .ok events ∧
      Event.printAll events = ("#if defined(A)\nvoid\n#if defined(B)\n#endif // B\n" ++
        "#endif // A\n").toList ∧
      Event.GuardsOnLines events ∧ Event.Matched (events.filter Event.isGuard) := by
  have hparse : parse nestedLoops.text = .ok nestedLoops := by cbv
  have hlines : ∀ c ∈ nestedLoops.walk, c.OnLines nestedLoops.text := by decide
  have hexpand : nestedLoops.expand gatedModel = .ok [.text [], .openGuard "A",
      .text "void\n".toList, .openGuard "B", .text [], .closeGuard "B",
      .tally ⟨23, .each .parameter, 3, 1, 1⟩, .text [], .closeGuard "A",
      .tally ⟨0, .each .command, 1, 1, 1⟩, .text []] := rfl
  exact ⟨hparse, hlines, _, hexpand, rfl, guardLines_of_expand hlines hexpand⟩

end Template

end LayerStencil
