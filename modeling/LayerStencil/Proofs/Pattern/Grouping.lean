import LayerStencil.Proofs.Pattern.Balanced
import LayerStencil.Proofs.Pattern.Spans

/-! # Tokens in a group

The tokens of a balanced text change the innermost open group only. So what they make of a group
does not depend on the groups around it, and they add their alternatives to those that it has.

* `Group.step?`, `afterTokens?`: the open groups after a token and after a text.
* `ofTokens?_append`: a pattern is read on from the groups that its first tokens leave.
* `step?_frame`, `afterTokens?_frame`: groups around and alternatives before a text stay as they
  are.
* `Group.spans_close_append`, `Group.spans_sequence_append`: what alternatives and parts span. -/

namespace LayerStencil.Pattern

open PatternText (depthAfter? Closes)

/-- The innermost open group and those around it after one more token. -/
def Group.step? : Group × List Group → PatternToken → Option (Group × List Group)
  | (g, outer), .char s depth => some (g.push (.char s) depth, outer)
  | (g, outer), .start => some (g.push .start 0, outer)
  | (g, outer), .stop => some (g.push .stop 0, outer)
  | (g, outer), .bar => some (g.bar, outer)
  | (g, outer), .openGroup => some (.new, g :: outer)
  | (_, []), .closeGroup => none
  | (g, f :: outer), .closeGroup => some (f.push g.close.pattern (g.close.depth + 1), outer)
  | (g, outer), .repeated low high => (g.repeatLast? low high).map fun g => (g, outer)

/-- The open groups after tokens. -/
def afterTokens? (st : Group × List Group) (ts : List PatternToken) :
    Option (Group × List Group) :=
  ts.foldlM Group.step? st

theorem ofTokens?_cons (g : Group) (outer : List Group) (t : PatternToken)
    (ts : List PatternToken) : ofTokens? g outer (t :: ts) =
      (Group.step? (g, outer) t).bind fun st => ofTokens? st.1 st.2 ts := by
  cases t with
  | closeGroup => cases outer <;> rfl
  | repeated low high =>
    rw [ofTokens?, Group.step?]
    cases g.repeatLast? low high <;> rfl
  | _ => cases outer <;> rfl

theorem ofTokens?_append (st : Group × List Group) (ts us : List PatternToken) :
    ofTokens? st.1 st.2 (ts ++ us) =
      (afterTokens? st ts).bind fun st => ofTokens? st.1 st.2 us := by
  induction ts generalizing st with
  | nil => rfl
  | cons t ts ih =>
    rw [List.cons_append, ofTokens?_cons, afterTokens?, List.foldlM_cons]
    cases Group.step? st t with
    | none => rfl
    | some st' => exact ih st'

/-- The group `g` and those around it with alternatives before the outermost one and more groups
around that. -/
def frameFrom (before : List Nested) (around : List Group) :
    (g : Group) → (outer : List Group) → Group × List Group
  | g, [] => (⟨g.finished ++ before, g.parts⟩, around)
  | g, f :: outer =>
    let st := frameFrom before around f outer
    (g, st.1 :: st.2)

/-- Open groups with alternatives before the outermost one and groups around it. -/
def frame (before : List Nested) (around : List Group) (st : Group × List Group) :
    Group × List Group :=
  frameFrom before around st.1 st.2

section Frame
variable (before : List Nested) (around : List Group)

theorem frame_push (g : Group) (outer : List Group) (p : Pattern) (depth : Nat) :
    frame before around (g.push p depth, outer) =
      ((frame before around (g, outer)).1.push p depth, (frame before around (g, outer)).2) := by
  cases outer <;> rfl

theorem frame_bar (g : Group) (outer : List Group) :
    frame before around (g.bar, outer) =
      ((frame before around (g, outer)).1.bar, (frame before around (g, outer)).2) := by
  cases outer <;> rfl

theorem frame_repeatLast? (g : Group) (outer : List Group) (low : Nat) (high : Option Nat) :
    ((frame before around (g, outer)).1.repeatLast? low high).map
        (fun g' => (g', (frame before around (g, outer)).2)) =
      (g.repeatLast? low high).map fun g' => frame before around (g', outer) := by
  obtain ⟨finished, parts⟩ := g
  cases outer <;> cases parts <;> rfl

/-- A token that closes no group around the outermost one does the same in a frame. -/
theorem step?_frame {st : Group × List Group} {t : PatternToken} {depth : Nat}
    (h : depthAfter? st.2.length t = some depth) :
    Group.step? (frame before around st) t = (Group.step? st t).map (frame before around) ∧
      ∀ st' ∈ Group.step? st t, st'.2.length = depth := by
  obtain ⟨g, outer⟩ := st
  cases t with
  | openGroup =>
    cases h
    exact ⟨rfl, by rintro _ ⟨⟩; rfl⟩
  | closeGroup =>
    cases outer with
    | nil => cases h
    | cons f outer =>
      cases h
      exact ⟨congrArg some (frame_push before around f outer _ _).symm, by rintro _ ⟨⟩; rfl⟩
  | bar =>
    cases h
    exact ⟨congrArg some (frame_bar before around g outer).symm, by rintro _ ⟨⟩; rfl⟩
  | repeated low high =>
    cases h
    refine ⟨?_, ?_⟩
    · rw [Group.step?, Group.step?, Option.map_map]
      exact frame_repeatLast? before around g outer low high
    · rw [Group.step?]
      intro st' hst'
      obtain ⟨_, -, rfl⟩ := Option.map_eq_some_iff.mp hst'
      rfl
  | _ =>
    cases h
    exact ⟨congrArg some (frame_push before around g outer _ _).symm, by rintro _ ⟨⟩; rfl⟩

/-- Tokens that close all groups but the outermost one do the same in a frame. -/
theorem afterTokens?_frame {st : Group × List Group} {ts : List PatternToken}
    (h : Closes st.2.length ts) :
    afterTokens? (frame before around st) ts = (afterTokens? st ts).map (frame before around) ∧
      ∀ st' ∈ afterTokens? st ts, st'.2 = [] := by
  induction ts generalizing st with
  | nil => exact ⟨rfl, by rintro _ ⟨⟩; exact List.length_eq_zero_iff.mp h⟩
  | cons t ts ih =>
    obtain ⟨depth, hdepth, hts⟩ := h
    obtain ⟨hstep, hlen⟩ := step?_frame before around hdepth
    rw [afterTokens?, afterTokens?, List.foldlM_cons, List.foldlM_cons, hstep]
    cases hst : Group.step? st t with
    | none => exact ⟨rfl, by rintro _ ⟨⟩⟩
    | some st' => exact ih (hlen st' hst ▸ hts)

end Frame

/-! ### Alternatives -/

/-- The alternatives of a group that is closed now, newest first. -/
def Group.alternatives (g : Group) : List Nested := Group.sequence g.parts :: g.finished

theorem spans_foldl_alt {s : List Char} {i j : Nat} (older : List Nested) (newest : Pattern) :
    (older.foldl (fun acc p => alt p.pattern acc) newest).Spans s i j ↔
      newest.Spans s i j ∨ ∃ p ∈ older, p.pattern.Spans s i j := by
  induction older generalizing newest with
  | nil => simp
  | cons p older ih =>
    rw [List.foldl_cons, ih, Spans]
    simp only [List.mem_cons, exists_eq_or_imp]
    tauto

namespace Group
variable {g : Group}

theorem close_eq (g : Group) : g.close.pattern =
    g.finished.foldl (fun acc p => alt p.pattern acc) (sequence g.parts).pattern := by
  obtain ⟨finished, parts⟩ := g
  cases finished <;> rfl

/-- A closed group spans what one of its alternatives does. -/
theorem spans_close_iff {s : List Char} {i j : Nat} :
    g.close.pattern.Spans s i j ↔ ∃ p ∈ g.alternatives, p.pattern.Spans s i j := by
  rw [close_eq, spans_foldl_alt, alternatives]
  simp

/-- The alternatives of one group, and then those of another. -/
def append (g h : Group) : Group := ⟨h.finished ++ g.alternatives, h.parts⟩

theorem spans_close_append {h : Group} {s : List Char} {i j : Nat} :
    (g.append h).close.pattern.Spans s i j ↔
      g.close.pattern.Spans s i j ∨ h.close.pattern.Spans s i j := by
  have halternatives : (g.append h).alternatives = h.alternatives ++ g.alternatives := rfl
  rw [spans_close_iff, spans_close_iff, spans_close_iff, halternatives]
  simp only [List.mem_append, or_and_right, exists_or]
  exact or_comm

/-- A sequence spans what its first part and then the others span. -/
theorem spans_sequence_append {p : Nested} (parts : List Nested) {s : List Char} {i j : Nat} :
    (sequence (parts ++ [p])).pattern.Spans s i j ↔
      ∃ k, p.pattern.Spans s i k ∧ (sequence parts).pattern.Spans s k j := by
  have hsequence : ∀ (newest : Nested) (older : List Nested), (sequence (newest :: older)).pattern =
      older.foldl (fun acc p => seq p.pattern acc) newest.pattern := by
    intro newest older
    cases older <;> rfl
  cases parts with
  | nil => simp [sequence, Nested.joined, Spans]
  | cons newest older =>
    rw [List.cons_append, hsequence, hsequence, List.foldl_append]
    rfl

end Group

end LayerStencil.Pattern
