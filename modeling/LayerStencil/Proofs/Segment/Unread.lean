import LayerStencil.Proofs.Failure
import LayerStencil.Proofs.Segment.RoundTrip

/-! # Where reading a stencil text stops

Reading goes on until the text is at its end or goes on with a brace that belongs to no segment: a
closing brace that is not doubled, or an opening brace that neither is doubled nor starts a field.
The error says which of the two it is, and where. A text that can be read is filled from left to
right, up to the first field without a value.

* `SegmentError.Blocks`: the text starts with a brace as the error reports it.
* `blocks_iff`: such braces are where reading stops.
* `segments_eq_error_iff`: a text has no segments if and only if such a brace follows a part of it
  that has some, and the error gives the offset of this brace.
* `fillAll_eq_error_iff`: what has no text is the first field without a value.
* `substitute_eq_error_iff`: both together. -/

namespace LayerStencil

/-- The place that the error gives. -/
def SegmentError.offset : SegmentError → Nat
  | strayClose offset => offset
  | malformed offset => offset

/-- The text starts with a brace as the error reports it: a closing brace that is not doubled, or an
opening brace that neither is doubled nor starts a field. -/
def SegmentError.Blocks : SegmentError → List Char → Prop
  | strayClose _, cs => ∃ r, cs = '}' :: r ∧ r.head? ≠ some '}'
  | malformed _, cs => ∃ r, cs = '{' :: r ∧ r.head? ≠ some '{' ∧
      ∀ name, (Segment.field name).IsWritable → ∀ rest, cs ≠ (Segment.field name).written ++ rest

namespace Segment

/-! ### Braces that cannot be read -/

theorem next?_of_close {r : List Char} : next? ('}' :: r) = none ↔ r.head? ≠ some '}' := by
  cases r with
  | nil => simp [next?]
  | cons c r => by_cases hc : c = '}' <;> simp [next?, hc]

/-- An opening brace is doubled, or it starts a field, or it cannot be read. -/
theorem next?_of_open {r : List Char} : next? ('{' :: r) = none ↔ r.head? ≠ some '{' ∧
    ∀ name, (field name).IsWritable → ∀ rest, '{' :: r ≠ (field name).written ++ rest := by
  constructor
  · intro hnone
    refine ⟨fun h => ?_, fun name hname rest heq => ?_⟩
    · obtain ⟨r, rfl⟩ := List.head?_eq_some_iff.mp h
      cases hnone
    · rw [heq, next?_of_field hname] at hnone
      cases hnone
  · rintro ⟨h, hno⟩
    cases hnext : next? ('{' :: r) with
    | none => rfl
    | some found =>
      obtain ⟨hwritable, hwritten⟩ := written_of_next? hnext
      rw [next?] at hnext
      · split at hnext
        · cases hnext
          exact absurd hwritten (hno _ hwritable _)
        · cases hnext
      · rintro r' rfl
        exact h rfl

/-- What an error reports cannot be read, and it tells the two braces apart. -/
theorem blocks_iff {e : SegmentError} {cs : List Char} : e.Blocks cs ↔ next? cs = none ∧
    cs.head? = some (match e with | .strayClose _ => '}' | .malformed _ => '{') := by
  cases e with
  | strayClose o =>
    constructor
    · rintro ⟨r, rfl, h⟩
      exact ⟨next?_of_close.mpr h, rfl⟩
    · rintro ⟨hnone, hhead⟩
      obtain ⟨r, rfl⟩ := List.head?_eq_some_iff.mp hhead
      exact ⟨r, rfl, next?_of_close.mp hnone⟩
  | malformed o =>
    constructor
    · rintro ⟨r, rfl, h⟩
      exact ⟨next?_of_open.mpr h, rfl⟩
    · rintro ⟨hnone, hhead⟩
      obtain ⟨r, rfl⟩ := List.head?_eq_some_iff.mp hhead
      exact ⟨r, rfl, next?_of_open.mp hnone⟩

theorem not_isPlain_of_next?_eq_none {cs : List Char} (h : next? cs = none) :
    ∀ c ∈ cs.head?, ¬ isPlain c := by
  intro c hc hplain
  obtain ⟨r, rfl⟩ := List.head?_eq_some_iff.mp (Option.mem_def.mp hc)
  rw [next?_of_plain hplain] at h
  cases h

/-! ### The part that is read -/

/-- **Reading goes on** to a place where it can only stop. -/
theorem next?_scan (cs : List Char) : next? (scan cs).2 = none := by
  induction hn : cs.length using Nat.strongRecOn generalizing cs with
  | ind n ih =>
    subst hn
    cases h : next? cs with
    | none => rw [scan_of_next?_eq_none h]; exact h
    | some found =>
      rw [scan_of_next? h]
      exact ih found.2.length (length_lt_of_next? h) found.2 rfl

/-- A literal run that does not start with a plain character is a doubled brace. -/
theorem doubled_of_next? {c : Char} (hc : ¬ isPlain c) {t r s : List Char}
    (h : next? (c :: t) = some (text s, r)) : t = c :: r ∧ s = [c] := by
  rcases eq_brace_of_not_isPlain hc with rfl | rfl
  · by_cases hopen : t.head? = some '{'
    · obtain ⟨t, rfl⟩ := List.head?_eq_some_iff.mp hopen
      cases h
      exact ⟨rfl, rfl⟩
    · rw [next?] at h
      · split at h <;> cases h
      · rintro r' rfl
        exact hopen rfl
  · by_cases hclose : t.head? = some '}'
    · obtain ⟨t, rfl⟩ := List.head?_eq_some_iff.mp hclose
      cases h
      exact ⟨rfl, rfl⟩
    · rw [next?_of_close.mpr hclose] at h
      cases h

section Append
variable {cs rest : List Char} (hrest : next? rest = none)
include hrest

/-- Reading a segment does not look beyond a place where it stops. -/
theorem next?_append {s : Segment} {r : List Char} (h : next? cs = some (s, r)) :
    next? (cs ++ rest) = some (s, r ++ rest) := by
  cases s with
  | field name =>
    obtain ⟨hname, rfl⟩ := written_of_next? h
    rw [List.append_assoc]
    exact next?_of_field hname _
  | text s =>
    cases cs with
    | nil => cases h
    | cons c t =>
      by_cases hc : isPlain c
      · rw [next?_of_plain hc] at h
        cases h
        have hstop : ∀ d ∈ (t.dropWhile isPlain ++ rest).head?, ¬ isPlain d := by
          cases hdrop : t.dropWhile isPlain with
          | nil => exact not_isPlain_of_next?_eq_none hrest
          | cons d t' =>
            have := Text.not_of_dropWhile_eq_cons hdrop
            simp [this]
        have hrun : ∀ d ∈ t.takeWhile isPlain, isPlain d := fun d hd => List.mem_takeWhile_imp hd
        have hsplit : t ++ rest = t.takeWhile isPlain ++ (t.dropWhile isPlain ++ rest) := by
          rw [← List.append_assoc, List.takeWhile_append_dropWhile]
        rw [List.cons_append, next?_of_plain hc, hsplit, Text.takeWhile_run hrun hstop,
          Text.dropWhile_run hrun hstop]
      · obtain ⟨rfl, rfl⟩ := doubled_of_next? hc h
        rcases eq_brace_of_not_isPlain hc with rfl | rfl <;> rfl

/-- Reading does not look beyond a place where it stops. -/
theorem scan_append (hcs : (scan cs).2 = []) : scan (cs ++ rest) = ((scan cs).1, rest) := by
  induction hn : cs.length using Nat.strongRecOn generalizing cs with
  | ind n ih =>
    subst hn
    cases h : next? cs with
    | none =>
      rw [scan_of_next?_eq_none h] at hcs ⊢
      obtain rfl : cs = [] := hcs
      exact scan_of_next?_eq_none hrest
    | some found =>
      obtain ⟨s, r⟩ := found
      rw [scan_of_next? h] at hcs ⊢
      rw [scan_of_next? (next?_append hrest h), ih r.length (length_lt_of_next? h) hcs rfl]

end Append

/-! ### Errors of reading -/

theorem segments_eq_error_iff_scan {cs : List Char} {e : SegmentError} :
    segments cs = .error e ↔
      e.Blocks (scan cs).2 ∧ e.offset = Text.byteLength cs - Text.byteLength (scan cs).2 := by
  have hstop := next?_scan cs
  unfold segments
  split
  · rename_i segs hscan
    rw [hscan, blocks_iff]
    simp
  · rename_i segs rest hscan
    rw [hscan] at hstop ⊢
    rw [blocks_iff]
    cases e <;> simp [hstop, SegmentError.offset, eq_comm]
  · rename_i segs rest hne hclose hscan
    rw [hscan] at hstop ⊢
    have hopen : rest.head? = some '{' := by
      cases rest with
      | nil => exact (hne rfl).elim
      | cons c r =>
        rcases eq_brace_of_not_isPlain (not_isPlain_of_next?_eq_none hstop c rfl) with rfl | rfl
        · rfl
        · exact (hclose r rfl).elim
    rw [blocks_iff]
    cases e <;> simp [hstop, hopen, SegmentError.offset, eq_comm]

/-- **Which texts have no segments**: those that have segments up to a brace that belongs to
none. -/
theorem segments_eq_error_iff {cs : List Char} {e : SegmentError} : segments cs = .error e ↔
    ∃ read rest, cs = read ++ rest ∧ (∃ segs, segments read = .ok segs) ∧ e.Blocks rest ∧
      e.offset = Text.byteLength read := by
  rw [segments_eq_error_iff_scan]
  constructor
  · rintro ⟨hblocks, hoffset⟩
    -- What has been read is the written form of segments, so it has segments itself.
    obtain ⟨hwritable, hcs⟩ := encode_scan cs
    refine ⟨_, _, hcs.symm, exists_segments_iff.mpr ⟨_, hwritable, rfl⟩, hblocks, ?_⟩
    have hbytes := congrArg Text.byteLength hcs
    rw [Text.byteLength_append] at hbytes
    omega
  · rintro ⟨read, rest, rfl, ⟨segs, hsegs⟩, hblocks, hoffset⟩
    have hread := segments_eq_ok_iff.mp hsegs
    rw [scan_append (blocks_iff.mp hblocks).1 (by rw [hread]), Text.byteLength_append]
    exact ⟨hblocks, by dsimp only; omega⟩

theorem ne_nil_of_blocks {e : SegmentError} {cs : List Char} (h : e.Blocks cs) : cs ≠ [] := by
  rintro rfl
  cases (blocks_iff.mp h).2

/-- The same by positions: the error gives the offset of a character of the text. -/
theorem segments_eq_error_iff_position {cs : List Char} {e : SegmentError} :
    segments cs = .error e ↔ ∃ i < cs.length, e.offset = Text.byteOffset cs i ∧
      (∃ segs, segments (cs.take i) = .ok segs) ∧ e.Blocks (cs.drop i) := by
  rw [segments_eq_error_iff]
  constructor
  · rintro ⟨read, rest, rfl, hread, hblocks, hoffset⟩
    have hpos := List.length_pos_iff.mpr (ne_nil_of_blocks hblocks)
    refine ⟨read.length, by rw [List.length_append]; omega, ?_⟩
    rw [Text.byteOffset, List.take_left, List.drop_left]
    exact ⟨hoffset, hread, hblocks⟩
  · rintro ⟨i, -, hoffset, hread, hblocks⟩
    exact ⟨_, _, (List.take_append_drop i cs).symm, hread, hblocks, hoffset⟩

/-! ### Fields without a value -/

/-- The field is the first one of the segments that has no value. -/
def FirstUnbound (values : Values) (segs : List Segment) (name : String) : Prop :=
  ∃ before after, segs = before ++ field name :: after ∧
    (∀ other, field other ∈ before → values.get? other ≠ none) ∧ values.get? name = none

section Values
variable {values : Values}

theorem fill_eq_error_iff {s : Segment} {e : SubstituteError} : fill values s = .error e ↔
    ∃ name, s = field name ∧ values.get? name = none ∧ e = .unbound name := by
  cases s with
  | text s => simp [fill]
  | field name =>
    cases hvalue : values.get? name with
    | none => simp [fill, hvalue, eq_comm]
    | some value => simp [fill, hvalue]

/-- Behind a segment that has a text, the first field without a value is the same. -/
theorem firstUnbound_cons {s : Segment} {head : List Char} (hs : fill values s = .ok head)
    {segs : List Segment} {name : String} :
    FirstUnbound values (s :: segs) name ↔ FirstUnbound values segs name := by
  have hbound : ∀ other, s = field other → values.get? other ≠ none := by
    rintro other rfl hnone
    rw [fill_eq_error_iff.mpr ⟨other, rfl, hnone, rfl⟩] at hs
    cases hs
  constructor
  · rintro ⟨before, after, hsegs, hbefore, hname⟩
    rcases List.cons_eq_append_iff.mp hsegs with ⟨-, hfirst⟩ | ⟨before, rfl, rfl⟩
    · cases hfirst
      exact absurd hname (hbound name rfl)
    · exact ⟨before, after, rfl, fun other h => hbefore other (List.mem_cons_of_mem _ h), hname⟩
  · rintro ⟨before, after, rfl, hbefore, hname⟩
    refine ⟨s :: before, after, rfl, fun other h => ?_, hname⟩
    rcases List.mem_cons.mp h with h | h
    · exact hbound other h.symm
    · exact hbefore other h

/-- A field without a value that comes first is the first one. -/
theorem firstUnbound_head {first : String} (hfirst : values.get? first = none)
    {segs : List Segment} {name : String} :
    FirstUnbound values (field first :: segs) name ↔ name = first := by
  constructor
  · rintro ⟨before, after, hsegs, hbefore, -⟩
    rcases List.cons_eq_append_iff.mp hsegs with ⟨-, hhead⟩ | ⟨before, rfl, -⟩
    · cases hhead
      rfl
    · exact absurd hfirst (hbefore first List.mem_cons_self)
  · rintro rfl
    exact ⟨[], segs, rfl, by simp, hfirst⟩

theorem fillAll_eq_error_iff {segs : List Segment} {e : SubstituteError} :
    fillAll values segs = .error e ↔
      ∃ name, FirstUnbound values segs name ∧ e = .unbound name := by
  induction segs with
  | nil => simp [fillAll, FirstUnbound]
  | cons s segs ih =>
    rw [fillAll]
    cases hs : fill values s with
    | error d =>
      obtain ⟨first, rfl, hfirst, rfl⟩ := fill_eq_error_iff.mp hs
      simp [firstUnbound_head hfirst, eq_comm]
    | ok head =>
      simp only [firstUnbound_cons hs, ← ih]
      cases fillAll values segs <;> simp

/-- **When and how substitution fails**, error by error: at a brace that reading stops at, which
does not depend on the values; and else at the first field without a value. -/
theorem substitute_eq_error_iff {cs : List Char} {e : SubstituteError} :
    substitute values cs = .error e ↔ (∃ cause, segments cs = .error cause ∧ e = .segment cause) ∨
      ∃ segs name, segments cs = .ok segs ∧ FirstUnbound values segs name ∧ e = .unbound name := by
  rw [substitute_eq_substituteSegments, substituteSegments]
  cases hsegs : segments cs with
  | error cause => simp [eq_comm]
  | ok segs => simp [fillAll_eq_error_iff]

theorem FirstUnbound.mem_unbound {segs : List Segment} {name : String}
    (h : FirstUnbound values segs name) : field name ∈ segs ∧ values.get? name = none := by
  obtain ⟨before, after, rfl, -, hname⟩ := h
  exact ⟨List.mem_append_right before List.mem_cons_self, hname⟩

/-- If a field has no value, there is a first one. -/
theorem exists_firstUnbound {name : String} (hname : values.get? name = none) :
    ∀ {segs : List Segment}, field name ∈ segs → ∃ first, FirstUnbound values segs first
  | s :: segs, h => by
    cases hs : fill values s with
    | error d =>
      obtain ⟨first, rfl, hfirst, -⟩ := fill_eq_error_iff.mp hs
      exact ⟨first, (firstUnbound_head hfirst).mpr rfl⟩
    | ok head =>
      rcases List.mem_cons.mp h with rfl | h
      · rw [fill, hname] at hs
        cases hs
      · obtain ⟨first, hfirst⟩ := exists_firstUnbound hname h
        exact ⟨first, (firstUnbound_cons hs).mpr hfirst⟩

end Values

/-- **Failures of substitution.** A text fails at a brace if and only if it has no segments,
whatever the values are; the error then gives the byte offset of a character of the text, up to
which the text has segments, and at which a closing brace stands that is not doubled or an opening
brace that neither is doubled nor starts a field. Any other text fails if and only if a field of it
has no value, and the error names the first one. -/
theorem substitute_failures (values : Values) (cs : List Char) :
    (∀ cause, substitute values cs = .error (.segment cause) ↔ segments cs = .error cause) ∧
    (∀ cause, segments cs = .error cause ↔
      ∃ i < cs.length, cause.offset = Text.byteOffset cs i ∧
        (∃ segs, segments (cs.take i) = .ok segs) ∧ cause.Blocks (cs.drop i)) ∧
    ∀ segs, segments cs = .ok segs →
      (Fails (substitute values cs) ↔ ∃ name, field name ∈ segs ∧ values.get? name = none) ∧
      ∀ e, substitute values cs = .error e ↔
        ∃ name, FirstUnbound values segs name ∧ e = .unbound name := by
  refine ⟨fun cause => ?_, fun cause => segments_eq_error_iff_position, fun segs hsegs => ?_⟩
  · rw [substitute_eq_error_iff]
    simp
  · have hfirst : ∀ e, substitute values cs = .error e ↔
        ∃ name, FirstUnbound values segs name ∧ e = .unbound name := by
      intro e
      rw [substitute_eq_error_iff, hsegs]
      simp
    refine ⟨⟨?_, ?_⟩, hfirst⟩
    · rintro ⟨e, he⟩
      obtain ⟨name, hname, -⟩ := (hfirst e).mp he
      exact ⟨name, hname.mem_unbound⟩
    · rintro ⟨name, hmem, hname⟩
      obtain ⟨first, h⟩ := exists_firstUnbound hname hmem
      exact ⟨.unbound first, (hfirst _).mpr ⟨first, h, rfl⟩⟩

/-- Two fields without values after doubled braces: the error names the one on the left. -/
theorem substitute_failures_leftmost :
    segments "{{x}}{a}{b}{c}".toList =
      .ok [text ['{'], text ['x'], text ['}'], field "a", field "b", field "c"] ∧
    substitute (.ofList [("a", .int 1)]) "{{x}}{a}{b}{c}".toList = .error (.unbound "b") := by
  have hsegs : segments "{{x}}{a}{b}{c}".toList =
      .ok [text ['{'], text ['x'], text ['}'], field "a", field "b", field "c"] := by cbv
  refine ⟨hsegs, (((substitute_failures _ _).2.2 _ hsegs).2 _).mpr ⟨"b", ?_, rfl⟩⟩
  refine ⟨[text ['{'], text ['x'], text ['}'], field "a"], [field "c"], rfl, fun other h => ?_, rfl⟩
  obtain rfl : other = "a" := by simpa using h
  decide

end Segment

end LayerStencil
