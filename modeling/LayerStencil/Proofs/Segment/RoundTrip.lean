import LayerStencil.Template.Segment
import Mathlib.Data.List.TakeWhile
import Mathlib.Tactic.Common

/-! # Segments: reading and writing are inverse

Reading splits a text from left to right, so where several braces stand in a row it pairs them from
the left. Written text is made for that: a literal brace comes as a pair, and the single brace of a
field is followed by a name.

* `encode_scan`: what has been read, written again, is the text up to the first unreadable place.
* `Reads`: the text can be read to its end, and its segments stand for a given text in a scope. A
  plain character, a doubled brace or a field in front of such a text gives another (`Reads.plain`,
  `Reads.doubled`, `Reads.next`), which is all that `encode` writes (`Reads.encode`).
* `segments_encode_inverse`: both directions together. -/

namespace LayerStencil.Segment

/-! ### What is read, written again -/

/-- A segment that can be written: the name of a field is not empty and consists of name
characters. -/
def IsWritable : Segment → Prop
  | text _ => True
  | field name => name.toList ≠ [] ∧ ∀ c ∈ name.toList, Text.isNameChar c

theorem escape_of_plain : ∀ {s : List Char}, (∀ c ∈ s, isPlain c) → escape s = s
  | [], _ => rfl
  | c :: s, h => by
    have hs : escape s = s := escape_of_plain fun d hd => h d (by simp [hd])
    have hc : isPlain c := h c (by simp)
    simp only [escape, List.flatMap_cons, hc, if_true] at hs ⊢
    rw [hs]; rfl

theorem written_of_next? {cs rest : List Char} {s : Segment} (h : next? cs = some (s, rest)) :
    s.IsWritable ∧ cs = s.written ++ rest := by
  unfold next? at h
  split at h
  · cases h
  · cases h; exact ⟨trivial, rfl⟩
  · cases h; exact ⟨trivial, rfl⟩
  · rename_i r _
    split at h
    · rename_i c name rest' htake hdrop
      cases h
      have hname : ∀ d ∈ c :: name, Text.isNameChar d := by
        rw [← htake]; exact fun d hd => List.mem_takeWhile_imp hd
      have hr : r = (c :: name) ++ '}' :: rest := by
        rw [← htake, ← hdrop, List.takeWhile_append_dropWhile]
      refine ⟨⟨by simp, by simpa using hname⟩, ?_⟩
      rw [hr]; simp [written]
    · cases h
  · cases h
  · rename_i c r _ _ _ _
    cases h
    refine ⟨trivial, ?_⟩
    have hplain : ∀ d ∈ c :: r.takeWhile isPlain, isPlain d := by
      intro d hd
      rcases List.mem_cons.mp hd with rfl | hd
      · simp_all [isPlain]
      · exact List.mem_takeWhile_imp hd
    rw [written, escape_of_plain hplain, List.cons_append, List.takeWhile_append_dropWhile]

theorem scan_of_next? {cs rest : List Char} {s : Segment} (h : next? cs = some (s, rest)) :
    scan cs = (s :: (scan rest).1, (scan rest).2) := by
  rw [scan]
  split
  · rename_i hn; rw [h] at hn; cases hn
  · rename_i hs; rw [h] at hs; cases hs; rfl

theorem scan_of_next?_eq_none {cs : List Char} (h : next? cs = none) : scan cs = ([], cs) := by
  rw [scan]
  split
  · rfl
  · rename_i hs; rw [h] at hs; cases hs

/-- **What has been read, written again, is the text that was read.** -/
theorem encode_scan (cs : List Char) :
    (∀ s ∈ (scan cs).1, s.IsWritable) ∧ encode (scan cs).1 ++ (scan cs).2 = cs := by
  induction hn : cs.length using Nat.strongRecOn generalizing cs with
  | ind n ih =>
    subst hn
    cases h : next? cs with
    | none => rw [scan_of_next?_eq_none h]; simp [encode]
    | some found =>
      obtain ⟨s, rest⟩ := found
      obtain ⟨hs, hcs⟩ := written_of_next? h
      obtain ⟨hall, henc⟩ := ih rest.length (length_lt_of_next? h) rest rfl
      rw [scan_of_next? h]
      refine ⟨by simpa using ⟨hs, hall⟩, ?_⟩
      simp only [encode, List.flatMap_cons, List.append_assoc] at henc ⊢
      rw [henc, ← hcs]

theorem segments_eq_ok_iff {cs : List Char} {segs : List Segment} :
    segments cs = .ok segs ↔ scan cs = (segs, []) := by
  unfold segments
  split
  · rename_i s hs; simp [hs]
  · rename_i s rest hs; simp [hs]
  · rename_i s rest hne _ hs
    constructor
    · intro h; cases h
    · intro h; rw [hs] at h; cases h; exact absurd rfl hne

theorem encode_of_segments {cs : List Char} {segs : List Segment} (h : segments cs = .ok segs) :
    (∀ s ∈ segs, s.IsWritable) ∧ encode segs = cs := by
  have := encode_scan cs
  rw [segments_eq_ok_iff.mp h] at this
  simpa using this

/-! ### Texts that can be read -/

/-- The text that a segment stands for when every field has a value. -/
def meaning (value : String → Value) : Segment → List Char
  | text s => s
  | field name => (value name).render.toList

/-- The text can be read to its end; its fields are among the named ones, and with their values it
stands for `out`. -/
structure Reads (value : String → Value) (named : String → Prop) (cs out : List Char) : Prop where
  unread : (scan cs).2 = []
  fields : ∀ name, field name ∈ (scan cs).1 → named name
  stands : (scan cs).1.flatMap (meaning value) = out

section Reads
variable {value : String → Value} {named : String → Prop} {cs out : List Char}

theorem Reads.nil : Reads value named [] [] := by
  have h : scan [] = ([], []) := scan_of_next?_eq_none rfl
  constructor <;> simp [h]

/-- A segment in front of a text that can be read. -/
theorem Reads.next {s : Segment} {rest : List Char} (h : next? cs = some (s, rest))
    (hs : ∀ name, s = field name → named name) (hrest : Reads value named rest out) :
    Reads value named cs (meaning value s ++ out) := by
  constructor
  · rw [scan_of_next? h]; exact hrest.unread
  · rw [scan_of_next? h]
    intro name hname
    rcases List.mem_cons.mp hname with hname | hname
    · exact hs name hname.symm
    · exact hrest.fields name hname
  · rw [scan_of_next? h, List.flatMap_cons, hrest.stands]

theorem eq_brace_of_not_isPlain {c : Char} (hc : ¬ isPlain c) : c = '{' ∨ c = '}' := by
  by_contra hne
  rw [not_or] at hne
  exact hc (by simp [isPlain, hne])

/-- A brace that is written twice. -/
theorem Reads.doubled {c : Char} (hc : ¬ isPlain c) (h : Reads value named cs out) :
    Reads value named (c :: c :: cs) (c :: out) := by
  rcases eq_brace_of_not_isPlain hc with rfl | rfl
  · exact Reads.next (s := text ['{']) rfl (by simp) h
  · exact Reads.next (s := text ['}']) rfl (by simp) h

theorem next?_of_plain {c : Char} (hc : isPlain c) (cs : List Char) :
    next? (c :: cs) = some (text (c :: cs.takeWhile isPlain), cs.dropWhile isPlain) := by
  have hopen : c ≠ '{' := by rintro rfl; exact absurd hc (by decide)
  have hclose : c ≠ '}' := by rintro rfl; exact absurd hc (by decide)
  unfold next?
  split <;> simp_all

/-- A character that is no brace. Reading joins it to a literal run that follows. -/
theorem Reads.plain {c : Char} (hc : isPlain c) (h : Reads value named cs out) :
    Reads value named (c :: cs) (c :: out) := by
  cases cs with
  | nil => exact Reads.next (next?_of_plain hc []) (by simp) h
  | cons d r =>
    by_cases hd : isPlain d
    -- The run that starts at `d` is part of the run that starts at `c`.
    · have hhere := scan_of_next? (next?_of_plain hd r)
      have hthere := scan_of_next? (next?_of_plain hc (d :: r))
      rw [List.takeWhile_cons_of_pos hd, List.dropWhile_cons_of_pos hd] at hthere
      obtain ⟨hunread, hfields, rfl⟩ := h
      rw [hhere] at hunread hfields ⊢
      constructor
      · rw [hthere]; exact hunread
      · rw [hthere]
        intro name hname
        exact hfields name (by simpa using hname)
      · rw [hthere]; simp [meaning]
    · have hnext := next?_of_plain hc (d :: r)
      rw [List.takeWhile_cons_of_neg hd, List.dropWhile_cons_of_neg hd] at hnext
      exact Reads.next hnext (by simp) h

theorem next?_of_field {name : String} (hname : (field name).IsWritable) (cs : List Char) :
    next? ((field name).written ++ cs) = some (field name, cs) := by
  obtain ⟨hne, hchars⟩ := hname
  obtain ⟨c, l, hl⟩ := List.exists_cons_of_ne_nil hne
  rw [hl] at hchars
  have hc : c ≠ '{' := by rintro rfl; exact absurd (hchars '{' (by simp)) (by decide)
  have hwritten : (field name).written ++ cs = '{' :: (c :: l ++ '}' :: cs) := by
    simp [written, hl]
  have hbrace : ∀ d ∈ ('}' :: cs).head?, ¬ Text.isNameChar d := by simp; decide
  rw [hwritten, next?]
  · rw [Text.takeWhile_run hchars hbrace, Text.dropWhile_run hchars hbrace]
    show some (field (String.ofList (c :: l)), cs) = _
    rw [← hl, String.ofList_toList]
  · intro r hr; exact hc (List.cons.inj hr).1

theorem Reads.escape (h : Reads value named cs out) :
    ∀ s : List Char, Reads value named (escape s ++ cs) (s ++ out)
  | [] => h
  | c :: s => by
    have ih := Reads.escape h s
    by_cases hc : isPlain c
    · simpa [Segment.escape, hc] using Reads.plain hc ih
    · simpa [Segment.escape, hc] using Reads.doubled hc ih

/-- **Written text can be read, and stands for what its pieces say.** -/
theorem Reads.encode : ∀ {pieces : List Segment}, (∀ p ∈ pieces, p.IsWritable) →
    (∀ name, field name ∈ pieces → named name) →
      Reads value named (encode pieces) (pieces.flatMap (meaning value))
  | [], _, _ => Reads.nil
  | p :: pieces, hwritable, hnamed => by
    have ih : Reads value named (Segment.encode pieces) (pieces.flatMap (meaning value)) :=
      Reads.encode (fun q hq => hwritable q (by simp [hq])) fun name h => hnamed name (by simp [h])
    cases p with
    | text s => exact ih.escape s
    | field name =>
      exact ih.next (next?_of_field (hwritable _ (by simp)) _) fun name' h =>
        hnamed name' (by simp [h])

theorem Reads.segments_eq (h : Reads value named cs out) : segments cs = .ok (scan cs).1 :=
  segments_eq_ok_iff.mpr (Prod.ext rfl h.unread)

end Reads

/-! ### Substitution -/

/-- Substitution by way of the segments, also where a text has no braces. -/
def substituteSegments (values : Values) (cs : List Char) : Except SubstituteError (List Char) :=
  match segments cs with
  | .error e => .error (.segment e)
  | .ok segs => fillAll values segs

theorem fillAll_eq_ok {value : String → Value} {values : Values} : ∀ {segs : List Segment},
    (∀ name, field name ∈ segs → values.get? name = some (value name)) →
      fillAll values segs = .ok (segs.flatMap (meaning value))
  | [], _ => rfl
  | s :: segs, h => by
    have ih := fillAll_eq_ok fun name hname => h name (List.mem_cons_of_mem s hname)
    have hs : fill values s = .ok (meaning value s) := by
      cases s with
      | text s => rfl
      | field name => simp [fill, meaning, h name (by simp)]
    simp only [fillAll, hs, ih, List.flatMap_cons]

theorem Reads.substituteSegments_eq {value : String → Value} {values : Values}
    {cs out : List Char}
    (h : Reads value (fun name => values.get? name = some (value name)) cs out) :
    substituteSegments values cs = .ok out := by
  unfold substituteSegments
  rw [h.segments_eq, ← h.stands]
  exact fillAll_eq_ok h.fields

/-- **A text without braces**: its segments give the text itself back. -/
theorem substitute_eq_substituteSegments (values : Values) (cs : List Char) :
    substitute values cs = substituteSegments values cs := by
  unfold substitute
  split
  · rename_i h
    have hplain : escape cs = cs := escape_of_plain (List.all_eq_true.mp h)
    have hreads : Reads (fun _ => default) (fun name => values.get? name = some default)
        (escape cs ++ []) (cs ++ []) := Reads.escape Reads.nil cs
    rw [List.append_nil, List.append_nil, hplain] at hreads
    exact hreads.substituteSegments_eq.symm
  · rfl

theorem exists_segments_iff {cs : List Char} :
    (∃ segs, segments cs = .ok segs) ↔
      ∃ pieces : List Segment, (∀ p ∈ pieces, p.IsWritable) ∧ encode pieces = cs := by
  constructor
  · rintro ⟨segs, h⟩
    exact ⟨segs, encode_of_segments h⟩
  · rintro ⟨pieces, hwritable, rfl⟩
    have hreads : Reads (fun _ => default) (fun _ => True) (encode pieces) _ :=
      Reads.encode hwritable fun _ _ => trivial
    exact ⟨_, hreads.segments_eq⟩

/-- **Reading and writing are inverse.** Substitution into written text gives the literals and the
values in order, whatever braces they hold; the segments of a text, written, give the text back, so
the written texts are those that can be read; and a text without braces is no exception. -/
theorem segments_encode_inverse :
    (∀ (pieces : List Segment) (values : Values) (value : String → Value),
      (∀ p ∈ pieces, p.IsWritable) →
        (∀ name, field name ∈ pieces → values.get? name = some (value name)) →
          substitute values (encode pieces) = .ok (pieces.flatMap (meaning value))) ∧
    (∀ cs segs, segments cs = .ok segs → encode segs = cs) ∧
    (∀ cs, (∃ segs, segments cs = .ok segs) ↔
      ∃ pieces : List Segment, (∀ p ∈ pieces, p.IsWritable) ∧ encode pieces = cs) ∧
    ∀ values cs, substitute values cs = substituteSegments values cs := by
  refine ⟨fun pieces values value hwritable hvalue => ?_, fun cs segs h => (encode_of_segments h).2,
    fun cs => exists_segments_iff, substitute_eq_substituteSegments⟩
  rw [substitute_eq_substituteSegments]
  exact (Reads.encode hwritable hvalue).substituteSegments_eq

/-- A literal brace before a field, two after it, and braces in the value. -/
theorem substitute_encode_adjacent_braces :
    let pieces := [text ['{'], field "a", text ['}', '{']]
    let values := Dict.ofList [("a", Value.str "{b}")]
    ((∀ p ∈ pieces, p.IsWritable) ∧
      ∀ name, field name ∈ pieces → values.get? name = some (.str "{b}")) ∧
    encode pieces = ['{', '{', '{', 'a', '}', '}', '}', '{', '{'] ∧
    substitute values (encode pieces) = .ok ['{', '{', 'b', '}', '}', '{'] := by
  intro pieces values
  have hwritable : ∀ p ∈ pieces, p.IsWritable := by
    simp [pieces, IsWritable]
    decide
  have hvalue : ∀ name, field name ∈ pieces → values.get? name = some (.str "{b}") := by
    intro name hname
    obtain rfl : name = "a" := by simpa [pieces] using hname
    decide
  exact ⟨⟨hwritable, hvalue⟩, by decide,
    segments_encode_inverse.1 pieces values (fun _ => .str "{b}") hwritable hvalue⟩

end LayerStencil.Segment
