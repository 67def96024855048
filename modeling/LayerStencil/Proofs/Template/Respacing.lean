import LayerStencil.Proofs.Related
import LayerStencil.Proofs.Template.Runs
import LayerStencil.Proofs.Text.WhiteSpace

/-! # White space read by markers

Two texts differ in one run of white space, a gap, in front of a part that both end with. At the
same place of both, a family reads the same mark, or nothing: it goes on behind the gap only if it
takes all of it, and a line break of the gap ends every condition in front of it. What is left are
again matching places of the two texts, or what follows the last line break of each gap, where a
line form ends.

* `Gap`: white space, split behind its last line break.
* `Matching`, `MatchingEnd`: places of the two texts that correspond.
* `Respaced.line?`, `Respaced.inline?`: both forms of a marker read the same at matching places. -/

namespace LayerStencil

namespace Marker

/-! ### Gaps -/

/-- A text does not end with white space. -/
def Ended (s : List Char) : Prop := ∀ c ∈ s.getLast?, ¬ Text.isWhiteSpace c

theorem Ended.of_cons {c : Char} {s : List Char} (h : Ended (c :: s)) : Ended s := by
  intro d hd
  refine h d ?_
  rw [List.getLast?_cons, Option.mem_def.mp hd]
  rfl

theorem Ended.of_suffix {s t : List Char} (h : Ended s) (ht : t <:+ s) : Ended t := by
  obtain ⟨u, rfl⟩ := ht
  intro c hc
  refine h c ?_
  rw [List.getLast?_append, Option.mem_def.mp hc]
  rfl

/-- White space, split behind its last line break. -/
structure Gap where
  lines : List Char
  indent : List Char
  blank : Blank (lines ++ indent)
  wholeLines : WholeLines lines
  noBreak : '\n' ∉ indent

namespace Gap

/-- The white space of a gap. -/
def text (g : Gap) : List Char := g.lines ++ g.indent

theorem blank_text (g : Gap) : Blank g.text := g.blank

variable {g : Gap}

theorem mem_text (hg : g.lines ≠ []) : '\n' ∈ g.text := by
  have hlast : g.lines.getLast hg = '\n' :=
    g.wholeLines _ (List.getLast?_eq_some_getLast hg)
  exact List.mem_append_left _ (hlast ▸ List.getLast_mem hg)

theorem exists_text (hg : g.lines ≠ []) : ∃ c s, g.text = c :: s ∧ Text.isWhiteSpace c := by
  obtain ⟨c, s, h⟩ := List.exists_cons_of_ne_nil (List.ne_nil_of_mem (mem_text hg))
  exact ⟨c, s, h, g.blank_text c (h ▸ List.mem_cons_self)⟩

variable {R : List Char} (hR : ∀ c ∈ R.head?, ¬ Text.isWhiteSpace c)

include hR in
theorem dropWhile_text (g : Gap) : (g.text ++ R).dropWhile Text.isWhiteSpace = R :=
  Text.dropWhile_run g.blank_text (by simpa using hR)

theorem lineEnd?_lines {k : List Char} (hk : lineEnd? k = none) : ∀ {s : List Char}, s ≠ [] →
    Blank s → WholeLines s → lineEnd? (s ++ k) = some k
  | [], hne, _, _ => absurd rfl hne
  | [c], _, _, hlines => by
    obtain rfl : c = '\n' := hlines c rfl
    rw [List.singleton_append, lineEnd?_newline, afterLines, hk]
    rfl
  | c :: d :: s, _, hs, hlines => by
    have ih := lineEnd?_lines hk (List.cons_ne_nil d s)
      (fun e he => hs e (List.mem_cons_of_mem c he)) (hlines.of_suffix (List.suffix_cons c _))
    rw [List.cons_append, lineEnd?, if_pos (hs c List.mem_cons_self), ih]

include hR in
/-- A marker in front of the gap takes it up to its last line break. -/
theorem lineEnd?_text (hg : g.lines ≠ []) : lineEnd? (g.text ++ R) = some (g.indent ++ R) := by
  rw [text, List.append_assoc]
  exact lineEnd?_lines (lineEnd?_indent hR g.noBreak) hg
    (fun c hc => g.blank c (List.mem_append_left _ hc)) g.wholeLines

/-- No condition reaches over a line break. -/
theorem condition?_blank (ends : List Char → Option (List Char)) (k : List Char) :
    ∀ {s : List Char}, Blank s → '\n' ∈ s → condition? ends (s ++ k) = none
  | [], _, h => by cases h
  | c :: s, hs, h => by
    rw [List.cons_append, condition?]
    by_cases hc : c = '\n'
    · rw [if_pos hc]
    · have hs' : Blank s := fun d hd => hs d (List.mem_cons_of_mem c hd)
      have hparen : c ≠ ')' := by
        rintro rfl
        exact absurd (hs _ List.mem_cons_self) (by decide)
      rw [if_neg hc, condition?_blank ends k hs' ((List.mem_cons.mp h).resolve_left (Ne.symm hc)),
        if_neg hparen]

/-- A run of characters in front of the gap ends there. -/
theorem run_append {p : Char → Bool} (hp : ∀ c, Text.isWhiteSpace c → p c = false)
    (hg : g.lines ≠ []) (X : List Char) :
    (X ++ (g.text ++ R)).takeWhile p = X.takeWhile p ∧
      (X ++ (g.text ++ R)).dropWhile p = X.dropWhile p ++ (g.text ++ R) := by
  obtain ⟨c, s, htext, hc⟩ := exists_text hg
  rw [htext, List.cons_append]
  induction X with
  | nil => simp [hp c hc]
  | cons d X ih =>
    by_cases hd : p d <;> simp [hd, ih]

end Gap

/-! ### Places that match -/

/-- Two gaps in front of the same text, both with a line break, to which the text adds no white
space. -/
structure Respaced (g g' : Gap) (R : List Char) : Prop where
  lines : g.lines ≠ []
  lines' : g'.lines ≠ []
  head : ∀ c ∈ R.head?, ¬ Text.isWhiteSpace c

/-- What is left of two texts with different gaps, at the same place in front of the gap or behind
the first character after it. -/
inductive Matching (g g' : Gap) (R : List Char) : List Char → List Char → Prop
  | before {X : List Char} (h : Ended X) :
    Matching g g' R (X ++ (g.text ++ R)) (X ++ (g'.text ++ R))
  | after {rest : List Char} (h : rest <:+ R.tail) (hat : ∃ c ∈ R.head?, c ≠ '@') :
    Matching g g' R rest rest

/-- What two markers leave that end at the same place, which may be the last line break of the
gap. -/
inductive MatchingEnd (g g' : Gap) (R : List Char) : List Char → List Char → Prop
  | same {cs cs' : List Char} (h : Matching g g' R cs cs') : MatchingEnd g g' R cs cs'
  | indent : MatchingEnd g g' R (g.indent ++ R) (g'.indent ++ R)

/-- Two readings give the same value and leave matching ends. -/
def SameRead {α : Type} (left : List Char → List Char → Prop) (a b : α × List Char) : Prop :=
  a.1 = b.1 ∧ left a.2 b.2

namespace Respaced

variable {g g' : Gap} {R : List Char} (h : Respaced g g' R)

theorem after_self {f : List Char → Option (List Char)} (hf : LeavesEnd f) {rest : List Char}
    (hrest : rest <:+ R.tail) (hat : ∃ c ∈ R.head?, c ≠ '@') :
    Option.Rel (Matching g g' R) (f rest) (f rest) := by
  cases hread : f rest with
  | none => exact .none
  | some left => exact .some (.after ((hf rest left hread).trans hrest) hat)

include h

theorem after? : ∀ {lead : List Char}, lead.any Text.isWhiteSpace = false →
    ∀ {cs cs' : List Char}, Matching g g' R cs cs' →
      Option.Rel (Matching g g' R) (Text.after? lead cs) (Text.after? lead cs')
  | lead, _, _, _, .after hrest hat => after_self (fun _ _ => suffix_of_after?) hrest hat
  | [], _, _, _, .before hX => .some (.before hX)
  | a :: lead, hlead, _, _, .before (X := []) hX => by
    obtain ⟨c, s, htext, hc⟩ := Gap.exists_text h.lines
    obtain ⟨c', s', htext', hc'⟩ := Gap.exists_text h.lines'
    have hne : ∀ d, Text.isWhiteSpace d → a ≠ d := by
      rintro d hd rfl; exact List.any_eq_false.mp hlead _ List.mem_cons_self hd
    rw [htext, htext', List.nil_append, List.nil_append, List.cons_append, List.cons_append,
      Text.after?, Text.after?, if_neg (hne c hc), if_neg (hne c' hc')]
    exact .none
  | a :: lead, hlead, _, _, .before (X := c :: X) hX => by
    rw [List.cons_append, List.cons_append, Text.after?, Text.after?]
    split
    · rw [List.any_cons, Bool.or_eq_false_iff] at hlead
      exact after? hlead.2 (.before hX.of_cons)
    · exact .none

/-- The end of a text in front of the gap, from which a run of characters is taken. -/
theorem before_dropWhile {X : List Char} (hX : Ended X) {p : Char → Bool}
    (hp : ∀ c, Text.isWhiteSpace c → p c = false) :
    Matching g g' R ((X ++ (g.text ++ R)).dropWhile p) ((X ++ (g'.text ++ R)).dropWhile p) := by
  rw [(Gap.run_append hp h.lines X).2, (Gap.run_append hp h.lines' X).2]
  exact .before (hX.of_suffix (List.dropWhile_suffix p))

omit h in
theorem tag?_self {cs : List Char} (hcs : ∀ tag rest, tag? cs = some (tag, rest) →
    Matching g g' R rest rest) : Option.Rel (SameRead (Matching g g' R)) (tag? cs) (tag? cs) := by
  cases hread : tag? cs with
  | none => exact .none
  | some read => exact .some ⟨rfl, hcs _ _ hread⟩

omit h in
theorem isAsciiLower_whiteSpace (c : Char) (hc : Text.isWhiteSpace c) :
    Text.isAsciiLower c = false := by
  refine Bool.eq_false_iff.mpr fun hlower => ?_
  refine Text.not_isWhiteSpace_of_isAsciiAlphanumeric ?_ hc
  rw [Text.isAsciiAlphanumeric, hlower]; rfl

theorem tag? {cs cs' : List Char} (hcs : Matching g g' R cs cs') :
    Option.Rel (SameRead (Matching g g' R)) (Marker.tag? cs) (Marker.tag? cs') := by
  cases hcs with
  | after hrest hat =>
    exact tag?_self fun _ _ hread => .after ((suffix_of_tag? hread).trans hrest) hat
  | @before X hX =>
    have hdrop := h.before_dropWhile hX isAsciiLower_whiteSpace
    unfold Marker.tag?
    rw [(Gap.run_append isAsciiLower_whiteSpace h.lines X).1,
      (Gap.run_append isAsciiLower_whiteSpace h.lines' X).1]
    cases X.takeWhile Text.isAsciiLower with
    | nil => exact .none
    | cons c s => exact .some ⟨rfl, hdrop⟩

omit h in
theorem blanks?_eq (cs : List Char) : Marker.blanks? cs =
    if cs.head?.any Text.isWhiteSpace then some (cs.dropWhile Text.isWhiteSpace) else none := by
  cases cs with
  | nil => rfl
  | cons c r => by_cases hc : Text.isWhiteSpace c <;> simp [Marker.blanks?, hc]

/-- Behind white space, the places match or are both the end of the gap. -/
theorem blanks? {cs cs' : List Char} (hcs : Matching g g' R cs cs') :
    Option.Rel (fun a a' => Matching g g' R a a' ∨ a = R ∧ a' = R) (Marker.blanks? cs)
      (Marker.blanks? cs') := by
  cases hcs with
  | after hrest hat =>
    cases hread : Marker.blanks? cs with
    | none => exact .none
    | some left =>
      exact .some (Or.inl (.after ((leavesEnd_blanks? cs left hread).trans hrest) hat))
  | @before X hX =>
    have hhead : (X ++ (g.text ++ R)).head?.any Text.isWhiteSpace =
        (X ++ (g'.text ++ R)).head?.any Text.isWhiteSpace := by
      cases X with
      | cons c X => rfl
      | nil =>
        obtain ⟨c, s, htext, hc⟩ := Gap.exists_text h.lines
        obtain ⟨c', s', htext', hc'⟩ := Gap.exists_text h.lines'
        simp [htext, htext', hc, hc']
    have hdrop : ∀ g : Gap, (X ++ (g.text ++ R)).dropWhile Text.isWhiteSpace =
        if (X.dropWhile Text.isWhiteSpace).isEmpty then R
        else X.dropWhile Text.isWhiteSpace ++ (g.text ++ R) := fun g => by
      rw [List.dropWhile_append, g.dropWhile_text h.head]
    rw [blanks?_eq, blanks?_eq, hhead]
    split
    · refine .some ?_
      rw [hdrop, hdrop]
      split
      · exact Or.inr ⟨rfl, rfl⟩
      · exact Or.inl (.before (hX.of_suffix (List.dropWhile_suffix _)))
    · exact .none

omit h in
theorem tag?_bounds {cs rest : List Char} {tag : String}
    (hread : Marker.tag? cs = some (tag, rest)) : rest <:+ cs.tail ∧ ∃ c ∈ cs.head?, c ≠ '@' := by
  cases cs with
  | nil => cases hread
  | cons c r =>
    by_cases hc : Text.isAsciiLower c
    · rw [Marker.tag?, List.takeWhile_cons_of_pos hc, List.dropWhile_cons_of_pos hc] at hread
      cases hread
      refine ⟨List.dropWhile_suffix _, c, rfl, ?_⟩
      rintro rfl
      exact absurd hc (by decide)
    · rw [Marker.tag?, List.takeWhile_cons_of_neg hc] at hread
      cases hread

theorem blanks_tag? {cs cs' : List Char} (hcs : Matching g g' R cs cs') :
    Option.Rel (SameRead (Matching g g' R)) (Marker.blanks? cs >>= Marker.tag?)
      (Marker.blanks? cs' >>= Marker.tag?) := by
  refine Option.rel_bind (h.blanks? hcs) ?_
  rintro a a' (ha | ⟨rfl, rfl⟩)
  · exact h.tag? ha
  · exact tag?_self fun _ _ hread => .after (tag?_bounds hread).1 (tag?_bounds hread).2

omit h in
/-- A single space in front of a tag does not lie in the gap, which holds a line break. -/
theorem space_tag?_gap {g : Gap} (hg : g.lines ≠ []) (k : List Char) :
    Marker.space? (g.text ++ k) >>= Marker.tag? = none := by
  obtain ⟨c, s, htext, -⟩ := Gap.exists_text hg
  rw [htext, List.cons_append]
  by_cases hc : c = ' '
  · have hbreak : '\n' ∈ s := by simpa [htext, hc] using Gap.mem_text hg
    obtain ⟨d, s', rfl⟩ := List.exists_cons_of_ne_nil (List.ne_nil_of_mem hbreak)
    have hd : Text.isWhiteSpace d := g.blank_text d (by rw [htext]; simp)
    rw [hc]
    show Marker.tag? (d :: (s' ++ k)) = none
    rw [Marker.tag?, List.takeWhile_cons_of_neg (by simp [isAsciiLower_whiteSpace d hd])]
  · have hnone : Marker.space? (c :: (s ++ k)) = none := by
      unfold Marker.space?
      split
      · rename_i heq
        exact absurd (List.cons.inj heq).1 hc
      · rfl
    rw [hnone]; rfl

theorem space_tag? {cs cs' : List Char} (hcs : Matching g g' R cs cs') :
    Option.Rel (SameRead (Matching g g' R)) (Marker.space? cs >>= Marker.tag?)
      (Marker.space? cs' >>= Marker.tag?) := by
  cases hcs with
  | after hrest hat =>
    refine Option.rel_bind (after_self leavesEnd_space? hrest hat) fun _ _ ha => h.tag? ha
  | @before X hX =>
    cases X with
    | nil =>
      rw [List.nil_append, List.nil_append, space_tag?_gap h.lines, space_tag?_gap h.lines']
      exact .none
    | cons c X =>
      refine Option.rel_bind ?_ fun _ _ ha => h.tag? ha
      by_cases hc : c = ' '
      · rw [hc]
        exact .some (.before hX.of_cons)
      · have hnone : ∀ k, Marker.space? (c :: k) = none := by
          intro k
          unfold Marker.space?
          split
          · rename_i heq
            exact absurd (List.cons.inj heq).1 hc
          · rfl
        rw [List.cons_append, List.cons_append, hnone, hnone]
        exact .none

/-! ### How markers end at matching places -/

/-- The reader ends markers at matching places. -/
def EndsAlike (g g' : Gap) (R : List Char) (ends : List Char → Option (List Char)) : Prop :=
  ∀ cs cs', Matching g g' R cs cs' → Option.Rel (MatchingEnd g g' R) (ends cs) (ends cs')

section Ends
variable {ends : List Char → Option (List Char)}

omit h in
theorem endsAlike_some : EndsAlike g g' R some := fun _ _ hcs => .some (.same hcs)

theorem startsWord_eq {cs cs' : List Char} (hcs : Matching g g' R cs cs') :
    startsWord cs = startsWord cs' := by
  cases hcs with
  | after => rfl
  | @before X hX =>
    cases X with
    | cons c X => rfl
    | nil =>
      obtain ⟨c, s, htext, hc⟩ := Gap.exists_text h.lines
      obtain ⟨c', s', htext', hc'⟩ := Gap.exists_text h.lines'
      have hword : ∀ d, Text.isWhiteSpace d → Text.isWordChar d = false :=
        fun d hd => Bool.eq_false_iff.mpr fun hw => Text.not_isWhiteSpace_of_isWordChar hw hd
      rw [htext, htext', List.nil_append, List.nil_append, List.cons_append, List.cons_append,
        startsWord, startsWord, hword c hc, hword c' hc']

theorem endsAlike_wordEnd? : EndsAlike g g' R wordEnd? := fun cs cs' hcs => by
  rw [wordEnd?, wordEnd?, h.startsWord_eq hcs]
  split
  · exact .none
  · exact .some (.same hcs)

theorem endsAlike_wordStart? : EndsAlike g g' R wordStart? := fun cs cs' hcs => by
  rw [wordStart?, wordStart?, h.startsWord_eq hcs]
  split
  · exact .some (.same hcs)
  · exact .none

omit h in
/-- White space in front of a solid character is passed without a look behind it. -/
theorem lineEnd?_append : ∀ {X : List Char}, Ended X → X ≠ [] → ∀ k,
    lineEnd? (X ++ k) = (lineEnd? X).map (· ++ k)
  | [], _, hne, _ => absurd rfl hne
  | [c], hX, _, k => by
    have hc : ¬ Text.isWhiteSpace c := hX c rfl
    rw [List.singleton_append, lineEnd?, lineEnd?, if_neg hc, if_neg hc]; rfl
  | c :: d :: X, hX, _, k => by
    have ih := lineEnd?_append hX.of_cons (List.cons_ne_nil d X) k
    rw [List.cons_append, lineEnd?, ih]
    conv_rhs => rw [lineEnd?]
    split
    · cases lineEnd? (d :: X) with
      | some rest => rfl
      | none =>
        dsimp only [Option.map_none]
        split <;> rfl
    · rfl

theorem endsAlike_lineEnd? : EndsAlike g g' R lineEnd? := fun cs cs' hcs => by
  cases hcs with
  | after hrest hat =>
    cases hread : lineEnd? cs with
    | none => exact .none
    | some left =>
      exact .some (.same (.after ((leavesEnd_lineEnd? cs left hread).trans hrest) hat))
  | @before X hX =>
    cases X with
    | nil =>
      rw [List.nil_append, List.nil_append, Gap.lineEnd?_text h.head h.lines,
        Gap.lineEnd?_text h.head h.lines']
      exact .some .indent
    | cons c X =>
      rw [lineEnd?_append hX (List.cons_ne_nil c X), lineEnd?_append hX (List.cons_ne_nil c X)]
      cases hread : lineEnd? (c :: X) with
      | none => exact .none
      | some left => exact .some (.same (.before (hX.of_suffix (leavesEnd_lineEnd? _ _ hread))))

variable (hleaves : LeavesEnd ends) (hends : EndsAlike g g' R ends)
include hleaves hends

theorem condition? {cs cs' : List Char} (hcs : Matching g g' R cs cs') :
    Option.Rel (SameRead (MatchingEnd g g' R)) (Marker.condition? ends cs)
      (Marker.condition? ends cs') := by
  cases hcs with
  | after hrest hat =>
    cases hread : Marker.condition? ends cs with
    | none => exact .none
    | some read =>
      exact .some ⟨rfl, .same (.after ((suffix_of_condition? hleaves hread).trans hrest) hat)⟩
  | @before X hX =>
    induction X with
    | nil =>
      rw [List.nil_append, List.nil_append,
        Gap.condition?_blank ends R g.blank_text (Gap.mem_text h.lines),
        Gap.condition?_blank ends R g'.blank_text (Gap.mem_text h.lines')]
      exact .none
    | cons c X ih =>
      rw [List.cons_append, List.cons_append, Marker.condition?, Marker.condition?]
      split
      · exact .none
      · have ih := ih hX.of_cons
        generalize Marker.condition? ends (X ++ (g.text ++ R)) = x at ih ⊢
        generalize Marker.condition? ends (X ++ (g'.text ++ R)) = x' at ih ⊢
        cases ih with
        | some hread => exact .some ⟨congrArg (c :: ·) hread.1, hread.2⟩
        | none =>
          dsimp only
          split
          · have hend := hends _ _ (.before hX.of_cons)
            generalize ends (X ++ (g.text ++ R)) = y at hend ⊢
            generalize ends (X ++ (g'.text ++ R)) = y' at hend ⊢
            cases hend with
            | none => exact .none
            | some hend => exact .some ⟨rfl, hend⟩
          · exact .none

theorem where? {cs cs' : List Char} (hcs : Matching g g' R cs cs') :
    Option.Rel (SameRead (MatchingEnd g g' R)) (Marker.where? ends cs)
      (Marker.where? ends cs') := by
  refine Option.rel_bind (h.blanks? hcs) fun a a' ha => ?_
  refine Option.rel_bind (r := Matching g g' R) ?_ fun _ _ hb => h.condition? hleaves hends hb
  rcases ha with ha | ⟨ha, ha'⟩
  · exact h.after? rfl ha
  · rw [ha, ha']
    cases hread : Text.after? ['w', 'h', 'e', 'r', 'e', '('] R with
    | none => exact .none
    | some left =>
      obtain rfl := Text.after?_eq_some_iff.mp hread
      exact .some (.after (List.suffix_append ['h', 'e', 'r', 'e', '('] left) ⟨'w', rfl, by decide⟩)

end Ends

/-! ### Markers at matching places -/

theorem loop? {gap endsTag endsCondition : List Char → Option (List Char)}
    (hgap : ∀ cs cs', Matching g g' R cs cs' → Option.Rel (SameRead (Matching g g' R))
      (gap cs >>= Marker.tag?) (gap cs' >>= Marker.tag?))
    (htag : EndsAlike g g' R endsTag) (hleaves : LeavesEnd endsCondition)
    (hcondition : EndsAlike g g' R endsCondition) {cs cs' : List Char}
    (hcs : Matching g g' R cs cs') :
    Option.Rel (SameRead (MatchingEnd g g' R)) (Marker.loop? gap endsTag endsCondition cs)
      (Marker.loop? gap endsTag endsCondition cs') := by
  refine Option.rel_bind (h.after? rfl hcs) fun r r' hr => ?_
  rw [← bind_assoc, ← bind_assoc]
  refine Option.rel_bind (hgap r r' hr) ?_
  rintro ⟨tag, r⟩ ⟨_, r'⟩ ⟨rfl, hr⟩
  have hwhere := h.where? hleaves hcondition hr
  have hend := htag r r' hr
  dsimp only
  generalize Marker.where? endsCondition r = x at hwhere ⊢
  generalize Marker.where? endsCondition r' = x' at hwhere ⊢
  cases hwhere with
  | some hread => exact .some ⟨by rw [hread.1], hread.2⟩
  | none =>
    generalize endsTag r = y at hend ⊢
    generalize endsTag r' = y' at hend ⊢
    cases hend with
    | none => exact .none
    | some hend => exact .some ⟨rfl, hend⟩

theorem cond? {ends : List Char → Option (List Char)} (hleaves : LeavesEnd ends)
    (hends : EndsAlike g g' R ends) {cs cs' : List Char} (hcs : Matching g g' R cs cs') :
    Option.Rel (SameRead (MatchingEnd g g' R)) (Marker.cond? ends cs) (Marker.cond? ends cs') := by
  refine Option.rel_bind (h.after? rfl hcs) fun r r' hr => ?_
  refine Option.rel_bind (h.condition? hleaves hends hr) ?_
  rintro ⟨cond, rest⟩ ⟨_, rest'⟩ ⟨rfl, hrest⟩
  exact .some ⟨rfl, hrest⟩

theorem close? {gap ends : List Char → Option (List Char)}
    (hgap : ∀ cs cs', Matching g g' R cs cs' → Option.Rel (SameRead (Matching g g' R))
      (gap cs >>= Marker.tag?) (gap cs' >>= Marker.tag?))
    (hends : EndsAlike g g' R ends) {cs cs' : List Char} (hcs : Matching g g' R cs cs') :
    Option.Rel (SameRead (MatchingEnd g g' R)) (Marker.close? gap ends cs)
      (Marker.close? gap ends cs') := by
  refine Option.rel_bind (h.after? rfl hcs) fun r r' hr => ?_
  rw [← bind_assoc, ← bind_assoc]
  refine Option.rel_bind (hgap r r' hr) ?_
  rintro ⟨tag, r⟩ ⟨_, r'⟩ ⟨rfl, hr⟩
  exact Option.rel_bind (hends r r' hr) fun _ _ hrest => .some ⟨rfl, hrest⟩

/-- **A line form reads alike** at matching places. -/
theorem line? (family : Family) {cs cs' : List Char} (hcs : Matching g g' R cs cs') :
    Option.Rel (SameRead (MatchingEnd g g' R)) (family.line? cs) (family.line? cs') := by
  have hgap := fun cs cs' => @blanks_tag? g g' R h cs cs'
  cases family with
  | loop => exact h.loop? hgap h.endsAlike_lineEnd? leavesEnd_lineEnd? h.endsAlike_lineEnd? hcs
  | cond => exact h.cond? leavesEnd_lineEnd? h.endsAlike_lineEnd? hcs
  | close => exact h.close? hgap h.endsAlike_lineEnd? hcs

/-- **An inline form reads alike** at matching places. -/
theorem inline? (family : Family) {cs cs' : List Char} (hcs : Matching g g' R cs cs') :
    Option.Rel (SameRead (MatchingEnd g g' R)) (family.inline? cs) (family.inline? cs') := by
  have hgap := fun cs cs' => @space_tag? g g' R h cs cs'
  cases family with
  | loop => exact h.loop? hgap h.endsAlike_wordEnd? leavesEnd_wordStart? h.endsAlike_wordStart? hcs
  | cond => exact h.cond? leavesEnd_some endsAlike_some hcs
  | close => exact h.close? hgap h.endsAlike_wordEnd? hcs

end Respaced

end Marker

end LayerStencil
