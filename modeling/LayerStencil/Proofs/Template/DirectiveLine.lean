import LayerStencil.Model.Kind
import LayerStencil.Proofs.Template.MarkerOrder

/-! # Lines of directives

A directive on a line of its own is found as one marker. The marker begins at the start of a line,
with nothing but white space before the at sign, and it ends behind the empty lines that follow.
Which of several empty lines before the directive it begins with depends on what its family has
found before. Lines without an at sign hold no marker.

* `exists_scanFrom_lines`: the scan passes lines without an at sign, up to the empty lines at their
  end.
* `exists_scanFrom_directive`: the scan of empty lines and a directive finds its marker, and goes on
  in the next line.
* `line?_foreach`, `line?_foreach_where`, `line?_if`, `line?_end`: how the directives read. -/

namespace LayerStencil.Marker

/-! ### Empty lines -/

/-- White space alone. -/
def Blank (s : List Char) : Prop := ∀ c ∈ s, Text.isWhiteSpace c

/-- Whole lines: the text is empty or ends with a line break. -/
def WholeLines (s : List Char) : Prop := ∀ c ∈ s.getLast?, c = '\n'

theorem wholeLines_nil : WholeLines [] := by simp [WholeLines]

theorem WholeLines.of_suffix {s t : List Char} (h : WholeLines s) (ht : t <:+ s) :
    WholeLines t := by
  obtain ⟨u, rfl⟩ := ht
  intro c hc
  refine h c ?_
  rw [List.getLast?_append, Option.mem_def.mp hc]; rfl

theorem WholeLines.lineStart {c : Char} {s : List Char} (h : WholeLines (c :: s)) :
    s = [] → decide (c = '\n') := by
  rintro rfl
  simpa using h c rfl

theorem WholeLines.append_line (s : List Char) {r : List Char} (hr : WholeLines r) :
    WholeLines (s ++ '\n' :: r) := by
  intro c hc
  rw [List.getLast?_append, List.getLast?_cons] at hc
  cases h : r.getLast? with
  | none => rw [h] at hc; simpa [eq_comm] using hc
  | some d =>
    obtain rfl : d = '\n' := hr d h
    rw [h] at hc
    simpa [eq_comm] using hc

theorem WholeLines.append {s t : List Char} (hs : WholeLines s) (ht : WholeLines t) :
    WholeLines (s ++ t) := by
  intro c hc
  rw [List.getLast?_append] at hc
  cases h : t.getLast? with
  | none => rw [h] at hc; exact hs c hc
  | some d => rw [h] at hc; exact ht c (h.trans hc)

/-- What follows the empty lines at the start of a text. -/
def afterLines (cs : List Char) : List Char := (lineEnd? cs).getD cs

theorem lineEnd?_newline (r : List Char) : lineEnd? ('\n' :: r) = some (afterLines r) := by
  have hspace : Text.isWhiteSpace '\n' := by decide
  rw [lineEnd?, if_pos hspace, afterLines]
  cases lineEnd? r <;> rfl

theorem exists_of_lineEnd? : ∀ {cs rest : List Char}, lineEnd? cs = some rest →
    ∃ s, Blank s ∧ cs = s ++ rest
  | [], _, h => by cases h
  | c :: r, rest, h => by
    rw [lineEnd?] at h
    split at h
    · rename_i hc
      split at h
      · rename_i hr
        cases h
        obtain ⟨s, hs, rfl⟩ := exists_of_lineEnd? hr
        exact ⟨c :: s, by simpa [Blank] using ⟨hc, hs⟩, rfl⟩
      · split at h
        · cases h; exact ⟨[c], by simpa [Blank] using hc, rfl⟩
        · cases h
    · cases h

theorem exists_afterLines (cs : List Char) : ∃ s, Blank s ∧ cs = s ++ afterLines cs := by
  unfold afterLines
  cases h : lineEnd? cs with
  | none => exact ⟨[], nofun, rfl⟩
  | some rest => exact exists_of_lineEnd? h

/-- The empty lines end before a text that does not start with any. -/
theorem suffix_afterLines {k : List Char} (hk : lineEnd? k = none) :
    ∀ w : List Char, k <:+ afterLines (w ++ k)
  | [] => by rw [List.nil_append, afterLines, hk]; exact List.suffix_rfl
  | c :: w => by
    have ih := suffix_afterLines hk w
    rw [afterLines] at ih ⊢
    rw [List.cons_append, lineEnd?]
    split
    · cases h : lineEnd? (w ++ k) with
      | some rest => rw [h] at ih; exact ih
      | none =>
        dsimp only
        split
        · exact List.suffix_append w k
        · exact List.suffix_append (c :: w) k
    · exact List.suffix_append (c :: w) k

theorem lineEnd?_indent {k : List Char} (hk : ∀ c ∈ k.head?, ¬ Text.isWhiteSpace c) :
    ∀ {indent : List Char}, '\n' ∉ indent → lineEnd? (indent ++ k) = none
  | [], _ => by
    cases k with
    | nil => rfl
    | cons c r => rw [List.nil_append, lineEnd?, if_neg (hk c rfl)]
  | c :: indent, hbreak => by
    rw [List.mem_cons, not_or] at hbreak
    rw [List.cons_append, lineEnd?, lineEnd?_indent hk hbreak.2]
    simp [Ne.symm hbreak.1]

/-- The number of characters of the empty lines at the start of a text. -/
def emptyLines (cs : List Char) : Nat := cs.length - (afterLines cs).length

theorem length_afterLines_le (cs : List Char) : (afterLines cs).length ≤ cs.length := by
  obtain ⟨s, -, hcs⟩ := exists_afterLines cs
  have := congrArg List.length hcs
  rw [List.length_append] at this
  omega

theorem emptyLines_le {k : List Char} (hk : lineEnd? k = none) (w : List Char) :
    emptyLines (w ++ k) ≤ w.length := by
  have hle := (suffix_afterLines hk w).length_le
  rw [emptyLines, List.length_append]
  omega

theorem blank_take {cs : List Char} {n : Nat} (hn : n ≤ emptyLines cs) : Blank (cs.take n) := by
  obtain ⟨s, hs, hcs⟩ := exists_afterLines cs
  have hlen := congrArg List.length hcs
  rw [List.length_append] at hlen
  rw [emptyLines] at hn
  rw [hcs, List.take_append_of_le_length (by omega)]
  exact fun c hc => hs c (List.mem_of_mem_take hc)

/-! ### Where no marker is found -/

theorem not_isWhiteSpace_at : ¬ Text.isWhiteSpace '@' := by decide

theorem head?_lead (family : Family) (r : List Char) : (family.lead ++ r).head? = some '@' := by
  cases family <;> rfl

theorem Family.marker?_eq_none {family : Family} {lineStart : Bool} {cs : List Char}
    (hhere : cs.head? ≠ some '@')
    (hline : lineStart → (cs.dropWhile Text.isWhiteSpace).head? ≠ some '@') (i : Nat) :
    family.marker? lineStart i cs = none := by
  have hbody : (if lineStart then family.line? (cs.dropWhile Text.isWhiteSpace) else none) =
      none := by
    cases lineStart with
    | false => rfl
    | true =>
      refine Option.eq_none_iff_forall_ne_some.mpr ?_
      rintro ⟨mark, rest⟩ h
      obtain ⟨r, hr, -⟩ := Family.lead_line? h
      exact hline rfl (hr ▸ head?_lead family r)
  have hinline : family.inline? cs = none := by
    refine Option.eq_none_iff_forall_ne_some.mpr ?_
    rintro ⟨mark, rest⟩ h
    obtain ⟨r, rfl, -⟩ := Family.lead_inline? h
    exact hhere (head?_lead family r)
  unfold Family.marker?
  dsimp only
  rw [hbody, hinline]

/-- Only one of the families has something to find. -/
theorem findSome?_family {α : Type} {find : Family → Option α} {family : Family}
    (h : ∀ family' ≠ family, find family' = none) :
    [Family.loop, Family.cond, Family.close].findSome? find = find family := by
  cases hfind : find family <;> cases family <;> simp [h, hfind]

theorem Progress.next?_eq_none {p : Progress} {lineStart : Bool} {i : Nat} {cs : List Char}
    (h : ∀ family, p.marker? family lineStart i cs = none) : p.next? lineStart i cs = none := by
  simp [Progress.next?, h]

theorem scanFrom_step {p : Progress} {lineStart : Bool} {i : Nat} {c : Char} {r : List Char}
    (h : ∀ family, p.marker? family lineStart i (c :: r) = none) :
    scanFrom p lineStart i (c :: r) = scanFrom p (c = '\n') (i + 1) r := by
  rw [scanFrom, Progress.next?_eq_none h]

/-- A character after which no at sign follows the white space, if a line starts with it. -/
theorem scanFrom_quiet (p : Progress) {lineStart : Bool} (i : Nat) {c : Char} {r : List Char}
    (hc : c ≠ '@')
    (hline : lineStart → ((c :: r).dropWhile Text.isWhiteSpace).head? ≠ some '@') :
    scanFrom p lineStart i (c :: r) = scanFrom p (c = '\n') (i + 1) r := by
  refine scanFrom_step fun family => ?_
  unfold Progress.marker?
  split
  · exact Family.marker?_eq_none (by simpa using hc) hline i
  · rfl

theorem scanFrom_blank (p : Progress) : ∀ {s : List Char}, Blank s → ∀ lineStart i,
    scanFrom p lineStart i s = []
  | [], _, _, _ => rfl
  | c :: s, hs, lineStart, i => by
    have hc : c ≠ '@' := by rintro rfl; exact not_isWhiteSpace_at (hs _ List.mem_cons_self)
    have hdrop : (c :: s).dropWhile Text.isWhiteSpace = [] := by
      rw [List.dropWhile_eq_nil_iff]; exact hs
    rw [scanFrom_quiet p i hc (by simp [hdrop])]
    exact scanFrom_blank p (fun d hd => hs d (List.mem_cons_of_mem _ hd)) _ _

/-- The rest of a line up to a place before which it has no at sign. -/
theorem scanFrom_sameLine (p : Progress) (r : List Char) : ∀ {u : List Char}, '@' ∉ u →
    '\n' ∉ u → ∀ i, scanFrom p false i (u ++ r) = scanFrom p false (i + u.length) r
  | [], _, _, _ => rfl
  | c :: u, hat, hbreak, i => by
    rw [List.mem_cons, not_or] at hat hbreak
    have hc : decide (c = '\n') = false := by simpa using Ne.symm hbreak.1
    rw [List.cons_append, scanFrom_quiet p i (Ne.symm hat.1) (by simp), hc,
      scanFrom_sameLine p r hat.2 hbreak.2, List.length_cons]
    congr 1; omega

/-- The rest of a line without an at sign. -/
theorem scanFrom_restOfLine (p : Progress) (r : List Char) {u : List Char} (hat : '@' ∉ u)
    (hbreak : '\n' ∉ u) (i : Nat) :
    scanFrom p false i (u ++ '\n' :: r) = scanFrom p true (i + u.length + 1) r := by
  rw [scanFrom_sameLine p _ hat hbreak, scanFrom_quiet p _ (by decide) (by simp)]
  rfl

/-- **Lines without an at sign** hold no marker; a marker may begin with the empty lines at their
end. -/
theorem exists_scanFrom_lines : ∀ {w : List Char} {lineStart : Bool}, '@' ∉ w → WholeLines w →
    (w = [] → lineStart) → ∃ s b, w = s ++ b ∧ Blank b ∧ WholeLines b ∧
      ∀ p i k, scanFrom p lineStart i (w ++ k) = scanFrom p true (i + s.length) (b ++ k)
  | [], lineStart, _, _, hstart => by
    obtain rfl : lineStart = true := hstart rfl
    exact ⟨[], [], rfl, List.forall_mem_nil _, wholeLines_nil, fun _ _ _ => rfl⟩
  | c :: r, lineStart, hat, hlines, _ => by
    rw [List.mem_cons, not_or] at hat
    by_cases hblank : lineStart ∧ Blank (c :: r)
    · obtain ⟨rfl, hblank⟩ := hblank
      exact ⟨[], c :: r, rfl, hblank, hlines, fun _ _ _ => rfl⟩
    · obtain ⟨s, b, rfl, hb, hbl, hscan⟩ :=
        exists_scanFrom_lines hat.2 (hlines.of_suffix (List.suffix_cons _ _)) hlines.lineStart
      refine ⟨c :: s, b, rfl, hb, hbl, fun p i k => ?_⟩
      rw [List.cons_append, scanFrom_quiet p i (Ne.symm hat.1), hscan, List.length_cons]
      · congr 1; omega
      · -- The white space at the start of the line ends inside the lines, and not at an at sign.
        intro hstart
        have hne : (c :: (s ++ b)).dropWhile Text.isWhiteSpace ≠ [] := by
          rw [Ne, List.dropWhile_eq_nil_iff]
          exact fun h => hblank ⟨hstart, h⟩
        obtain ⟨d, t, hd⟩ := List.exists_cons_of_ne_nil hne
        have hmem : d ∈ c :: (s ++ b) :=
          (List.dropWhile_sublist _).subset (hd ▸ List.mem_cons_self)
        rw [← List.cons_append, List.dropWhile_append, hd]
        rintro ⟨⟩
        simp_all

/-! ### Where a directive is found -/

theorem dropWhile_blank {s : List Char} (hs : Blank s) {d : Char} (hd : ¬ Text.isWhiteSpace d)
    (t : List Char) : (s ++ d :: t).dropWhile Text.isWhiteSpace = d :: t :=
  Text.dropWhile_run hs (by simpa using hd)

theorem dropWhile_directive {s : List Char} (hs : Blank s) (t : List Char) :
    (s ++ '@' :: t).dropWhile Text.isWhiteSpace = '@' :: t :=
  dropWhile_blank hs not_isWhiteSpace_at t

/-- The readers of a family find nothing where its word does not stand. -/
theorem Family.read_eq_none {family : Family} {t : List Char} (hlead : ∀ r, t ≠ family.lead ++ r) :
    family.line? t = none ∧ family.inline? t = none := by
  constructor <;> refine Option.eq_none_iff_forall_ne_some.mpr ?_ <;> rintro ⟨mark, rest⟩ h
  · obtain ⟨r, hr, -⟩ := Family.lead_line? h
    exact hlead r hr
  · obtain ⟨r, hr, -⟩ := Family.lead_inline? h
    exact hlead r hr

/-- A family has no marker in white space before a place where its word does not stand. -/
theorem Family.marker?_noLead {family : Family} {d : Char} {t : List Char}
    (hd : ¬ Text.isWhiteSpace d) (hlead : ∀ r, d :: t ≠ family.lead ++ r) {s : List Char}
    (hs : Blank s) (lineStart : Bool) (i : Nat) :
    family.marker? lineStart i (s ++ d :: t) = none := by
  obtain ⟨hline, hinline⟩ := Family.read_eq_none hlead
  have hinline' : family.inline? (s ++ d :: t) = none := by
    cases s with
    | nil => exact hinline
    | cons c s =>
      refine (Family.read_eq_none fun r hr => ?_).2
      have hhead := head?_lead family r
      rw [← hr] at hhead
      obtain rfl : c = '@' := Option.some.inj hhead
      exact not_isWhiteSpace_at (hs _ List.mem_cons_self)
  unfold Family.marker?
  dsimp only
  rw [dropWhile_blank hs hd, hline, hinline', ite_self]

theorem next?_lead {family : Family} {t r : List Char} (hlead : '@' :: t = family.lead ++ r)
    (p : Progress) {s : List Char} (hs : Blank s) (lineStart : Bool) (i : Nat) :
    p.next? lineStart i (s ++ '@' :: t) =
      (p.marker? family lineStart i (s ++ '@' :: t)).map fun m => (m, p.advance m.stop family) := by
  refine findSome?_family fun family' hne => ?_
  have hother : ∀ r', '@' :: t ≠ family'.lead ++ r' :=
    fun r' hr' => hne (Family.eq_of_lead (hr'.symm.trans hlead))
  rw [Progress.marker?, Family.marker?_noLead not_isWhiteSpace_at hother hs, ite_self,
    Option.map_none]

section Directive
variable {family : Family} {t rest : List Char} {mark : Mark}
  (hline : family.line? ('@' :: t) = some (mark, rest))
include hline

theorem next?_directive (p : Progress) {s : List Char} (hs : Blank s) (lineStart : Bool) (i : Nat) :
    p.next? lineStart i (s ++ '@' :: t) =
      (p.marker? family lineStart i (s ++ '@' :: t)).map fun m => (m, p.advance m.stop family) := by
  obtain ⟨r, hlead, -⟩ := Family.lead_line? hline
  exact next?_lead hlead p hs lineStart i

/-- The marker is found where a line begins, if its family has come no further. -/
theorem marker?_directive {p : Progress} {s : List Char} (hs : Blank s) {i : Nat}
    (hp : p.of family ≤ i) : p.marker? family true i (s ++ '@' :: t) =
      some ⟨i, i + ((s ++ '@' :: t).length - rest.length), i + s.length, mark⟩ := by
  have hsign : (s ++ '@' :: t).length - ('@' :: t).length = s.length := by simp
  unfold Progress.marker? Family.marker?
  dsimp only
  rw [if_pos hp, dropWhile_directive hs, if_pos rfl, hline, hsign]

omit hline in
theorem marker?_inside {p : Progress} {c : Char} {s : List Char} (hs : Blank (c :: s)) (i : Nat) :
    p.marker? family false i (c :: s ++ '@' :: t) = none := by
  have hc : c ≠ '@' := by rintro rfl; exact not_isWhiteSpace_at (hs _ List.mem_cons_self)
  unfold Progress.marker?
  rw [Family.marker?_eq_none (by simpa using hc) (by simp), ite_self]

/-- Once its marker is found, the rest of the white space and the at sign are passed. -/
theorem scanFrom_found {p : Progress} : ∀ {s : List Char}, Blank s → ∀ lineStart {i : Nat},
    i + s.length < p.of family →
      scanFrom p lineStart i (s ++ '@' :: t) = scanFrom p false (i + s.length + 1) t
  | [], hs, lineStart, i, hp => by
    have hnext : p.next? lineStart i ([] ++ '@' :: t) = none := by
      rw [next?_directive hline p hs, Progress.marker?, if_neg (by simpa using hp), Option.map_none]
    rw [List.nil_append] at hnext ⊢
    rw [scanFrom, hnext]; rfl
  | c :: s, hs, lineStart, i, hp => by
    rw [List.length_cons] at hp
    have hnext : p.next? lineStart i (c :: s ++ '@' :: t) = none := by
      rw [next?_directive hline p hs, Progress.marker?, if_neg (by omega), Option.map_none]
    rw [List.cons_append] at hnext ⊢
    rw [scanFrom, hnext, List.length_cons]
    dsimp only
    rw [scanFrom_found (fun d hd => hs d (List.mem_cons_of_mem _ hd)) _ (by omega)]
    congr 1; omega

theorem length_rest_le : rest.length ≤ t.length := by
  obtain ⟨r, hr, hrest⟩ := Family.lead_line? hline
  have hlead := congrArg List.length hr
  have hpos : 0 < family.lead.length := by cases family <;> decide
  have hle := hrest.length_le
  rw [List.length_append, List.length_cons] at hlead
  omega

/-- The scan from a place where the marker is found. -/
theorem scanFrom_marker {p : Progress} {s : List Char} (hs : Blank s) {i : Nat}
    (hp : p.of family ≤ i) : ∃ m : Marker, m.mark = mark ∧ m.start = i ∧ m.sign = i + s.length ∧
      m.stop = m.sign + (('@' :: t).length - rest.length) ∧
      scanFrom p true i (s ++ '@' :: t) =
        m :: scanFrom (p.advance m.stop family) false (m.sign + 1) t := by
  have hrest := length_rest_le hline
  have hstop : i + ((s ++ '@' :: t).length - rest.length) =
      i + s.length + (('@' :: t).length - rest.length) := by
    simp only [List.length_append, List.length_cons]; omega
  have hnext := next?_directive hline p hs true i
  rw [marker?_directive hline hs hp, Option.map_some, hstop] at hnext
  refine ⟨⟨i, i + s.length + (('@' :: t).length - rest.length), i + s.length, mark⟩, rfl, rfl, rfl,
    rfl, ?_⟩
  cases s with
  | nil =>
    rw [List.nil_append] at hnext ⊢
    rw [scanFrom, hnext]; rfl
  | cons c s =>
    rw [List.cons_append] at hnext ⊢
    rw [scanFrom, hnext]
    dsimp only
    rw [scanFrom_found hline (fun d hd => hs d (List.mem_cons_of_mem _ hd)), List.length_cons]
    · congr 2; omega
    · rw [Progress.of_advance]; simp only [List.length_cons]; omega

/-- The marker begins where the first of the empty lines begins that its family has not come
past. -/
theorem exists_scanFrom_blank {indent : List Char} (hindent : Blank indent) {p : Progress} :
    ∀ {b : List Char} {lineStart : Bool} {i : Nat}, Blank b → WholeLines b →
      (b = [] → lineStart) → p.of family ≤ i + b.length →
        ∃ m : Marker, m.mark = mark ∧ i ≤ m.start ∧ m.start ≤ i + b.length ∧
          m.sign = i + b.length + indent.length ∧
          m.stop = m.sign + (('@' :: t).length - rest.length) ∧
          scanFrom p lineStart i (b ++ (indent ++ '@' :: t)) =
            m :: scanFrom (p.advance m.stop family) false (m.sign + 1) t
  | b, lineStart, i, hb, hlines, hstart, hp => by
    have hs : Blank (b ++ indent) := fun c hc => (List.mem_append.mp hc).elim (hb c) (hindent c)
    by_cases hfound : lineStart ∧ p.of family ≤ i
    · obtain ⟨rfl, hp⟩ := hfound
      obtain ⟨m, hmark, hmstart, hsign, hstop, hscan⟩ := scanFrom_marker hline hs hp
      rw [List.append_assoc] at hscan
      rw [List.length_append, ← Nat.add_assoc] at hsign
      exact ⟨m, hmark, by omega, by omega, hsign, hstop, hscan⟩
    · cases b with
      | nil => exact absurd ⟨hstart rfl, by simpa using hp⟩ hfound
      | cons c b =>
        have hnone : p.marker? family lineStart i (c :: b ++ indent ++ '@' :: t) = none := by
          cases lineStart with
          | false => exact marker?_inside hs i
          | true => rw [Progress.marker?, if_neg fun hle => hfound ⟨rfl, hle⟩]
        have hnext := next?_directive hline p hs lineStart i
        rw [hnone, Option.map_none, List.append_assoc, List.cons_append] at hnext
        rw [List.length_cons] at hp ⊢
        have hp' : p.of family ≤ i + 1 + b.length := by omega
        obtain ⟨m, hmark, hle, hmstart, hsign, hstop, hscan⟩ := exists_scanFrom_blank hindent
          (fun d hd => hb d (List.mem_cons_of_mem _ hd)) (hlines.of_suffix (List.suffix_cons _ _))
          hlines.lineStart hp'
        refine ⟨m, hmark, by omega, by omega, by omega, hstop, ?_⟩
        rw [List.cons_append, scanFrom, hnext]
        exact hscan

end Directive

/-- **A directive on a line of its own** is one marker, after which the next line is scanned. -/
theorem exists_scanFrom_directive {family : Family} {u r : List Char} {mark : Mark}
    (hline : family.line? ('@' :: (u ++ '\n' :: r)) = some (mark, afterLines r)) (hat : '@' ∉ u)
    (hbreak : '\n' ∉ u) {b indent : List Char} (hb : Blank b) (hlines : WholeLines b)
    (hindent : Blank indent) {p : Progress} {i : Nat} (hp : p.of family ≤ i + b.length) :
    ∃ m : Marker, m.mark = mark ∧ i ≤ m.start ∧ m.start ≤ i + b.length ∧
      m.sign = i + b.length + indent.length ∧ m.stop = m.sign + u.length + 2 + emptyLines r ∧
      scanFrom p true i (b ++ (indent ++ '@' :: (u ++ '\n' :: r))) =
        m :: scanFrom (p.advance m.stop family) true (m.sign + u.length + 2) r := by
  obtain ⟨m, hmark, hle, hstart, hsign, hstop, hscan⟩ :=
    exists_scanFrom_blank hline hindent hb hlines (fun _ => rfl) hp
  have hrest := length_afterLines_le r
  refine ⟨m, hmark, hle, hstart, hsign, ?_, ?_⟩
  · rw [hstop, emptyLines]
    simp only [List.length_append, List.length_cons]
    omega
  · rw [hscan, scanFrom_restOfLine _ r hat hbreak]
    congr 2; omega

theorem Progress.of_advance_le {p : Progress} {n : Nat} (hp : ∀ family, p.of family ≤ n)
    {stop : Nat} (hstop : stop ≤ n) (family family' : Family) :
    (p.advance stop family).of family' ≤ n := by
  have := hp family'
  cases family <;> cases family' <;> simp_all [Progress.of, Progress.advance]

/-! ### How directives read -/

/-- The text is a word of lower case letters. -/
def Letters (s : String) : Prop := s.toList ≠ [] ∧
  ∀ c ∈ s.toList, Text.isAsciiLower c ∧ ¬ Text.isWhiteSpace c ∧ c ≠ '@' ∧ c ≠ '\n'

theorem Letters.of {c : Char} {cs : List Char} (h : (c :: cs).all fun c =>
      Text.isAsciiLower c && !Text.isWhiteSpace c && c ≠ '@' && c ≠ '\n') :
    Letters (String.ofList (c :: cs)) := by
  rw [Letters, String.toList_ofList]
  refine ⟨List.cons_ne_nil c cs, fun d hd => ?_⟩
  simpa [and_assoc] using List.all_eq_true.mp h d hd

theorem tag_letters (kind : ControlKind) : Letters kind.tag := by
  rcases kind with _ | kind
  · exact .of rfl
  · cases kind <;> exact .of rfl

theorem tag?_tag (kind : ControlKind) (rest : List Char)
    (hrest : ∀ c ∈ rest.head?, ¬ Text.isAsciiLower c) :
    tag? (kind.tag.toList ++ rest) = some (kind.tag, rest) := by
  obtain ⟨hne, hletters⟩ := tag_letters kind
  obtain ⟨c, s, hcs⟩ := List.exists_cons_of_ne_nil hne
  have htake := Text.takeWhile_run (fun c hc => (hletters c hc).1) hrest
  have hdrop := Text.dropWhile_run (fun c hc => (hletters c hc).1) hrest
  unfold tag?
  rw [htake, hdrop, hcs]
  show some (String.ofList (c :: s), rest) = _
  rw [← hcs, String.ofList_toList]

theorem blanks?_tag (kind : ControlKind) (rest : List Char) :
    blanks? (' ' :: (kind.tag.toList ++ rest)) = some (kind.tag.toList ++ rest) := by
  obtain ⟨hne, hletters⟩ := tag_letters kind
  obtain ⟨c, s, hcs⟩ := List.exists_cons_of_ne_nil hne
  have hc := (hletters c (hcs ▸ List.mem_cons_self)).2.1
  rw [blanks?, if_pos (by decide), hcs, List.cons_append, List.dropWhile_cons_of_neg hc]

/-- A condition ends at a closing parenthesis after which no other one ends it. -/
theorem condition?_last {ends : List Char → Option (List Char)} {r rest : List Char}
    (hends : ends r = some rest) (hlast : condition? ends r = none) : ∀ {condition : List Char},
      '\n' ∉ condition → condition? ends (condition ++ ')' :: r) = some (condition, rest)
  | [], _ => by
    rw [List.nil_append, condition?, if_neg (by decide), hlast]
    dsimp only
    rw [if_pos rfl, hends, Option.map_some]
  | c :: condition, hbreak => by
    rw [List.mem_cons, not_or] at hbreak
    rw [List.cons_append, condition?, if_neg (Ne.symm hbreak.1),
      condition?_last hends hlast hbreak.2]

/-- A condition ends at the closing parenthesis at the end of its line. -/
theorem condition?_line {ends : List Char → Option (List Char)} {r rest : List Char}
    (hends : ends ('\n' :: r) = some rest) {condition : List Char} (hbreak : '\n' ∉ condition) :
    condition? ends (condition ++ ')' :: '\n' :: r) = some (condition, rest) :=
  condition?_last hends (by rw [condition?, if_pos rfl]) hbreak

/-- The word that introduces the condition of a loop. -/
def whereWord : List Char := ['w', 'h', 'e', 'r', 'e', '(']

theorem where?_word (ends : List Char → Option (List Char)) (cs : List Char) :
    where? ends (' ' :: (whereWord ++ cs)) = condition? ends cs := by
  have hblanks : blanks? (' ' :: (whereWord ++ cs)) = some (whereWord ++ cs) := rfl
  have hafter : Text.after? whereWord (whereWord ++ cs) = some cs :=
    Text.after?_eq_some_iff.mpr rfl
  simp only [where?, hblanks, Option.bind_eq_bind, Option.bind_some]
  rw [show ['w', 'h', 'e', 'r', 'e', '('] = whereWord from rfl, hafter, Option.bind_some]

theorem where?_line {condition r : List Char} (hbreak : '\n' ∉ condition) :
    where? lineEnd? (' ' :: (whereWord ++ (condition ++ ')' :: '\n' :: r))) =
      some (condition, afterLines r) := by
  rw [where?_word, condition?_line (lineEnd?_newline r) hbreak]

theorem where?_eq_none {r : List Char} (h : ¬ whereWord <+: r.dropWhile Text.isWhiteSpace) :
    where? lineEnd? ('\n' :: r) = none := by
  have hblanks : blanks? ('\n' :: r) = some (r.dropWhile Text.isWhiteSpace) := rfl
  have hafter : Text.after? ['w', 'h', 'e', 'r', 'e', '('] (r.dropWhile Text.isWhiteSpace) =
      none := by
    refine Option.eq_none_iff_forall_ne_some.mpr fun rest hrest => h ?_
    exact ⟨rest, (Text.after?_eq_some_iff.mp hrest).symm⟩
  simp only [where?, hblanks, Option.bind_eq_bind, Option.bind_some]
  rw [hafter, Option.bind_none]

theorem line?_foreach (kind : Kind) {r : List Char}
    (hwhere : ¬ whereWord <+: r.dropWhile Text.isWhiteSpace) :
    Family.loop.line? ('@' :: 'f' :: 'o' :: 'r' :: 'e' :: 'a' :: 'c' :: 'h' :: ' ' ::
      (kind.tag.toList ++ '\n' :: r)) = some (.opens kind.tag none, afterLines r) := by
  have htag := tag?_tag (.each kind) ('\n' :: r) (by simp; decide)
  have hblanks := blanks?_tag (.each kind) ('\n' :: r)
  simp only [ControlKind.tag] at htag hblanks
  simp only [Family.line?, loop?, Text.after?, if_true, hblanks, htag, where?_eq_none hwhere,
    lineEnd?_newline, Option.bind_eq_bind, Option.bind_some, Option.map_some]

theorem line?_foreach_where (kind : Kind) {condition : List Char} (r : List Char)
    (hbreak : '\n' ∉ condition) :
    Family.loop.line? ('@' :: 'f' :: 'o' :: 'r' :: 'e' :: 'a' :: 'c' :: 'h' :: ' ' ::
      (kind.tag.toList ++ ' ' :: (whereWord ++ (condition ++ ')' :: '\n' :: r)))) =
        some (.opens kind.tag (some condition), afterLines r) := by
  have htag := tag?_tag (.each kind) (' ' :: (whereWord ++ (condition ++ ')' :: '\n' :: r)))
    (by simp; decide)
  have hblanks := blanks?_tag (.each kind) (' ' :: (whereWord ++ (condition ++ ')' :: '\n' :: r)))
  simp only [ControlKind.tag] at htag hblanks
  simp only [Family.line?, loop?, Text.after?, if_true, hblanks, htag, where?_line hbreak,
    Option.bind_eq_bind, Option.bind_some]

theorem line?_if {condition : List Char} (r : List Char) (hbreak : '\n' ∉ condition) :
    Family.cond.line? ('@' :: 'i' :: 'f' :: '(' :: (condition ++ ')' :: '\n' :: r)) =
      some (.opens "if" (some condition), afterLines r) := by
  simp only [Family.line?, cond?, Text.after?, if_true,
    condition?_line (lineEnd?_newline r) hbreak, Option.bind_eq_bind, Option.bind_some]
  rfl

theorem line?_end (kind : ControlKind) (r : List Char) :
    Family.close.line? ('@' :: 'e' :: 'n' :: 'd' :: ' ' :: (kind.tag.toList ++ '\n' :: r)) =
      some (.closes kind.tag, afterLines r) := by
  have htag := tag?_tag kind ('\n' :: r) (by simp; decide)
  simp only [Family.line?, close?, Text.after?, if_true, blanks?_tag, htag, lineEnd?_newline,
    Option.bind_eq_bind, Option.bind_some]
  rfl

end LayerStencil.Marker
