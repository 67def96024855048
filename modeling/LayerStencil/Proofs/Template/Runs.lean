import LayerStencil.Proofs.Template.DirectiveLine

/-! # The scan, run by run

White space holds no at sign, so a scan can pass a run of it together with the character behind it.
What it finds there depends on the run only through the lines that start in it: a line form begins
at the first line start that its family has not come past.

* `lineStart?`: the line start in a run at which a marker may begin.
* `scanFrom_run`: one step of the scan, over a run of white space and the character behind it.
* `exists_read_of_mem_scan`: every marker is a line form that begins with a line, or an inline form
  that begins with its at sign.
* `ne_newline_of_inline?`: an inline form does not end with a line. -/

namespace LayerStencil.Marker

/-! ### Line starts in white space -/

/-- The first line start, from the position `least` on, in white space that begins at `i`; the end
of the white space counts, and `lineStart` tells whether its beginning does. -/
def lineStart? (least : Nat) : (lineStart : Bool) → (i : Nat) → List Char → Option Nat
  | lineStart, i, [] => if lineStart ∧ least ≤ i then some i else none
  | lineStart, i, c :: s =>
    if lineStart ∧ least ≤ i then some i else lineStart? least (c = '\n') (i + 1) s

theorem lineStart?_here {least i : Nat} (h : least ≤ i) (s : List Char) :
    lineStart? least true i s = some i := by
  cases s <;> rw [lineStart?, if_pos ⟨rfl, h⟩]

theorem lineStart?_cons {least i : Nat} {lineStart : Bool} (h : ¬ (lineStart ∧ least ≤ i))
    (c : Char) (s : List Char) : lineStart? least lineStart i (c :: s) =
      lineStart? least (c = '\n') (i + 1) s := by
  rw [lineStart?, if_neg h]

/-- Only how `least` compares with the positions of the white space matters. -/
theorem lineStart?_congr {least least' : Nat} : ∀ {s : List Char} {lineStart : Bool} {i : Nat},
    (∀ j, i ≤ j → j ≤ i + s.length → (least ≤ j ↔ least' ≤ j)) →
      lineStart? least lineStart i s = lineStart? least' lineStart i s
  | [], lineStart, i, h => by
    simp only [lineStart?, h i (Nat.le_refl i) (Nat.le_refl i)]
  | c :: s, lineStart, i, h => by
    have hrest : lineStart? least (c = '\n') (i + 1) s = lineStart? least' (c = '\n') (i + 1) s :=
      lineStart?_congr fun j hj hj' => h j (by omega) (by rw [List.length_cons]; omega)
    simp only [lineStart?, h i (Nat.le_refl i) (Nat.le_add_right i _), hrest]

theorem lineStart?_bounds {least : Nat} : ∀ {s : List Char} {lineStart : Bool} {i start : Nat},
    lineStart? least lineStart i s = some start →
      least ≤ start ∧ i ≤ start ∧ start ≤ i + s.length
  | [], lineStart, i, start, h => by
    rw [lineStart?] at h
    split at h <;> cases h
    rename_i hhere
    exact ⟨hhere.2, Nat.le_refl i, Nat.le_refl i⟩
  | c :: s, lineStart, i, start, h => by
    rw [lineStart?] at h
    split at h
    · rename_i hhere
      cases h
      exact ⟨hhere.2, Nat.le_refl i, Nat.le_add_right i _⟩
    · obtain ⟨hleast, hi, hstart⟩ := lineStart?_bounds h
      rw [List.length_cons]
      omega

theorem lineStart?_eq_none {least i : Nat} {s : List Char} (h : i + s.length < least)
    (lineStart : Bool) : lineStart? least lineStart i s = none := by
  refine Option.eq_none_iff_forall_ne_some.mpr fun start hstart => ?_
  have := lineStart?_bounds hstart
  omega

/-- A line start does not depend on the white space behind it. -/
theorem lineStart?_append {least : Nat} (t : List Char) :
    ∀ {s : List Char} {lineStart : Bool} {i start : Nat},
      lineStart? least lineStart i s = some start →
        lineStart? least lineStart i (s ++ t) = some start
  | [], lineStart, i, start, h => by
    rw [lineStart?] at h
    split at h <;> cases h
    rename_i hhere
    obtain ⟨rfl, hle⟩ := hhere
    exact lineStart?_here hle _
  | c :: s, lineStart, i, start, h => by
    rw [List.cons_append, lineStart?] at *
    split at h
    · rename_i hhere
      rw [if_pos hhere, h]
    · rename_i hhere
      rw [if_neg hhere, lineStart?_append t h]

/-- White space that starts a line or holds a line break has a line start. -/
theorem exists_lineStart? : ∀ {s : List Char} {lineStart : Bool} {i : Nat},
    (lineStart ∨ '\n' ∈ s) → ∃ start, lineStart? 0 lineStart i s = some start
  | s, true, i, _ => ⟨i, lineStart?_here (Nat.zero_le i) s⟩
  | [], false, _, h => by simp at h
  | c :: s, false, i, h => by
    rw [lineStart?_cons (by simp)]
    refine exists_lineStart? ?_
    simpa [eq_comm] using h

/-- The end of whole lines is a line start. -/
theorem lineStart?_lines (t : List Char) : ∀ {b : List Char}, b ≠ [] → WholeLines b →
    ∀ (lineStart : Bool) (i : Nat),
      lineStart? (i + b.length) lineStart i (b ++ t) = some (i + b.length)
  | [], hne, _, _, _ => absurd rfl hne
  | [c], _, hlines, lineStart, i => by
    obtain rfl : c = '\n' := hlines c rfl
    rw [List.singleton_append, lineStart?_cons (by simp)]
    exact lineStart?_here (Nat.le_refl _) t
  | c :: d :: b, _, hlines, lineStart, i => by
    have ih := lineStart?_lines t (List.cons_ne_nil d b) (hlines.of_suffix (List.suffix_cons c _))
      (c = '\n') (i + 1)
    have hlen : i + (c :: d :: b).length = i + 1 + (d :: b).length := by
      rw [List.length_cons]; omega
    rw [List.cons_append, lineStart?_cons (fun h => by have := h.2; omega), hlen, ih]

/-! ### What a scan finds behind white space -/

/-- The marker of a family whose at sign starts the text `t` behind white space `s` that begins at
position `i`: the line form if a line starts in the white space, and else the inline form. -/
def Progress.afterRun? (p : Progress) (family : Family) (lineStart : Bool) (i : Nat)
    (s t : List Char) : Option Marker :=
  match lineStart? (p.of family) lineStart i s, family.line? t with
  | some start, some (mark, rest) =>
    some ⟨start, i + s.length + (t.length - rest.length), i + s.length, mark⟩
  | _, _ =>
    if p.of family ≤ i + s.length then
      (family.inline? t).map fun read =>
        ⟨i + s.length, i + s.length + (t.length - read.2.length), i + s.length, read.1⟩
    else none

/-- The marker whose at sign starts the text behind white space, with the progress after it. -/
def Progress.nextAfterRun? (p : Progress) (lineStart : Bool) (i : Nat) (s t : List Char) :
    Option (Marker × Progress) :=
  [Family.loop, Family.cond, Family.close].findSome? fun family =>
    (p.afterRun? family lineStart i s t).map fun m => (m, p.advance m.stop family)

/-- At an at sign, a family looks for what it would find behind an empty run. -/
theorem marker?_eq_afterRun? (p : Progress) (family : Family) (lineStart : Bool) (i : Nat)
    (t : List Char) :
    p.marker? family lineStart i ('@' :: t) = p.afterRun? family lineStart i [] ('@' :: t) := by
  have hbody : ('@' :: t).dropWhile Text.isWhiteSpace = '@' :: t :=
    dropWhile_directive (List.forall_mem_nil _) t
  unfold Progress.marker? Progress.afterRun? Family.marker?
  simp only [hbody, lineStart?, List.length_nil, Nat.add_zero, Nat.sub_self]
  by_cases hp : p.of family ≤ i
  · cases lineStart <;> cases family.line? ('@' :: t) <;> cases family.inline? ('@' :: t) <;>
      simp [hp]
  · simp [hp]

section Blank
variable {p : Progress} {family : Family} {c : Char} {s t : List Char} {lineStart : Bool} {i : Nat}
  (hnone : lineStart → p.of family ≤ i → family.line? ('@' :: t) = none)
include hnone

/-- White space holds no inline form, and the line form is one of what follows. -/
theorem marker?_blank_eq_none (hs : Blank (c :: s)) :
    p.marker? family lineStart i (c :: s ++ '@' :: t) = none := by
  have hc : c ≠ '@' := by rintro rfl; exact not_isWhiteSpace_at (hs _ List.mem_cons_self)
  have hinline : family.inline? (c :: s ++ '@' :: t) = none := by
    refine (Family.read_eq_none fun r hr => ?_).2
    have hhead := head?_lead family r
    rw [← hr] at hhead
    exact hc (Option.some.inj hhead)
  unfold Progress.marker? Family.marker?
  dsimp only
  rw [dropWhile_directive hs, hinline]
  split_ifs with hp hstart
  · rw [hnone hstart hp]
  · rfl
  · rfl

/-- Where no line form begins, what is found lies behind the rest of the white space. -/
theorem afterRun?_cons : p.afterRun? family lineStart i (c :: s) ('@' :: t) =
    p.afterRun? family (c = '\n') (i + 1) s ('@' :: t) := by
  have hlen : i + (c :: s).length = i + 1 + s.length := by rw [List.length_cons]; omega
  unfold Progress.afterRun?
  rw [hlen]
  by_cases hstart : lineStart ∧ p.of family ≤ i
  · rw [hnone hstart.1 hstart.2]
    cases lineStart? (p.of family) lineStart i (c :: s) <;>
      cases lineStart? (p.of family) (c = '\n') (i + 1) s <;> rfl
  · rw [lineStart?_cons hstart]

end Blank

/-- The scan over white space behind which a family has an at sign: it goes to the at sign, with
what the family finds there. -/
theorem scanFrom_lead {family : Family} {t r : List Char} (hlead : '@' :: t = family.lead ++ r)
    (p : Progress) : ∀ {s : List Char}, Blank s → ∀ (lineStart : Bool) (i : Nat),
      scanFrom p lineStart i (s ++ '@' :: t) =
        match p.afterRun? family lineStart i s ('@' :: t) with
        | some m => m :: scanFrom (p.advance m.stop family) false (i + s.length + 1) t
        | none => scanFrom p false (i + s.length + 1) t
  | [], hs, lineStart, i => by
    have hnext := next?_lead hlead p hs lineStart i
    rw [List.nil_append, marker?_eq_afterRun?] at hnext
    rw [List.nil_append, scanFrom, hnext]
    cases p.afterRun? family lineStart i [] ('@' :: t) <;> rfl
  | c :: s, hs, lineStart, i => by
    have hlen : i + (c :: s).length = i + 1 + s.length := by rw [List.length_cons]; omega
    by_cases hfound : (lineStart ∧ p.of family ≤ i) ∧ (family.line? ('@' :: t)).isSome
    · obtain ⟨⟨rfl, hp⟩, hsome⟩ := hfound
      obtain ⟨⟨mark, rest⟩, hline⟩ := Option.isSome_iff_exists.mp hsome
      obtain ⟨m, rfl, hstart, hsign, hstop, hscan⟩ := scanFrom_marker hline hs hp
      have hm : p.afterRun? family true i (c :: s) ('@' :: t) = some m := by
        unfold Progress.afterRun?
        rw [lineStart?_here hp, hline]
        show some (⟨i, i + (c :: s).length + _, i + (c :: s).length, m.mark⟩ : Marker) = some m
        rw [← hsign, ← hstop, ← hstart]
      rw [hscan, hm, hsign]
    · have hnone : lineStart → p.of family ≤ i → family.line? ('@' :: t) = none := by
        intro hstart hp
        simpa using fun h => hfound ⟨⟨hstart, hp⟩, h⟩
      have hnext := next?_lead hlead p hs lineStart i
      rw [marker?_blank_eq_none hnone hs, Option.map_none, List.cons_append] at hnext
      rw [afterRun?_cons hnone, hlen, List.cons_append, scanFrom, hnext]
      exact scanFrom_lead hlead p (fun d hd => hs d (List.mem_cons_of_mem _ hd)) _ _

theorem scanFrom_noLead {d : Char} {t : List Char} (hd : ¬ Text.isWhiteSpace d)
    (hlead : ∀ (family : Family) r, d :: t ≠ family.lead ++ r) (p : Progress) :
    ∀ {s : List Char}, Blank s → ∀ (lineStart : Bool) (i : Nat),
      scanFrom p lineStart i (s ++ d :: t) = scanFrom p false (i + s.length + 1) t
  | [], hs, lineStart, i => by
    have hbreak : decide (d = '\n') = false := by
      rw [decide_eq_false_iff_not]; rintro rfl; exact hd (by decide)
    rw [List.nil_append, scanFrom_step, hbreak]
    · rfl
    · intro family
      have hnone := Family.marker?_noLead hd (hlead family) hs lineStart i
      rw [List.nil_append] at hnone
      rw [Progress.marker?, hnone, ite_self]
  | c :: s, hs, lineStart, i => by
    have hlen : i + (c :: s).length = i + 1 + s.length := by rw [List.length_cons]; omega
    rw [List.cons_append, scanFrom_step, hlen]
    · exact scanFrom_noLead hd hlead p (fun e he => hs e (List.mem_cons_of_mem _ he)) _ _
    · intro family
      have hnone := Family.marker?_noLead hd (hlead family) hs lineStart i
      rw [List.cons_append] at hnone
      rw [Progress.marker?, hnone, ite_self]

theorem afterRun?_eq_none {p : Progress} {family : Family} {t : List Char}
    (hlead : ∀ r, t ≠ family.lead ++ r) (lineStart : Bool) (i : Nat) (s : List Char) :
    p.afterRun? family lineStart i s t = none := by
  obtain ⟨hline, hinline⟩ := Family.read_eq_none hlead
  unfold Progress.afterRun?
  rw [hline, hinline]
  cases lineStart? (p.of family) lineStart i s <;> simp

/-- **One step of the scan** passes white space and the character behind it. -/
theorem scanFrom_run (p : Progress) {s : List Char} (hs : Blank s) {d : Char}
    (hd : ¬ Text.isWhiteSpace d) (t : List Char) (lineStart : Bool) (i : Nat) :
    scanFrom p lineStart i (s ++ d :: t) =
      match p.nextAfterRun? lineStart i s (d :: t) with
      | some (m, p') => m :: scanFrom p' false (i + s.length + 1) t
      | none => scanFrom p false (i + s.length + 1) t := by
  by_cases hlead : ∃ (family : Family) (r : List Char), d :: t = family.lead ++ r
  · obtain ⟨family, r, hr⟩ := hlead
    obtain rfl : d = '@' := by
      have hhead := head?_lead family r
      rw [← hr] at hhead
      exact Option.some.inj hhead
    have hnext : p.nextAfterRun? lineStart i s ('@' :: t) =
        (p.afterRun? family lineStart i s ('@' :: t)).map fun m =>
          (m, p.advance m.stop family) := by
      refine findSome?_family fun family' hne => ?_
      rw [afterRun?_eq_none fun r' hr' => hne (Family.eq_of_lead (hr'.symm.trans hr)),
        Option.map_none]
    rw [scanFrom_lead hr p hs, hnext]
    cases p.afterRun? family lineStart i s ('@' :: t) <;> rfl
  · push Not at hlead
    have hnext : p.nextAfterRun? lineStart i s (d :: t) = none := by
      simp [Progress.nextAfterRun?, afterRun?_eq_none (hlead _)]
    rw [hnext, scanFrom_noLead hd hlead p hs]

/-! ### How markers were read -/

/-- A marker of a family in a text: a line form, which begins with a line, or an inline form, which
begins with its at sign; it leaves what follows it. -/
inductive IsRead (text : List Char) (family : Family) (m : Marker) : Prop
  | line (hstart : WholeLines (text.take m.start))
      (hread : family.line? (text.drop m.sign) = some (m.mark, text.drop m.stop))
  | inline (hstart : m.start = m.sign)
      (hread : family.inline? (text.drop m.sign) = some (m.mark, text.drop m.stop))

theorem Family.suffix_line? {family : Family} {cs rest : List Char} {mark : Mark}
    (h : family.line? cs = some (mark, rest)) : rest <:+ cs := by
  obtain ⟨r, rfl, hrest⟩ := Family.lead_line? h
  exact hrest.trans (List.suffix_append _ r)

theorem Family.suffix_inline? {family : Family} {cs rest : List Char} {mark : Mark}
    (h : family.inline? cs = some (mark, rest)) : rest <:+ cs := by
  obtain ⟨r, rfl, hrest⟩ := Family.lead_inline? h
  exact hrest.trans (List.suffix_append _ r)

theorem drop_of_suffix {text cs rest : List Char} {i : Nat} (hcs : text.drop i = cs)
    (h : rest <:+ cs) : text.drop (i + (cs.length - rest.length)) = rest := by
  rw [← List.drop_drop, hcs, ← List.suffix_iff_eq_drop.mp h]

theorem isRead_of_marker? {text cs : List Char} {family : Family} {lineStart : Bool} {i : Nat}
    {m : Marker} (hcs : text.drop i = cs) (hlines : lineStart → WholeLines (text.take i))
    (h : family.marker? lineStart i cs = some m) : IsRead text family m := by
  unfold Family.marker? at h
  dsimp only at h
  split at h
  · rename_i mark rest hline
    cases h
    split at hline
    · rename_i hstart
      have hbody := List.dropWhile_suffix (l := cs) Text.isWhiteSpace
      refine .line (hlines hstart) ?_
      show family.line? (text.drop (i + _)) = some (mark, text.drop (i + _))
      have hrest := (Family.suffix_line? hline).trans hbody
      rw [drop_of_suffix hcs hbody, drop_of_suffix hcs hrest, hline]
    · cases hline
  · split at h
    · rename_i mark rest hinline
      cases h
      refine .inline rfl ?_
      show family.inline? (text.drop i) = some (mark, text.drop (i + _))
      rw [drop_of_suffix hcs (Family.suffix_inline? hinline), hcs, hinline]
    · cases h

theorem wholeLines_take_succ {text r : List Char} {c : Char} {i : Nat} (h : text.drop i = c :: r)
    (hc : decide (c = '\n')) : WholeLines (text.take (i + 1)) := by
  have htake : text.take (i + 1) = text.take i ++ [c] := by
    rw [List.take_add, h]; rfl
  rw [htake, of_decide_eq_true hc]
  exact WholeLines.append_line _ wholeLines_nil

theorem exists_isRead_of_mem_scanFrom {text : List Char} {m : Marker} :
    ∀ {cs : List Char} {p : Progress} {lineStart : Bool} {i : Nat}, text.drop i = cs →
      (lineStart → WholeLines (text.take i)) → m ∈ scanFrom p lineStart i cs →
        ∃ family, IsRead text family m
  | [], _, _, _, _, _, h => by cases h
  | c :: r, p, lineStart, i, hcs, hlines, h => by
    have hr : text.drop (i + 1) = r := by rw [← List.drop_drop, hcs]; rfl
    have hrest : ∀ p', m ∈ scanFrom p' (c = '\n') (i + 1) r → ∃ family, IsRead text family m :=
      fun _ hmem => exists_isRead_of_mem_scanFrom hr (wholeLines_take_succ hcs) hmem
    rw [scanFrom] at h
    split at h
    · rename_i m₀ p' hnext
      rcases List.mem_cons.mp h with rfl | h
      · obtain ⟨family, -, hmarker, -⟩ := Progress.exists_of_next? hnext
        exact ⟨family, isRead_of_marker? hcs hlines hmarker⟩
      · exact hrest p' h
    · exact hrest p h

/-- **Every marker was read** in one of the two forms of its family. -/
theorem exists_isRead_of_mem_scan {text : List Char} {m : Marker} (h : m ∈ scan text) :
    ∃ family, IsRead text family m :=
  exists_isRead_of_mem_scanFrom List.drop_zero (fun _ => wholeLines_nil) h

/-! ### How inline forms end -/

/-- What was read of the text ends with a character other than a line break. -/
def EndsInLine (cs rest : List Char) : Prop := ∃ used c, cs = used ++ c :: rest ∧ c ≠ '\n'

theorem EndsInLine.of_suffix {cs cs' rest : List Char} (h : EndsInLine cs' rest)
    (hcs : cs' <:+ cs) : EndsInLine cs rest := by
  obtain ⟨used, c, rfl, hc⟩ := h
  obtain ⟨before, rfl⟩ := hcs
  exact ⟨before ++ used, c, (List.append_assoc before used _).symm, hc⟩

theorem endsInLine_of_tag? {cs rest : List Char} {tag : String} (h : tag? cs = some (tag, rest)) :
    EndsInLine cs rest := by
  have hsplit := List.takeWhile_append_dropWhile (p := Text.isAsciiLower) (l := cs)
  unfold tag? at h
  split at h
  · cases h
  · rename_i hne
    cases h
    refine ⟨(cs.takeWhile Text.isAsciiLower).dropLast, (cs.takeWhile Text.isAsciiLower).getLast hne,
      ?_, fun hbreak => ?_⟩
    · rw [List.append_cons, List.dropLast_concat_getLast, hsplit]
    · have hlast := List.mem_takeWhile_imp (List.getLast_mem hne)
      rw [hbreak] at hlast
      exact absurd hlast (by decide)

theorem endsInLine_of_condition? {ends : List Char → Option (List Char)}
    (hends : ∀ {cs rest}, ends cs = some rest → cs = rest) {cs condition rest : List Char}
    (h : condition? ends cs = some (condition, rest)) : EndsInLine cs rest := by
  obtain ⟨r, rfl, hr⟩ := exists_of_condition? h
  obtain rfl := hends hr
  exact ⟨condition, ')', rfl, by decide⟩

theorem eq_of_wordEnd? {cs rest : List Char} (h : wordEnd? cs = some rest) : cs = rest := by
  unfold wordEnd? at h
  split at h <;> cases h
  rfl

theorem eq_of_wordStart? {cs rest : List Char} (h : wordStart? cs = some rest) : cs = rest := by
  unfold wordStart? at h
  split at h <;> cases h
  rfl

/-- **An inline form ends inside a line**, with its tag or with a parenthesis. -/
theorem Family.endsInLine_of_inline? {family : Family} {cs rest : List Char} {mark : Mark}
    (h : family.inline? cs = some (mark, rest)) : EndsInLine cs rest := by
  cases family with
  | loop =>
    unfold Family.inline? loop? at h
    obtain ⟨r, hr, h⟩ := Option.bind_eq_some_iff.mp h
    obtain ⟨r₁, hr₁, h⟩ := Option.bind_eq_some_iff.mp h
    obtain ⟨⟨tag, r₂⟩, hr₂, h⟩ := Option.bind_eq_some_iff.mp h
    have hstart := (leavesEnd_space? _ _ hr₁).trans (suffix_of_after? hr)
    dsimp only at h
    split at h
    · rename_i hwhere
      cases h
      unfold where? at hwhere
      obtain ⟨r₃, hr₃, hwhere⟩ := Option.bind_eq_some_iff.mp hwhere
      obtain ⟨r₄, hr₄, hwhere⟩ := Option.bind_eq_some_iff.mp hwhere
      refine (endsInLine_of_condition? eq_of_wordStart? hwhere).of_suffix ?_
      exact ((suffix_of_after? hr₄).trans (leavesEnd_blanks? _ _ hr₃)).trans
        ((suffix_of_tag? hr₂).trans hstart)
    · obtain ⟨rest', hrest, he⟩ := Option.map_eq_some_iff.mp h
      cases he
      obtain rfl := eq_of_wordEnd? hrest
      exact (endsInLine_of_tag? hr₂).of_suffix hstart
  | cond =>
    unfold Family.inline? cond? at h
    obtain ⟨r, hr, h⟩ := Option.bind_eq_some_iff.mp h
    obtain ⟨⟨condition, r₁⟩, hr₁, h⟩ := Option.bind_eq_some_iff.mp h
    cases h
    exact (endsInLine_of_condition? Option.some.inj hr₁).of_suffix (suffix_of_after? hr)
  | close =>
    unfold Family.inline? close? at h
    obtain ⟨r, hr, h⟩ := Option.bind_eq_some_iff.mp h
    obtain ⟨r₁, hr₁, h⟩ := Option.bind_eq_some_iff.mp h
    obtain ⟨⟨tag, r₂⟩, hr₂, h⟩ := Option.bind_eq_some_iff.mp h
    obtain ⟨r₃, hr₃, h⟩ := Option.bind_eq_some_iff.mp h
    cases h
    obtain rfl := eq_of_wordEnd? hr₃
    exact (endsInLine_of_tag? hr₂).of_suffix
      ((leavesEnd_space? _ _ hr₁).trans (suffix_of_after? hr))

end LayerStencil.Marker
