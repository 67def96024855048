import LayerStencil.Template.Marker
import Mathlib.Data.List.TakeWhile
import Mathlib.Tactic.Common

/-! # The order of markers

The three families of markers are looked for independently, and a line form starts before its at
sign. The markers of a text nevertheless come in the order of their at signs: between the start of a
marker and its at sign there is only white space, in which no other at sign stands, and what follows
an at sign belongs to one family only.

* `StandsIn`: what is known of a marker of a family in a text.
* `mem_scan`: every marker that is found stands in the text.
* `pairwise_scan`: starts and at signs of the markers increase strictly. -/

namespace LayerStencil.Marker

/-! ### Readers leave an end of the text -/

/-- What the reader leaves is an end of what it reads. -/
def LeavesEnd (read : List Char → Option (List Char)) : Prop :=
  ∀ cs rest, read cs = some rest → rest <:+ cs

theorem leavesEnd_lineEnd? : LeavesEnd lineEnd?
  | [], _, h => by cases h
  | c :: r, rest, h => by
    rw [lineEnd?] at h
    split at h
    · split at h
      · rename_i hr
        cases h
        exact (leavesEnd_lineEnd? r _ hr).trans (List.suffix_cons c r)
      · split at h
        · cases h; exact List.suffix_cons c r
        · cases h
    · cases h

theorem leavesEnd_wordEnd? : LeavesEnd wordEnd? := by
  intro cs rest h
  unfold wordEnd? at h
  split at h <;> cases h
  exact List.suffix_rfl

theorem leavesEnd_wordStart? : LeavesEnd wordStart? := by
  intro cs rest h
  unfold wordStart? at h
  split at h <;> cases h
  exact List.suffix_rfl

theorem leavesEnd_some : LeavesEnd some := by
  rintro cs _ ⟨⟩
  exact List.suffix_rfl

theorem leavesEnd_blanks? : LeavesEnd blanks?
  | [], _, h => by cases h
  | c :: r, rest, h => by
    rw [blanks?] at h
    split at h <;> cases h
    exact (List.dropWhile_suffix _).trans (List.suffix_cons c r)

theorem leavesEnd_space? : LeavesEnd space? := by
  intro cs rest h
  unfold space? at h
  split at h <;> cases h
  exact List.suffix_cons _ _

theorem suffix_of_tag? {cs rest : List Char} {tag : String} (h : tag? cs = some (tag, rest)) :
    rest <:+ cs := by
  unfold tag? at h
  split at h <;> cases h
  exact List.dropWhile_suffix _

/-- A condition ends at a closing parenthesis after which the marker can end. -/
theorem exists_of_condition? {ends : List Char → Option (List Char)} :
    ∀ {cs condition rest : List Char}, condition? ends cs = some (condition, rest) →
      ∃ r, cs = condition ++ ')' :: r ∧ ends r = some rest
  | [], _, _, h => by cases h
  | c :: r, condition, rest, h => by
    rw [condition?] at h
    split at h
    · cases h
    · split at h
      · rename_i hr
        cases h
        obtain ⟨r', rfl, hends⟩ := exists_of_condition? hr
        exact ⟨r', rfl, hends⟩
      · split at h
        · rename_i hc
          obtain ⟨rest', hends, he⟩ := Option.map_eq_some_iff.mp h
          cases he
          exact ⟨r, by rw [hc, List.nil_append], hends⟩
        · cases h

theorem suffix_of_condition? {ends : List Char → Option (List Char)} (hends : LeavesEnd ends)
    {cs condition rest : List Char} (h : condition? ends cs = some (condition, rest)) :
    rest <:+ cs := by
  obtain ⟨r, rfl, hr⟩ := exists_of_condition? h
  exact ((hends r rest hr).trans (List.suffix_cons _ r)).trans (List.suffix_append _ _)

theorem suffix_of_after? {lead cs rest : List Char} (h : Text.after? lead cs = some rest) :
    rest <:+ cs :=
  ⟨lead, (Text.after?_eq_some_iff.mp h).symm⟩

theorem suffix_of_where? {ends : List Char → Option (List Char)} (hends : LeavesEnd ends)
    {cs cond rest : List Char} (h : where? ends cs = some (cond, rest)) : rest <:+ cs := by
  unfold where? at h
  obtain ⟨r, hr, h⟩ := Option.bind_eq_some_iff.mp h
  obtain ⟨r', hr', h⟩ := Option.bind_eq_some_iff.mp h
  exact ((suffix_of_condition? hends h).trans (suffix_of_after? hr')).trans
    (leavesEnd_blanks? cs r hr)

/-! ### The word that starts a marker -/

/-- The characters with which every marker of a family starts, from its at sign on. -/
def Family.lead : Family → List Char
  | loop => ['@', 'f', 'o', 'r', 'e', 'a', 'c', 'h']
  | cond => ['@', 'i', 'f', '(']
  | close => ['@', 'e', 'n', 'd']

theorem lead_loop? {gap endsTag endsCondition : List Char → Option (List Char)}
    (hgap : LeavesEnd gap) (htag : LeavesEnd endsTag) (hcondition : LeavesEnd endsCondition)
    {cs rest : List Char} {mark : Mark}
    (h : loop? gap endsTag endsCondition cs = some (mark, rest)) :
    ∃ r, cs = Family.loop.lead ++ r ∧ rest <:+ r := by
  unfold loop? at h
  obtain ⟨r, hr, h⟩ := Option.bind_eq_some_iff.mp h
  obtain ⟨r₁, hr₁, h⟩ := Option.bind_eq_some_iff.mp h
  obtain ⟨⟨tag, r₂⟩, hr₂, h⟩ := Option.bind_eq_some_iff.mp h
  refine ⟨r, Text.after?_eq_some_iff.mp hr, ?_⟩
  have hsuffix : rest <:+ r₂ := by
    dsimp only at h
    split at h
    · rename_i hwhere
      cases h
      exact suffix_of_where? hcondition hwhere
    · obtain ⟨rest', hrest, he⟩ := Option.map_eq_some_iff.mp h
      cases he
      exact htag _ _ hrest
  exact (hsuffix.trans (suffix_of_tag? hr₂)).trans (hgap _ _ hr₁)

theorem lead_cond? {ends : List Char → Option (List Char)} (hends : LeavesEnd ends)
    {cs rest : List Char} {mark : Mark} (h : cond? ends cs = some (mark, rest)) :
    ∃ r, cs = Family.cond.lead ++ r ∧ rest <:+ r := by
  unfold cond? at h
  obtain ⟨r, hr, h⟩ := Option.bind_eq_some_iff.mp h
  obtain ⟨⟨cond, r₁⟩, hr₁, h⟩ := Option.bind_eq_some_iff.mp h
  cases h
  exact ⟨r, Text.after?_eq_some_iff.mp hr, suffix_of_condition? hends hr₁⟩

theorem lead_close? {gap ends : List Char → Option (List Char)} (hgap : LeavesEnd gap)
    (hends : LeavesEnd ends) {cs rest : List Char} {mark : Mark}
    (h : close? gap ends cs = some (mark, rest)) :
    ∃ r, cs = Family.close.lead ++ r ∧ rest <:+ r := by
  unfold close? at h
  obtain ⟨r, hr, h⟩ := Option.bind_eq_some_iff.mp h
  obtain ⟨r₁, hr₁, h⟩ := Option.bind_eq_some_iff.mp h
  obtain ⟨⟨tag, r₂⟩, hr₂, h⟩ := Option.bind_eq_some_iff.mp h
  obtain ⟨r₃, hr₃, h⟩ := Option.bind_eq_some_iff.mp h
  cases h
  exact ⟨r, Text.after?_eq_some_iff.mp hr,
    ((hends _ _ hr₃).trans (suffix_of_tag? hr₂)).trans (hgap _ _ hr₁)⟩

theorem Family.lead_line? {family : Family} {cs rest : List Char} {mark : Mark}
    (h : family.line? cs = some (mark, rest)) : ∃ r, cs = family.lead ++ r ∧ rest <:+ r := by
  cases family with
  | loop => exact lead_loop? leavesEnd_blanks? leavesEnd_lineEnd? leavesEnd_lineEnd? h
  | cond => exact lead_cond? leavesEnd_lineEnd? h
  | close => exact lead_close? leavesEnd_blanks? leavesEnd_lineEnd? h

theorem Family.lead_inline? {family : Family} {cs rest : List Char} {mark : Mark}
    (h : family.inline? cs = some (mark, rest)) : ∃ r, cs = family.lead ++ r ∧ rest <:+ r := by
  cases family with
  | loop => exact lead_loop? leavesEnd_space? leavesEnd_wordEnd? leavesEnd_wordStart? h
  | cond => exact lead_cond? leavesEnd_some h
  | close => exact lead_close? leavesEnd_space? leavesEnd_wordEnd? h

theorem Family.eq_of_lead {f f' : Family} {r r' : List Char} (h : f.lead ++ r = f'.lead ++ r') :
    f = f' := by
  cases f <;> cases f' <;> simp [Family.lead] at h ⊢

/-! ### Markers in a text -/

/-- A marker of a family in a text: white space up to its at sign, where the word of the family
starts, which lies inside the marker. -/
structure StandsIn (text : List Char) (family : Family) (m : Marker) : Prop where
  start_le : m.start ≤ m.sign
  blank : ∀ c ∈ Text.slice text m.start m.sign, Text.isWhiteSpace c
  lead : ∃ r, text.drop m.sign = family.lead ++ r
  sign_lt : m.sign < m.stop
  stop_le : m.stop ≤ text.length

/-- A marker whose at sign follows `k` characters of white space, in terms of the text `cs` from its
start on. -/
theorem standsIn_of_lead (blank : List Char) {text cs rest r : List Char} {family : Family}
    {i : Nat} {mark : Mark} (hcs : text.drop i = cs) (hblank : ∀ c ∈ blank, Text.isWhiteSpace c)
    (hlead : cs = blank ++ (family.lead ++ r)) (hrest : rest <:+ r) :
    StandsIn text family ⟨i, i + (cs.length - rest.length), i + blank.length, mark⟩ := by
  have hlen : cs.length = blank.length + (family.lead.length + r.length) := by
    rw [hlead]; simp
  have hpos : 0 < family.lead.length := by cases family <;> decide
  have hle : rest.length ≤ r.length := hrest.length_le
  have htext : text.length - i = cs.length := by rw [← hcs]; simp
  constructor
  · exact Nat.le_add_right i _
  · have hslice : Text.slice text i (i + blank.length) = blank := by
      rw [Text.slice, hcs, hlead, Nat.add_sub_cancel_left, List.take_left]
    rw [hslice]; exact hblank
  · refine ⟨r, ?_⟩
    rw [← List.drop_drop, hcs, hlead, List.drop_left]
  · show i + blank.length < i + (cs.length - rest.length)
    omega
  · show i + (cs.length - rest.length) ≤ text.length
    omega

theorem standsIn_of_marker? {text cs : List Char} {family : Family} {lineStart : Bool} {i : Nat}
    {m : Marker} (hcs : text.drop i = cs) (h : family.marker? lineStart i cs = some m) :
    m.start = i ∧ StandsIn text family m := by
  unfold Family.marker? at h
  dsimp only at h
  split at h
  · rename_i mark rest hline
    cases h
    split at hline
    · obtain ⟨r, hr, hrest⟩ := Family.lead_line? hline
      have hsplit : cs = cs.takeWhile Text.isWhiteSpace ++ (family.lead ++ r) := by
        rw [← hr, List.takeWhile_append_dropWhile]
      have hlen : cs.length - (cs.dropWhile Text.isWhiteSpace).length =
          (cs.takeWhile Text.isWhiteSpace).length := by
        have := congrArg List.length
          (List.takeWhile_append_dropWhile (p := Text.isWhiteSpace) (l := cs))
        rw [List.length_append] at this
        omega
      rw [hlen]
      exact ⟨rfl, standsIn_of_lead _ hcs
        (fun c hc => List.mem_takeWhile_imp hc) hsplit hrest⟩
    · cases hline
  · split at h
    · rename_i mark rest hinline
      cases h
      obtain ⟨r, hr, hrest⟩ := Family.lead_inline? hinline
      exact ⟨rfl, standsIn_of_lead [] hcs (by simp) hr hrest⟩
    · cases h

/-- **Two markers of one text** have their at signs in the order of their starts, if they do not
overlap when they are of one family. -/
theorem sign_lt_sign {text : List Char} {family family' : Family} {m m' : Marker}
    (h : StandsIn text family m) (h' : StandsIn text family' m') (hstart : m.start < m'.start)
    (hdisjoint : family = family' → m.stop ≤ m'.start) : m.sign < m'.sign := by
  have hstart' := h'.start_le
  have hsign := h.sign_lt
  by_contra hle
  obtain ⟨r', hr'⟩ := h'.lead
  rcases Nat.lt_or_eq_of_le (Nat.not_lt.mp hle) with hlt | heq
  · -- The at sign of `m'` would be one of the blanks before the at sign of `m`.
    have hat : '@' ∈ Text.slice text m.start m.sign := by
      refine List.mem_of_getElem? (i := m'.sign - m.start) ?_
      have hsome : text[m'.sign]? = some '@' := by
        have := congrArg List.head? hr'
        rw [List.head?_drop] at this
        rw [this]; cases family' <;> rfl
      rw [Text.slice, List.getElem?_take_of_lt (by omega), List.getElem?_drop, ← hsome]
      congr 1; omega
    exact absurd (h.blank '@' hat) (by decide)
  · obtain ⟨r, hr⟩ := h.lead
    have := hdisjoint (Family.eq_of_lead (by rw [← hr, ← hr', heq]))
    omega

/-! ### The scan -/

theorem Progress.of_le_advance {p : Progress} {family : Family} {i stop : Nat}
    (h : p.of family ≤ i) (hstop : i ≤ stop) (family' : Family) :
    p.of family' ≤ (p.advance stop family).of family' := by
  cases family <;> cases family' <;> simp [Progress.of, Progress.advance] at h ⊢ <;> omega

theorem Progress.of_advance (p : Progress) (family : Family) (stop : Nat) :
    (p.advance stop family).of family = stop := by
  cases family <;> rfl

theorem Progress.exists_of_next? {p p' : Progress} {lineStart : Bool} {i : Nat} {cs : List Char}
    {m : Marker} (h : p.next? lineStart i cs = some (m, p')) :
    ∃ family, p.of family ≤ i ∧ family.marker? lineStart i cs = some m ∧
      p' = p.advance m.stop family := by
  obtain ⟨family, -, hfamily⟩ := List.exists_of_findSome?_eq_some h
  obtain ⟨m', hm', he⟩ := Option.map_eq_some_iff.mp hfamily
  cases he
  unfold Progress.marker? at hm'
  split at hm'
  · rename_i hle; exact ⟨family, hle, hm', rfl⟩
  · cases hm'

/-- Every marker that is found stands in the text, behind what its family has found before. -/
theorem mem_scanFrom {text : List Char} {m : Marker} : ∀ {cs : List Char} {p : Progress}
    {lineStart : Bool} {i : Nat}, text.drop i = cs → m ∈ scanFrom p lineStart i cs →
      ∃ family, StandsIn text family m ∧ i ≤ m.start ∧ p.of family ≤ m.start
  | [], _, _, _, _, h => by cases h
  | c :: r, p, lineStart, i, hcs, h => by
    have hr : text.drop (i + 1) = r := by rw [← List.drop_drop, hcs]; rfl
    rw [scanFrom] at h
    split at h
    · rename_i m₀ p' hnext
      obtain ⟨family₀, hle, hmarker, rfl⟩ := Progress.exists_of_next? hnext
      obtain ⟨hstart, hstands⟩ := standsIn_of_marker? hcs hmarker
      rcases List.mem_cons.mp h with rfl | h
      · exact ⟨family₀, hstands, Nat.le_of_eq hstart.symm, hstart ▸ hle⟩
      · obtain ⟨family, hm, hi, hp⟩ := mem_scanFrom hr h
        have hstop : i ≤ m₀.stop := by
          have := hstands.start_le; have := hstands.sign_lt; omega
        have hadvance := Progress.of_le_advance hle hstop family
        exact ⟨family, hm, by omega, Nat.le_trans hadvance hp⟩
    · obtain ⟨family, hm, hi, hp⟩ := mem_scanFrom hr h
      exact ⟨family, hm, by omega, hp⟩

theorem pairwise_scanFrom {text : List Char} : ∀ {cs : List Char} {p : Progress}
    {lineStart : Bool} {i : Nat}, text.drop i = cs →
      (scanFrom p lineStart i cs).Pairwise fun m m' => m.start < m'.start ∧ m.sign < m'.sign
  | [], _, _, _, _ => List.Pairwise.nil
  | c :: r, p, lineStart, i, hcs => by
    have hr : text.drop (i + 1) = r := by rw [← List.drop_drop, hcs]; rfl
    rw [scanFrom]
    split
    · rename_i m p' hnext
      refine List.Pairwise.cons (fun m' hm' => ?_) (pairwise_scanFrom hr)
      obtain ⟨family, -, hmarker, rfl⟩ := Progress.exists_of_next? hnext
      obtain ⟨hstart, hstands⟩ := standsIn_of_marker? hcs hmarker
      obtain ⟨family', hstands', hi, hp⟩ := mem_scanFrom hr hm'
      have hlt : m.start < m'.start := by omega
      refine ⟨hlt, sign_lt_sign hstands hstands' hlt ?_⟩
      -- In one family the later marker starts behind the end of the earlier one.
      rintro rfl
      rwa [Progress.of_advance] at hp
    · exact pairwise_scanFrom hr

theorem mem_scan {text : List Char} {m : Marker} (h : m ∈ scan text) :
    ∃ family, StandsIn text family m := by
  obtain ⟨family, hm, -⟩ := mem_scanFrom List.drop_zero h
  exact ⟨family, hm⟩

/-- **Markers come in order**, by their starts and by their at signs. -/
theorem pairwise_scan (text : List Char) :
    (scan text).Pairwise fun m m' => m.start < m'.start ∧ m.sign < m'.sign :=
  pairwise_scanFrom List.drop_zero

end LayerStencil.Marker
