import LayerStencil.Pattern.Match
import Mathlib.Logic.Relation
import Mathlib.Tactic.Common

/-! # The parts of a subject that a pattern spans

A pattern spans the part of a subject between two places if the characters there are as it says.
The marks of `Pattern.isMatch` are shown to follow the spans of all parts of the pattern at once: a
marked pattern *resumes* from the place of its marks to where what is left of it ends.

* `Pattern.Spans`: the places between which a pattern matches.
* `MarkedPattern.resumes_advance_iff`: what one character does to the marks.
* `MarkedPattern.matchesIn_iff`: what the marks find in the rest of the subject.
* `Pattern.isMatch_iff`: the marks find a match if and only if the pattern spans some part of the
  subject. -/

namespace LayerStencil

open Relation (ReflTransGen)

/-- There is a way of `n` steps from one place to another. -/
def Steps (R : Nat → Nat → Prop) : Nat → Nat → Nat → Prop
  | 0, i, j => i = j
  | n + 1, i, j => ∃ k, R i k ∧ Steps R n k j

/-- Does the pattern match what stands between two places of the subject `s`? A repetition whose
bounds are the wrong way round goes as often as its lower bound. -/
def Pattern.Spans (s : List Char) : Pattern → Nat → Nat → Prop
  | empty, i, j => i = j
  | char a, i, j => j = i + 1 ∧ ∃ c, s[i]? = some c ∧ a.has c
  | seq a b, i, j => ∃ k, a.Spans s i k ∧ b.Spans s k j
  | alt a b, i, j => a.Spans s i j ∨ b.Spans s i j
  | repeated a low high, i, j =>
    ∃ n, low ≤ n ∧ (∀ h ∈ high, n ≤ max low h) ∧ Steps (a.Spans s) n i j
  | start, i, j => i = 0 ∧ j = i
  | stop, i, j => i = s.length ∧ j = i

namespace MarkedPattern

/-- Does the pattern match what stands between two places of the subject, whatever is marked? -/
def Spans (s : List Char) : MarkedPattern → Nat → Nat → Prop
  | empty, i, j => i = j
  | char a _, i, j => j = i + 1 ∧ ∃ c, s[i]? = some c ∧ a.has c
  | seq a b, i, j => ∃ k, a.Spans s i k ∧ b.Spans s k j
  | alt a b, i, j => a.Spans s i j ∨ b.Spans s i j
  | star a, i, j => ReflTransGen (a.Spans s) i j
  | start, i, j => i = 0 ∧ j = i
  | stop, i, j => i = s.length ∧ j = i

/-- Does what follows some mark of the pattern match what stands between the place of the marks and
another place? -/
def Resumes (s : List Char) : MarkedPattern → Nat → Nat → Prop
  | empty, _, _ => False
  | char _ isMarked, i, j => isMarked = true ∧ i = j
  | seq a b, i, j => (∃ k, a.Resumes s i k ∧ b.Spans s k j) ∨ b.Resumes s i j
  | alt a b, i, j => a.Resumes s i j ∨ b.Resumes s i j
  | star a, i, j => ∃ k, a.Resumes s i k ∧ ReflTransGen (a.Spans s) k j
  | start, _, _ => False
  | stop, _, _ => False

/-- No character of the pattern is marked. -/
def Unmarked : MarkedPattern → Prop
  | char _ isMarked => isMarked = false
  | seq a b => a.Unmarked ∧ b.Unmarked
  | alt a b => a.Unmarked ∧ b.Unmarked
  | star a => a.Unmarked
  | empty => True
  | start => True
  | stop => True

variable {s : List Char} {p : MarkedPattern} {i j : Nat}

/-! ### Where spans end -/

theorem le_of_steps {R : Nat → Nat → Prop} (h : ∀ i j, R i j → i ≤ j) {i j : Nat}
    (hs : ReflTransGen R i j) : i ≤ j := by
  induction hs with
  | refl => exact Nat.le_refl i
  | tail _ hstep ih => exact Nat.le_trans ih (h _ _ hstep)

theorem le_of_spans : ∀ {p : MarkedPattern} {i j : Nat}, p.Spans s i j → i ≤ j
  | empty, _, _, h => Nat.le_of_eq h
  | char _ _, _, _, h => by have := h.1; omega
  | seq _ _, _, _, ⟨_, ha, hb⟩ => Nat.le_trans (le_of_spans ha) (le_of_spans hb)
  | alt _ _, _, _, h => h.elim le_of_spans le_of_spans
  | star _, _, _, h => le_of_steps (fun _ _ => le_of_spans) h
  | start, _, _, h => Nat.le_of_eq h.2.symm
  | stop, _, _, h => Nat.le_of_eq h.2.symm

theorem le_of_resumes : ∀ {p : MarkedPattern} {i j : Nat}, p.Resumes s i j → i ≤ j
  | char _ _, _, _, h => Nat.le_of_eq h.2
  | seq _ _, _, _, .inl ⟨_, ha, hb⟩ => Nat.le_trans (le_of_resumes ha) (le_of_spans hb)
  | seq _ _, _, _, .inr h => le_of_resumes h
  | alt _ _, _, _, h => h.elim le_of_resumes le_of_resumes
  | star _, _, _, ⟨_, ha, hb⟩ =>
    Nat.le_trans (le_of_resumes ha) (le_of_steps (fun _ _ => le_of_spans) hb)

theorem le_length_of_steps {R : Nat → Nat → Prop} {n : Nat}
    (h : ∀ i j, R i j → i ≤ n → j ≤ n) {i j : Nat} (hs : ReflTransGen R i j) (hi : i ≤ n) :
    j ≤ n := by
  induction hs with
  | refl => exact hi
  | tail _ hstep ih => exact h _ _ hstep ih

theorem le_length_of_spans : ∀ {p : MarkedPattern} {i j : Nat}, p.Spans s i j → i ≤ s.length →
    j ≤ s.length
  | empty, _, _, h, hi => h ▸ hi
  | char _ _, i, _, ⟨hj, c, hc, _⟩, _ => by
    obtain ⟨hlt, -⟩ := List.getElem?_eq_some_iff.mp hc
    omega
  | seq _ _, _, _, ⟨_, ha, hb⟩, hi => le_length_of_spans hb (le_length_of_spans ha hi)
  | alt _ _, _, _, .inl h, hi => le_length_of_spans h hi
  | alt _ _, _, _, .inr h, hi => le_length_of_spans h hi
  | star _, _, _, h, hi => le_length_of_steps (fun _ _ => le_length_of_spans) h hi
  | start, _, _, h, hi => h.2 ▸ hi
  | stop, _, _, h, hi => h.2 ▸ hi

theorem le_length_of_resumes : ∀ {p : MarkedPattern} {i j : Nat}, p.Resumes s i j →
    i ≤ s.length → j ≤ s.length
  | char _ _, _, _, h, hi => h.2 ▸ hi
  | seq _ _, _, _, .inl ⟨_, ha, hb⟩, hi => le_length_of_spans hb (le_length_of_resumes ha hi)
  | seq _ _, _, _, .inr h, hi => le_length_of_resumes h hi
  | alt _ _, _, _, .inl h, hi => le_length_of_resumes h hi
  | alt _ _, _, _, .inr h, hi => le_length_of_resumes h hi
  | star _, _, _, ⟨_, ha, hb⟩, hi =>
    le_length_of_steps (fun _ _ => le_length_of_spans) hb (le_length_of_resumes ha hi)

/-! ### Matching nothing -/

/-- A pattern matches nothing at a place if and only if it spans nothing there. -/
theorem matchesNothing_iff : ∀ {p : MarkedPattern} {i : Nat},
    p.matchesNothing (decide (i = 0)) (decide (i = s.length)) = true ↔ p.Spans s i i
  | empty, _ => by simp [matchesNothing, Spans]
  | char _ _, _ => by simp [matchesNothing, Spans]
  | seq a b, i => by
    rw [matchesNothing, Bool.and_eq_true, matchesNothing_iff, matchesNothing_iff]
    refine ⟨fun h => ⟨i, h.1, h.2⟩, fun ⟨k, ha, hb⟩ => ?_⟩
    obtain rfl : k = i := Nat.le_antisymm (le_of_spans hb) (le_of_spans ha)
    exact ⟨ha, hb⟩
  | alt a b, i => by
    rw [matchesNothing, Bool.or_eq_true, matchesNothing_iff, matchesNothing_iff, Spans]
  | star a, i => by
    rw [matchesNothing, Spans]
    exact iff_of_true rfl .refl
  | start, i => by simp [matchesNothing, Spans]
  | stop, i => by simp [matchesNothing, Spans]

theorem not_endsHere (hp : p.Unmarked) (atEnd : Bool) : p.endsHere atEnd = false := by
  induction p with
  | char => exact hp
  | seq a b iha ihb => rw [endsHere, iha hp.1, ihb hp.2]; rfl
  | alt a b iha ihb => rw [endsHere, iha hp.1, ihb hp.2]; rfl
  | star a ih => rw [endsHere, ih hp]
  | _ => rfl

theorem not_resumes (hp : p.Unmarked) : ¬ p.Resumes s i j := by
  induction p generalizing j with
  | char => exact fun h => absurd (h.1.symm.trans hp) (by simp)
  | seq a b iha ihb => exact fun h => h.elim (fun ⟨_, ha, _⟩ => iha hp.1 ha) (ihb hp.2)
  | alt a b iha ihb => exact fun h => h.elim (iha hp.1) (ihb hp.2)
  | star a ih => exact fun ⟨_, ha, _⟩ => ih hp ha
  | _ => exact id

theorem endsHere_iff_of_pos (hi : 0 < i) : ∀ {p : MarkedPattern},
    p.endsHere (decide (i = s.length)) = true ↔ p.Resumes s i i
  | empty => by simp [endsHere, Resumes]
  | char _ _ => by simp [endsHere, Resumes]
  | seq a b => by
    have hstart : decide (i = 0) = false := decide_eq_false (Nat.ne_of_gt hi)
    rw [endsHere, Bool.or_eq_true, Bool.and_eq_true, endsHere_iff_of_pos hi,
      endsHere_iff_of_pos hi, Resumes, ← hstart, matchesNothing_iff]
    refine or_congr_left ⟨fun h => ⟨i, h.1, h.2⟩, fun ⟨k, ha, hb⟩ => ?_⟩
    obtain rfl : k = i := Nat.le_antisymm (le_of_spans hb) (le_of_resumes ha)
    exact ⟨ha, hb⟩
  | alt a b => by
    rw [endsHere, Bool.or_eq_true, endsHere_iff_of_pos hi, endsHere_iff_of_pos hi, Resumes]
  | star a => by
    rw [endsHere, endsHere_iff_of_pos hi, Resumes]
    refine ⟨fun h => ⟨i, h, .refl⟩, fun ⟨k, ha, hb⟩ => ?_⟩
    have hk := le_of_steps (fun _ _ => le_of_spans) hb
    obtain rfl : k = i := Nat.le_antisymm hk (le_of_resumes ha)
    exact ha
  | start => by simp [endsHere, Resumes]
  | stop => by simp [endsHere, Resumes]

/-- A match ends at the marks if and only if the pattern resumes from them without going on. Before
the first character there are no marks. -/
theorem endsHere_iff (hi : i = 0 → p.Unmarked) :
    p.endsHere (decide (i = s.length)) = true ↔ p.Resumes s i i := by
  rcases Nat.eq_zero_or_pos i with h0 | hpos
  · rw [not_endsHere (hi h0)]
    exact iff_of_false (by simp) (not_resumes (hi h0))
  · exact endsHere_iff_of_pos hpos

/-! ### One character -/

@[simp] theorem spans_advance (atStart : Bool) (c : Char) : ∀ (isBegun : Bool) (p : MarkedPattern),
    (advance atStart c isBegun p).Spans s = p.Spans s
  | _, empty => rfl
  | _, char _ _ => rfl
  | isBegun, seq a b => by
    funext i j
    simp only [advance, Spans, spans_advance]
  | isBegun, alt a b => by
    funext i j
    simp only [advance, Spans, spans_advance]
  | isBegun, star a => by
    funext i j
    simp only [advance, Spans, spans_advance]
  | _, start => rfl
  | _, stop => rfl

/-- A way that goes on at all has a first step that does. -/
theorem exists_step_of_lt {R : Nat → Nat → Prop} (h : ∀ i j, R i j → i ≤ j) {i j : Nat}
    (hs : ReflTransGen R i j) (hij : i < j) : ∃ k, i < k ∧ R i k ∧ ReflTransGen R k j := by
  induction hs using ReflTransGen.head_induction_on with
  | refl => exact absurd hij (Nat.lt_irrefl j)
  | @head i k hstep hrest ih =>
    rcases Nat.lt_or_ge i k with hik | hki
    · exact ⟨k, hik, hstep, hrest⟩
    · obtain rfl : k = i := Nat.le_antisymm hki (h _ _ hstep)
      exact ih hij

/-- After a character the marks stand where a match may have read it: the matches that went on from
the marks before and those that have begun. -/
theorem resumes_advance_iff {c : Char} (hc : s[i]? = some c) (isBegun : Bool)
    (hi : i = 0 → p.Unmarked) {j : Nat} :
    (advance (decide (i = 0)) c isBegun p).Resumes s (i + 1) j ↔
      i < j ∧ ((isBegun = true ∧ p.Spans s i j) ∨ p.Resumes s i j) := by
  have hend : decide (i = s.length) = false := by
    obtain ⟨hlt, -⟩ := List.getElem?_eq_some_iff.mp hc
    simp
    omega
  induction p generalizing isBegun j with
  | empty => exact iff_of_false id fun ⟨hlt, h⟩ => h.elim (fun h => Nat.ne_of_lt hlt h.2) id
  | start => exact iff_of_false id fun ⟨hlt, h⟩ => h.elim (fun h => Nat.ne_of_gt hlt h.2.2) id
  | stop => exact iff_of_false id fun ⟨hlt, h⟩ => h.elim (fun h => Nat.ne_of_gt hlt h.2.2) id
  | char a m =>
    simp only [advance, Resumes, Spans, hc, Option.some.injEq, exists_eq_left', Bool.and_eq_true]
    constructor
    · rintro ⟨⟨hb, ha⟩, rfl⟩
      exact ⟨Nat.lt_succ_self i, .inl ⟨hb, rfl, ha⟩⟩
    · rintro ⟨hlt, ⟨hb, rfl, ha⟩ | ⟨-, rfl⟩⟩
      · exact ⟨⟨hb, ha⟩, rfl⟩
      · exact absurd hlt (Nat.lt_irrefl i)
  | alt a b iha ihb =>
    simp only [advance, Resumes, Spans, iha _ fun h => (hi h).1, ihb _ fun h => (hi h).2]
    tauto
  | seq a b iha ihb =>
    have hnil := matchesNothing_iff (s := s) (p := a) (i := i)
    have hhere := endsHere_iff (s := s) fun h => (hi h).1
    rw [hend] at hnil hhere
    simp only [advance, Resumes, Spans, spans_advance, iha _ fun h => (hi h).1,
      ihb _ fun h => (hi h).2, Bool.or_eq_true, Bool.and_eq_true, hnil, hhere]
    constructor
    · rintro (⟨k, ⟨hik, h⟩, hb⟩ | ⟨hij, h⟩)
      · refine ⟨Nat.lt_of_lt_of_le hik (le_of_spans hb), ?_⟩
        exact h.elim (fun h => .inl ⟨h.1, k, h.2, hb⟩) fun h => .inr (.inl ⟨k, h, hb⟩)
      · refine ⟨hij, ?_⟩
        rcases h with ⟨h | h, hb⟩ | hb
        · exact .inl ⟨h.1, i, h.2, hb⟩
        · exact .inr (.inl ⟨i, h, hb⟩)
        · exact .inr (.inr hb)
    · -- The first part of the sequence goes on past the character or ends before it.
      rintro ⟨hij, ⟨hbegun, k, ha, hb⟩ | ⟨k, ha, hb⟩ | hb⟩
      · rcases Nat.lt_or_eq_of_le (le_of_spans ha) with hik | rfl
        · exact .inl ⟨k, ⟨hik, .inl ⟨hbegun, ha⟩⟩, hb⟩
        · exact .inr ⟨hij, .inl ⟨.inl ⟨hbegun, ha⟩, hb⟩⟩
      · rcases Nat.lt_or_eq_of_le (le_of_resumes ha) with hik | rfl
        · exact .inl ⟨k, ⟨hik, .inr ha⟩, hb⟩
        · exact .inr ⟨hij, .inl ⟨.inr ha, hb⟩⟩
      · exact .inr ⟨hij, .inr hb⟩
  | star a ih =>
    have hhere := endsHere_iff (s := s) hi
    rw [hend, endsHere, Resumes] at hhere
    have hmono : ∀ i j, a.Spans s i j → i ≤ j := fun _ _ => le_of_spans
    simp only [advance, Resumes, Spans, spans_advance, ih _ hi, Bool.or_eq_true]
    constructor
    · rintro ⟨k, ⟨hik, h⟩, hrest⟩
      refine ⟨Nat.lt_of_lt_of_le hik (le_of_steps hmono hrest), ?_⟩
      rcases h with ⟨hbegun | h, ha⟩ | ha
      · exact .inl ⟨hbegun, .head ha hrest⟩
      · obtain ⟨k', ha', hrest'⟩ := hhere.mp h
        exact .inr ⟨k', ha', hrest'.trans (.head ha hrest)⟩
      · exact .inr ⟨k, ha, hrest⟩
    · rintro ⟨hij, ⟨hbegun, hrest⟩ | ⟨k, ha, hrest⟩⟩
      · obtain ⟨k, hik, hstep, hrest⟩ := exists_step_of_lt hmono hrest hij
        exact ⟨k, ⟨hik, .inl ⟨.inl hbegun, hstep⟩⟩, hrest⟩
      · rcases Nat.lt_or_eq_of_le (le_of_resumes ha) with hik | rfl
        · exact ⟨k, ⟨hik, .inr ha⟩, hrest⟩
        · obtain ⟨k, hik, hstep, hrest⟩ := exists_step_of_lt hmono hrest hij
          exact ⟨k, ⟨hik, .inl ⟨.inr (hhere.mpr ⟨_, ha, .refl⟩), hstep⟩⟩, hrest⟩

/-! ### The rest of a subject -/

/-- The marks find a match in the rest of a subject if and only if the pattern resumes from them or
spans some part of the rest. -/
theorem matchesIn_iff (rest front : List Char) (p : MarkedPattern)
    (hp : front.length = 0 → p.Unmarked) :
    p.matchesIn (decide (front.length = 0)) rest = true ↔
      (∃ j, p.Resumes (front ++ rest) front.length j) ∨
        ∃ i, front.length ≤ i ∧ i ≤ (front ++ rest).length ∧
          ∃ j, p.Spans (front ++ rest) i j := by
  induction rest generalizing front p with
  | nil =>
    have hnil := matchesNothing_iff (s := front ++ []) (p := p) (i := front.length)
    have hhere := endsHere_iff (s := front ++ []) hp
    have hend : decide (front.length = (front ++ []).length) = true := by simp
    rw [hend] at hnil hhere
    rw [matchesIn, Bool.or_eq_true, hnil, hhere]
    constructor
    · exact fun h => h.elim (fun h => .inr ⟨_, Nat.le_refl _, by simp, _, h⟩) fun h => .inl ⟨_, h⟩
    · rintro (⟨j, h⟩ | ⟨i, hi, hlen, j, h⟩)
      · have hj := le_length_of_resumes h (by simp)
        obtain rfl : front.length = j :=
          Nat.le_antisymm (le_of_resumes h) (by simpa using hj)
        exact .inr h
      · have hj := le_length_of_spans h hlen
        obtain rfl : front.length = i := Nat.le_antisymm hi (by simpa using hlen)
        obtain rfl : front.length = j := Nat.le_antisymm (le_of_spans h) (by simpa using hj)
        exact .inl h
  | cons c rest ih =>
    have hend : decide (front.length = (front ++ c :: rest).length) = false := by simp
    have hc : (front ++ c :: rest)[front.length]? = some c := by simp
    have hfront : front ++ [c] ++ rest = front ++ c :: rest := by simp
    have hlen : (front ++ [c]).length = front.length + 1 := by simp
    have hih := ih (front ++ [c]) (advance (decide (front.length = 0)) c true p) (by simp)
    rw [hfront, hlen, decide_eq_false (Nat.succ_ne_zero front.length)] at hih
    rw [matchesIn, Bool.or_eq_true, Bool.or_eq_true, hih, ← hend, matchesNothing_iff,
      endsHere_iff hp]
    simp only [resumes_advance_iff hc true hp, spans_advance, true_and]
    constructor
    · rintro ((h | h) | ⟨j, -, h | h⟩ | ⟨i, hi, hle, h⟩)
      · exact .inr ⟨_, Nat.le_refl _, by simp, _, h⟩
      · exact .inl ⟨_, h⟩
      · exact .inr ⟨_, Nat.le_refl _, by simp, _, h⟩
      · exact .inl ⟨_, h⟩
      · exact .inr ⟨i, by omega, hle, h⟩
    · rintro (⟨j, h⟩ | ⟨i, hi, hle, j, h⟩)
      · rcases Nat.lt_or_eq_of_le (le_of_resumes h) with hlt | rfl
        · exact .inr (.inl ⟨j, hlt, .inr h⟩)
        · exact .inl (.inr h)
      · rcases Nat.lt_or_eq_of_le hi with hlt | rfl
        · exact .inr (.inr ⟨i, hlt, hle, j, h⟩)
        · rcases Nat.lt_or_eq_of_le (le_of_spans h) with hlt | rfl
          · exact .inr (.inl ⟨j, hlt, .inl h⟩)
          · exact .inl (.inl h)

/-! ### Repetitions written out -/

theorem spans_times_iff {a after : MarkedPattern} {n : Nat} :
    (times a n after).Spans s i j ↔ ∃ k, Steps (a.Spans s) n i k ∧ after.Spans s k j := by
  induction n generalizing i with
  | zero => simp [times, Steps]
  | succ n ih =>
    simp only [times, Spans, ih, Steps]
    exact ⟨fun ⟨k, ha, l, hn, hl⟩ => ⟨l, ⟨k, ha, hn⟩, hl⟩,
      fun ⟨l, ⟨k, ha, hn⟩, hl⟩ => ⟨k, ha, l, hn, hl⟩⟩

theorem spans_atMost_iff {a : MarkedPattern} {n : Nat} :
    (atMost a n).Spans s i j ↔ ∃ m ≤ n, Steps (a.Spans s) m i j := by
  induction n generalizing i with
  | zero => simp [atMost, Spans, Steps]
  | succ n ih =>
    simp only [atMost, Spans, ih]
    constructor
    · rintro (h | ⟨k, ha, m, hm, h⟩)
      · exact ⟨0, Nat.zero_le _, h⟩
      · exact ⟨m + 1, Nat.succ_le_succ hm, k, ha, h⟩
    · rintro ⟨m, hm, h⟩
      cases m with
      | zero => exact .inl h
      | succ m =>
        obtain ⟨k, ha, h⟩ := h
        exact .inr ⟨k, ha, m, Nat.le_of_succ_le_succ hm, h⟩

theorem steps_add_iff {R : Nat → Nat → Prop} {m n i j : Nat} :
    Steps R (m + n) i j ↔ ∃ k, Steps R m i k ∧ Steps R n k j := by
  induction m generalizing i with
  | zero => simp [Steps]
  | succ m ih =>
    rw [Nat.succ_add]
    simp only [Steps, ih]
    exact ⟨fun ⟨k, h, l, hm, hn⟩ => ⟨l, ⟨k, h, hm⟩, hn⟩,
      fun ⟨l, ⟨k, h, hm⟩, hn⟩ => ⟨k, h, l, hm, hn⟩⟩

theorem reflTransGen_iff_steps {R : Nat → Nat → Prop} {i j : Nat} :
    ReflTransGen R i j ↔ ∃ n, Steps R n i j := by
  constructor
  · intro h
    induction h using ReflTransGen.head_induction_on with
    | refl => exact ⟨0, rfl⟩
    | head hstep _ ih =>
      obtain ⟨n, hn⟩ := ih
      exact ⟨n + 1, _, hstep, hn⟩
  · rintro ⟨n, hn⟩
    induction n generalizing i with
    | zero => exact hn ▸ .refl
    | succ n ih =>
      obtain ⟨k, hstep, hn⟩ := hn
      exact .head hstep (ih hn)

theorem spans_ofPattern : ∀ p : Pattern, (ofPattern p).Spans s = p.Spans s
  | .empty => rfl
  | .char _ => rfl
  | .seq a b => by
    funext i j
    simp only [ofPattern, Spans, Pattern.Spans, spans_ofPattern]
  | .alt a b => by
    funext i j
    simp only [ofPattern, Spans, Pattern.Spans, spans_ofPattern]
  | .repeated a low none => by
    funext i j
    simp only [ofPattern, spans_times_iff, Spans, Pattern.Spans, spans_ofPattern a,
      reflTransGen_iff_steps, eq_iff_iff]
    constructor
    · rintro ⟨k, hlow, n, hn⟩
      exact ⟨low + n, Nat.le_add_right _ _, by simp, steps_add_iff.mpr ⟨k, hlow, hn⟩⟩
    · rintro ⟨n, hn, -, h⟩
      obtain ⟨m, rfl⟩ := Nat.exists_eq_add_of_le hn
      obtain ⟨k, hlow, hm⟩ := steps_add_iff.mp h
      exact ⟨k, hlow, m, hm⟩
  | .repeated a low (some high) => by
    funext i j
    simp only [ofPattern, spans_times_iff, spans_atMost_iff, Pattern.Spans, spans_ofPattern a,
      Option.mem_def, Option.some.injEq, forall_eq', eq_iff_iff]
    constructor
    · rintro ⟨k, hlow, n, hn, h⟩
      exact ⟨low + n, Nat.le_add_right _ _, by omega, steps_add_iff.mpr ⟨k, hlow, h⟩⟩
    · rintro ⟨n, hn, hmax, h⟩
      obtain ⟨m, rfl⟩ := Nat.exists_eq_add_of_le hn
      obtain ⟨k, hlow, hm⟩ := steps_add_iff.mp h
      exact ⟨k, hlow, m, by omega, hm⟩
  | .start => rfl
  | .stop => rfl

theorem unmarked_times {a after : MarkedPattern} (ha : a.Unmarked) (hafter : after.Unmarked) :
    ∀ n, (times a n after).Unmarked
  | 0 => hafter
  | n + 1 => ⟨ha, unmarked_times ha hafter n⟩

theorem unmarked_atMost {a : MarkedPattern} (ha : a.Unmarked) : ∀ n, (atMost a n).Unmarked
  | 0 => trivial
  | n + 1 => ⟨trivial, ha, unmarked_atMost ha n⟩

theorem unmarked_ofPattern : ∀ p : Pattern, (ofPattern p).Unmarked
  | .empty => trivial
  | .char _ => rfl
  | .seq a b => ⟨unmarked_ofPattern a, unmarked_ofPattern b⟩
  | .alt a b => ⟨unmarked_ofPattern a, unmarked_ofPattern b⟩
  | .repeated a low none => by
    have ha := unmarked_ofPattern a
    have hstar : (star (ofPattern a)).Unmarked := ha
    exact unmarked_times ha hstar low
  | .repeated a low (some high) => by
    have ha := unmarked_ofPattern a
    exact unmarked_times ha (unmarked_atMost ha (high - low)) low
  | .start => trivial
  | .stop => trivial

end MarkedPattern

namespace Pattern

/-- One reading of the subject finds a match if and only if the pattern spans some part of it. -/
theorem isMatch_iff {p : Pattern} {s : List Char} :
    p.isMatch s = true ↔ ∃ i ≤ s.length, ∃ j, p.Spans s i j := by
  have hp := MarkedPattern.unmarked_ofPattern p
  have h := MarkedPattern.matchesIn_iff s [] (.ofPattern p) fun _ => hp
  simpa [isMatch, MarkedPattern.spans_ofPattern, MarkedPattern.not_resumes hp] using h

theorem le_of_spans {p : Pattern} {s : List Char} {i j : Nat} (h : p.Spans s i j) : i ≤ j := by
  rw [← MarkedPattern.spans_ofPattern] at h
  exact MarkedPattern.le_of_spans h

theorem le_length_of_spans {p : Pattern} {s : List Char} {i j : Nat} (h : p.Spans s i j)
    (hi : i ≤ s.length) : j ≤ s.length := by
  rw [← MarkedPattern.spans_ofPattern] at h
  exact MarkedPattern.le_length_of_spans h hi

end Pattern

end LayerStencil
