import LayerStencil.Proofs.Pattern.Documented
import LayerStencil.Proofs.Pattern.Grouping
import LayerStencil.Pattern.Engine

/-! # The patterns that texts spell

The engine that marks the characters of a pattern follows the documentation of regular expressions.
A text is read from inside open groups, so that what it adds to the innermost one can be told from
what was there before: a balanced text adds alternatives, and an atom one part.

* `Pattern.spelled?`: the pattern that a text spells, whatever its size.
* `Pattern.spelledIn?_append`, `Pattern.spelledIn?_atom`: what texts make of a group.
* `Pattern.engine_follows`: what the engine finds is as documented. -/

namespace LayerStencil.Pattern

open PatternToken (scan?)
open PatternText (Balanced Complete EndsName IsAtom)

/-- The pattern that a text spells, however deep it nests and however large it is. -/
def spelled? (cs : List Char) : Option Nested := (scan? cs).bind (ofTokens? .new [])

/-- What a text means as a pattern, if it spells one. -/
def reads (cs : List Char) : Option Meaning := (spelled? cs).map fun p s => p.pattern.Spans s

theorem exists_of_parse?_eq_some {cs : List Char} {p : Pattern} (h : parse? cs = some p) :
    ∃ q, spelled? cs = some q ∧ q.pattern = p := by
  rw [parse?] at h
  rw [spelled?]
  cases hscan : scan? cs with
  | none => simp [hscan] at h
  | some ts =>
    rw [Option.bind_some]
    cases hq : ofTokens? .new [] ts with
    | none => simp [hscan, hq] at h
    | some q =>
      simp only [hscan, hq, Option.bind_eq_bind, Option.bind_some] at h
      split at h
      · exact ⟨q, rfl, Option.some.inj h⟩
      · cases h

/-! ### Texts in open groups -/

/-- The pattern that a text spells from inside open groups. -/
def spelledIn? (g : Group) (outer : List Group) (cs : List Char) : Option Nested :=
  (scan? cs).bind (ofTokens? g outer)

theorem spelledIn?_cons {g g' : Group} {outer outer' : List Group} {c : Char} {t : PatternToken}
    {cs : List Char} (hnext : PatternToken.next? (c :: cs) = some (t, cs))
    (hstep : Group.step? (g, outer) t = some (g', outer')) :
    spelledIn? g outer (c :: cs) = spelledIn? g' outer' cs := by
  rw [spelledIn?, PatternToken.scan?_cons, hnext, Option.bind_some, spelledIn?]
  cases scan? cs with
  | none => rfl
  | some ts =>
    rw [Option.map_some, Option.bind_some, ofTokens?_cons, hstep]
    rfl

/-- The group that a text makes of an empty one. -/
def afterName? (cs : List Char) : Option Group :=
  (scan? cs).bind fun ts => (afterTokens? (.new, []) ts).map Prod.fst

/-- A balanced text adds its alternatives to the group around it, whatever stands behind it. -/
theorem spelledIn?_append {cs rest : List Char} (hcs : Balanced 0 cs) (hrest : EndsName rest)
    (before : List Nested) (around : List Group) :
    spelledIn? ⟨before, []⟩ around (cs ++ rest) = (afterName? cs).bind fun g =>
      spelledIn? ⟨g.finished ++ before, g.parts⟩ around rest := by
  rcases hcs.scan?_append hrest with ⟨hnone, hnone'⟩ | ⟨ts, hts, hcloses, hts'⟩
  · rw [spelledIn?, hnone', afterName?, hnone]
    rfl
  · obtain ⟨hframe, hend⟩ := @afterTokens?_frame before around (.new, []) ts hcloses
    rw [spelledIn?, hts', afterName?, hts, Option.bind_some]
    cases hus : scan? rest with
    | none =>
      simp only [spelledIn?, hus]
      cases afterTokens? (.new, []) ts <;> rfl
    | some us =>
      have happend := ofTokens?_append (frame before around (.new, [])) ts us
      rw [hframe] at happend
      simp only [spelledIn?, hus]
      refine happend.trans ?_
      cases hst : afterTokens? (.new, []) ts with
      | none => rfl
      | some st =>
        obtain ⟨g, outer⟩ := st
        obtain rfl : outer = [] := hend _ hst
        rfl

theorem spelled?_of_balanced {cs : List Char} (hcs : Balanced 0 cs) :
    spelled? cs = (afterName? cs).map Group.close := by
  have hrest : EndsName [] := by rintro c ⟨⟩
  have h := spelledIn?_append hcs hrest [] []
  rw [List.append_nil] at h
  refine h.trans ?_
  cases afterName? cs with
  | none => rfl
  | some g =>
    rw [Option.bind_some, List.append_nil]
    rfl

/-! ### Alternatives -/

/-- Two balanced texts with a bar between them mean one of the two. -/
theorem reads_bar {cs ds : List Char} (hcs : Balanced 0 cs) (hds : Balanced 0 ds) :
    reads (cs ++ '|' :: ds) = Option.map₂ .or (reads cs) (reads ds) := by
  have hbar : EndsName ('|' :: ds) := by rintro c ⟨⟩; exact .inl rfl
  have hnil : EndsName [] := by rintro c ⟨⟩
  have hsecond (g : Group) : spelledIn? g [] ('|' :: ds) =
      (afterName? ds).map fun h => (g.append h).close := by
    have h := spelledIn?_append hds hnil g.alternatives []
    rw [List.append_nil] at h
    rw [spelledIn?_cons (t := .bar) rfl rfl, Group.bar, Option.map_eq_bind]
    exact h
  have hspelled : spelled? (cs ++ '|' :: ds) = (afterName? cs).bind fun g =>
      (afterName? ds).map fun h => (g.append h).close := by
    refine (spelledIn?_append hcs hbar [] []).trans (Option.bind_congr fun g _ => ?_)
    rw [List.append_nil, hsecond]
  rw [reads, reads, reads, hspelled, spelled?_of_balanced hcs, spelled?_of_balanced hds]
  cases afterName? cs with
  | none => rfl
  | some g =>
    cases afterName? ds with
    | none => rfl
    | some h =>
      refine congrArg some ?_
      funext s i j
      exact propext Group.spans_close_append

/-! ### Atoms in a row -/

theorem spelledIn?_group {cs rest : List Char} (hcs : Complete cs) (g : Group)
    (outer : List Group) : spelledIn? g outer ('(' :: (cs ++ ')' :: rest)) =
      (spelled? cs).bind fun p =>
        spelledIn? (g.push p.pattern (p.depth + 1)) outer rest := by
  have hrest : EndsName (')' :: rest) := by rintro c ⟨⟩; exact .inr rfl
  have hopens : '?' ∉ (cs ++ ')' :: rest).head? :=
    mt (hrest.mem_head_append_iff (by decide) cs).mp hcs.start
  rw [spelledIn?_cons (t := .openGroup) (PatternText.next?_opens hopens) rfl, Group.new,
    spelledIn?_append hcs.balanced hrest, spelled?_of_balanced hcs.balanced]
  cases afterName? cs with
  | none => rfl
  | some h =>
    rw [Option.bind_some, Option.map_some, Option.bind_some, List.append_nil]
    exact spelledIn?_cons (t := .closeGroup) rfl rfl

/-- An atom adds one part to the group around it, whatever stands behind it. -/
theorem spelledIn?_atom {cs : List Char} (hcs : IsAtom cs) (rest : List Char) (g : Group)
    (outer : List Group) : spelledIn? g outer (cs ++ rest) = (spelled? cs).bind fun p =>
      spelledIn? (g.push p.pattern p.depth) outer rest := by
  cases hcs with
  | start => exact spelledIn?_cons (t := .start) rfl rfl
  | stop => exact spelledIn?_cons (t := .stop) rfl rfl
  | @group cs h =>
    have hgroup : spelled? ('(' :: (cs ++ [')'])) = (spelled? cs).map fun p =>
        ⟨p.pattern, p.depth + 1⟩ := by
      rw [Option.map_eq_bind]
      exact spelledIn?_group h .new []
    rw [hgroup, List.cons_append, List.append_assoc, List.cons_append, List.nil_append,
      spelledIn?_group h]
    cases spelled? cs <;> rfl

/-- Atoms in a row add one part each. -/
theorem spelledIn?_atoms {dss : List (List Char)} (h : ∀ ds ∈ dss, IsAtom ds)
    (parts : List Nested) : spelledIn? ⟨[], parts⟩ [] dss.flatten =
      (dss.mapM spelled?).map fun ps => Group.sequence (ps.reverse ++ parts) := by
  induction dss generalizing parts with
  | nil => rfl
  | cons ds dss ih =>
    obtain ⟨hds, hdss⟩ := List.forall_mem_cons.mp h
    rw [List.flatten_cons, spelledIn?_atom hds, List.mapM_cons]
    cases spelled? ds with
    | none => rfl
    | some p =>
      refine (ih hdss (p :: parts)).trans ?_
      cases dss.mapM spelled? with
      | none => rfl
      | some ps => simp

/-- An atom before others means what it does itself and then what they do. -/
theorem reads_atoms {cs : List Char} {dss : List (List Char)} (hcs : IsAtom cs)
    (hdss : ∀ ds ∈ dss, IsAtom ds) :
    reads (cs ++ dss.flatten) = Option.map₂ .andThen (reads cs) (reads dss.flatten) := by
  have hspelled : spelled? dss.flatten = (dss.mapM spelled?).map fun ps =>
      Group.sequence ps.reverse := by
    refine (spelledIn?_atoms hdss []).trans ?_
    simp
  have hall : spelled? (cs ++ dss.flatten) = (spelled? cs).bind fun p =>
      (dss.mapM spelled?).map fun ps => Group.sequence (ps.reverse ++ [p]) := by
    refine (spelledIn?_atom hcs dss.flatten .new []).trans (Option.bind_congr fun p _ => ?_)
    exact spelledIn?_atoms hdss [p]
  rw [reads, reads, reads, hall, hspelled]
  cases spelled? cs with
  | none => rfl
  | some p =>
    cases dss.mapM spelled? with
    | none => rfl
    | some ps =>
      refine congrArg some ?_
      funext s i j
      exact propext (Group.spans_sequence_append ps.reverse)

/-! ### The engine -/

/-- The engine finds what patterns are documented to match. -/
theorem engine_follows : engine.Follows reads where
  compiled := by
    intro cs p hp
    obtain ⟨q, hq, rfl⟩ := exists_of_parse?_eq_some hp
    refine ⟨q.pattern.Spans, by rw [reads, hq]; rfl, fun s => isMatch_iff.trans ?_⟩
    constructor
    · rintro ⟨i, hi, j, hspan⟩
      exact ⟨i, j, le_of_spans hspan, le_length_of_spans hspan hi, hspan⟩
    · rintro ⟨i, j, hij, hj, hspan⟩
      exact ⟨i, Nat.le_trans hij hj, j, hspan⟩
  start := rfl
  stop := rfl
  group := by
    intro cs hcs
    have hgroup : spelled? ('(' :: (cs ++ [')'])) = (spelled? cs).bind fun p =>
        some ⟨p.pattern, p.depth + 1⟩ := spelledIn?_group hcs .new []
    rw [reads, reads, hgroup]
    cases spelled? cs <;> rfl
  -- No group is read that has a name.
  alternation hcs hds _ := reads_bar hcs hds
  concatenation hcs hdss _ := reads_atoms hcs hdss

end LayerStencil.Pattern
