import LayerStencil.Condition.Parse
import Mathlib.Tactic.Common

/-! # Readings of tokens

The readings of conditions carry the proof that they leave fewer tokens than they began with. Here
they are seen without it, as `plain` readings, each with one equation for every way it can go:

* `disjuncts`, `conjuncts`: `or` and `and` are read by the same loop, a `LeftChain`.
* `negation_not`, `negation_stop`, `comparison_plain`, `operand_openParen`, `operand_openBracket`,
  `items_plain`: the other levels.
* `operand_eq_some`: the tokens an operand can start with, and what is read after them.
* `comparison_pair`, `bracketed_cons`: what has been read, put together. -/

namespace LayerStencil

variable {α : Type} {m n : Nat}

/-- A reading without what it says of lengths. -/
def Reading.plain (r : Reading α n) : Option (α × List Token) := r.map fun p => (p.1, p.2.1)

namespace Reading

@[simp] theorem plain_none : Reading.plain (none : Reading α n) = none := rfl

@[simp] theorem plain_some (a : α) (rest : { rest : List Token // rest.length < n }) :
    Reading.plain (some (a, rest)) = some (a, rest.1) := rfl

@[simp] theorem plain_widen (h : m ≤ n) (r : Reading α m) : (r.widen h).plain = r.plain := by
  rcases r with _ | ⟨a, rest, lt⟩ <;> rfl

theorem length_lt_of_plain {r : Reading α n} {a : α} {us : List Token}
    (h : r.plain = some (a, us)) : us.length < n := by
  obtain ⟨⟨b, rest, hlt⟩, -, hp⟩ := Option.map_eq_some_iff.mp h
  cases hp
  exact hlt

end Reading

namespace Expr

/-! ### Chains to the left -/

/-- `whole` reads one or more of what `part` reads, with the token `sep` between them, and groups
them to the left; `more a` goes on after `a`. -/
structure LeftChain (sep : Token) (node : Expr → Expr → Expr)
    (part whole : List Token → Option (Expr × List Token))
    (more : Expr → List Token → Option (Expr × List Token)) : Prop where
  whole_eq : ∀ ts, whole ts = (part ts).bind fun p => more p.1 p.2
  more_sep : ∀ a r, more a (sep :: r) = (part r).bind fun p => more (node a p.1) p.2
  more_stop : ∀ a ts, ts.head? ≠ some sep → more a ts = some (a, ts)

/-- Disjunctions are chains of conjunctions. -/
theorem disjuncts : LeftChain .or .or (fun ts => (conjunction ts).plain)
    (fun ts => (disjunction ts).plain) (fun a ts => (moreDisjuncts a ts).plain) where
  whole_eq ts := by
    rw [disjunction]
    rcases conjunction ts with _ | ⟨a, rest, h⟩ <;> simp
  more_sep a r := by
    rw [moreDisjuncts]
    rcases conjunction r with _ | ⟨b, rest, h⟩ <;> simp
  more_stop a ts h := by
    rw [moreDisjuncts]
    · rfl
    · rintro r rfl; exact h rfl

/-- Conjunctions are chains of negations. -/
theorem conjuncts : LeftChain .and .and (fun ts => (negation ts).plain)
    (fun ts => (conjunction ts).plain) (fun a ts => (moreConjuncts a ts).plain) where
  whole_eq ts := by
    rw [conjunction]
    rcases negation ts with _ | ⟨a, rest, h⟩ <;> simp
  more_sep a r := by
    rw [moreConjuncts]
    rcases negation r with _ | ⟨b, rest, h⟩ <;> simp
  more_stop a ts h := by
    rw [moreConjuncts]
    · rfl
    · rintro r rfl; exact h rfl

/-! ### Ends and operators -/

theorem comparison?_eq_some_iff {ts us : List Token} {op : CompareOp} :
    (comparison? ts).plain = some (op, us) ↔ ts = .compare op :: us ∨
      (ts = .isIn :: us ∧ op = .isIn) ∨ (ts = .not :: .isIn :: us ∧ op = .notIn) := by
  constructor
  · intro h
    unfold comparison? at h
    split at h <;> cases h <;> simp
  · rintro (rfl | ⟨rfl, rfl⟩ | ⟨rfl, rfl⟩) <;> rfl

theorem parenEnd?_eq_some_iff {ts us : List Token} :
    (parenEnd? ts).plain = some ((), us) ↔ ts = .closeParen :: us := by
  constructor
  · intro h
    unfold parenEnd? at h
    split at h <;> cases h
    rfl
  · rintro rfl; rfl

theorem listEnd?_eq_some_iff {ts us : List Token} : (listEnd? ts).plain = some ((), us) ↔
    ts = .closeBracket :: us ∨ ts = .comma :: .closeBracket :: us := by
  constructor
  · intro h
    unfold listEnd? at h
    split at h <;> cases h <;> simp
  · rintro (rfl | rfl) <;> rfl

/-! ### The other levels -/

theorem negation_not (r : List Token) : (negation (.not :: r)).plain =
    (negation r).plain.map fun p => (.not p.1, p.2) := by
  rw [negation]
  rcases negation r with _ | ⟨e, rest, h⟩ <;> rfl

theorem negation_stop {ts : List Token} (h : ts.head? ≠ some .not) :
    negation ts = comparison ts := by
  rw [negation]
  rintro r rfl; exact h rfl

theorem comparison_plain (ts : List Token) : (comparison ts).plain =
    (operand ts).plain.bind fun p =>
      match (comparison? p.2).plain with
      | none => some p
      | some (op, r) => (operand r).plain.map fun q => (.compare op p.1 q.1, q.2) := by
  rw [comparison]
  rcases operand ts with _ | ⟨a, rest, h⟩
  · rfl
  simp only [Reading.plain_some, Option.bind_some]
  rcases comparison? rest with _ | ⟨op, rest', h'⟩
  · rfl
  simp only [Reading.plain_some]
  rcases operand rest' with _ | ⟨b, rest'', h''⟩ <;> rfl

theorem operand_openParen (r : List Token) : (operand (.openParen :: r)).plain =
    (disjunction r).plain.bind fun p => (parenEnd? p.2).plain.map fun q => (p.1, q.2) := by
  rw [operand]
  rcases disjunction r with _ | ⟨e, rest, h⟩
  · rfl
  simp only [Reading.plain_some, Option.bind_some]
  rcases parenEnd? rest with _ | ⟨u, rest', h'⟩ <;> rfl

/-- The rest of a list after its opening bracket. -/
def bracketed (ts : List Token) : Option (List Expr × List Token) :=
  match (listEnd? ts).plain with
  | some (_, us) => some ([], us)
  | none => (items ts).plain

theorem operand_openBracket (r : List Token) : (operand (.openBracket :: r)).plain =
    (bracketed r).map fun p => (.list p.1, p.2) := by
  rw [operand, bracketed]
  rcases listEnd? r with _ | ⟨u, rest, h⟩
  · rcases items r with _ | ⟨es, rest, h⟩ <;> rfl
  · rfl

/-- The ways to read an operand. -/
theorem operand_eq_some {ts us : List Token} {e : Expr} (h : (operand ts).plain = some (e, us)) :
    (∃ r, ts = .openParen :: r ∧ (disjunction r).plain = some (e, .closeParen :: us)) ∨
    (∃ r es, ts = .openBracket :: r ∧ bracketed r = some (es, us) ∧ e = .list es) ∨
    (∃ v, ts = .literal v :: us ∧ e = .literal v) ∨
    (∃ raw, ts = .text raw :: us ∧ e = .text raw) ∨
    (∃ name, ts = .field name :: us ∧ e = .field name) := by
  have hts := h
  rw [operand.eq_def] at hts
  split at hts
  · rename_i r
    rw [operand_openParen] at h
    obtain ⟨⟨e', rest⟩, hdisj, hend⟩ := Option.bind_eq_some_iff.mp h
    obtain ⟨⟨⟨⟩, us'⟩, hparen, hq⟩ := Option.map_eq_some_iff.mp hend
    cases hq
    rw [← parenEnd?_eq_some_iff.mp hparen]
    exact .inl ⟨r, rfl, hdisj⟩
  · rename_i r
    rw [operand_openBracket] at h
    obtain ⟨⟨es, us'⟩, hes, hq⟩ := Option.map_eq_some_iff.mp h
    cases hq
    exact .inr (.inl ⟨r, es, rfl, hes, rfl⟩)
  · cases hts; exact .inr (.inr (.inl ⟨_, rfl, rfl⟩))
  · cases hts; exact .inr (.inr (.inr (.inl ⟨_, rfl, rfl⟩)))
  · cases hts; exact .inr (.inr (.inr (.inr ⟨_, rfl, rfl⟩)))
  · cases hts

theorem items_plain (ts : List Token) : (items ts).plain =
    (disjunction ts).plain.bind fun p =>
      match (listEnd? p.2).plain with
      | some (_, us) => some ([p.1], us)
      | none =>
        match p.2 with
        | .comma :: r => (items r).plain.map fun q => (p.1 :: q.1, q.2)
        | _ => none := by
  rw [items]
  rcases disjunction ts with _ | ⟨e, rest, h⟩
  · rfl
  simp only [Reading.plain_some, Option.bind_some]
  rcases listEnd? rest with _ | ⟨u, rest', h'⟩
  · simp only [Reading.plain_none]
    split
    · rename_i r h
      dsimp only
      rcases items r with _ | ⟨es, rest', h'⟩ <;> rfl
    · rename_i hno
      split
      · exact (hno _ _ rfl HEq.rfl).elim
      · rfl
  · rfl

/-! ### What nothing starts with -/

theorem operand_eq_none {t : Token} (r : List Token)
    (h : t = .not ∨ t = .comma ∨ t = .closeBracket) : operand (t :: r) = none := by
  rcases h with rfl | rfl | rfl <;> rw [operand.eq_def]

theorem head?_of_comparison {ts us : List Token} {e : Expr}
    (h : (comparison ts).plain = some (e, us)) : ts.head? ≠ some .not := by
  intro hhead
  obtain ⟨r, rfl⟩ := List.head?_eq_some_iff.mp hhead
  rw [comparison_plain, operand_eq_none r (.inl rfl)] at h
  cases h

theorem listEnd?_of_disjunction {ts us : List Token} {e : Expr}
    (h : (disjunction ts).plain = some (e, us)) : (listEnd? ts).plain = none := by
  refine Option.eq_none_iff_forall_ne_some.mpr ?_
  rintro ⟨⟨⟩, vs⟩ hend
  rcases listEnd?_eq_some_iff.mp hend with rfl | rfl
  · rw [disjuncts.whole_eq, conjuncts.whole_eq, negation_stop (by simp), comparison_plain,
      operand_eq_none _ (.inr (.inr rfl))] at h
    cases h
  · rw [disjuncts.whole_eq, conjuncts.whole_eq, negation_stop (by simp), comparison_plain,
      operand_eq_none _ (.inr (.inl rfl))] at h
    cases h

theorem bracketed_of_disjunction {ts us : List Token} {e : Expr}
    (h : (disjunction ts).plain = some (e, us)) : bracketed ts = (items ts).plain := by
  rw [bracketed, listEnd?_of_disjunction h]

theorem items_of_bracketed {ts us : List Token} {e : Expr} {es : List Expr}
    (h : bracketed ts = some (e :: es, us)) :
    (listEnd? (.comma :: ts)).plain = none ∧ (items ts).plain = some (e :: es, us) := by
  unfold bracketed at h
  split at h
  · cases h
  · rename_i hend
    refine ⟨Option.eq_none_iff_forall_ne_some.mpr ?_, h⟩
    rintro ⟨⟨⟩, vs⟩ hcomma
    rcases listEnd?_eq_some_iff.mp hcomma with h | h <;> cases h
    cases hend

/-! ### Going on after what has been read -/

theorem comparison_single {ts us : List Token} {a : Expr}
    (ha : (operand ts).plain = some (a, us)) (hstop : (comparison? us).plain = none) :
    (comparison ts).plain = some (a, us) := by
  rw [comparison_plain, ha, Option.bind_some]
  dsimp only
  rw [hstop]

theorem comparison_pair {ts us vs ws : List Token} {a b : Expr} {op : CompareOp}
    (ha : (operand ts).plain = some (a, us)) (hop : (comparison? us).plain = some (op, vs))
    (hb : (operand vs).plain = some (b, ws)) :
    (comparison ts).plain = some (.compare op a b, ws) := by
  rw [comparison_plain, ha, Option.bind_some]
  dsimp only
  rw [hop]
  dsimp only
  rw [hb, Option.map_some]

theorem bracketed_last {ts us vs : List Token} {e : Expr}
    (he : (disjunction ts).plain = some (e, us)) (hend : (listEnd? us).plain = some ((), vs)) :
    bracketed ts = some ([e], vs) := by
  rw [bracketed_of_disjunction he, items_plain, he, Option.bind_some]
  dsimp only
  rw [hend]

theorem bracketed_cons {ts us vs : List Token} {e e' : Expr} {es : List Expr}
    (he : (disjunction ts).plain = some (e, .comma :: us))
    (hes : bracketed us = some (e' :: es, vs)) : bracketed ts = some (e :: e' :: es, vs) := by
  obtain ⟨hend, hitems⟩ := items_of_bracketed hes
  rw [bracketed_of_disjunction he, items_plain, he, Option.bind_some]
  dsimp only
  rw [hend]
  dsimp only
  rw [hitems, Option.map_some]

end Expr

end LayerStencil
