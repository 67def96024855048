import LayerStencil.Proofs.Condition.Lexeme
import LayerStencil.Proofs.Condition.Reading

/-! # Conditions are read exactly by their grammar

Both directions compare a text with its tokens. What is left of a text stands for what is left of
its tokens, so one direction follows the readings and the other the derivation.

* `readsOnly_disjunction`: what is read is derived. Each level follows from the tighter ones at the
  same length, and operands from disjunctions at smaller lengths.
* `reads_of_derives`: what is derived is read, by induction on the derivation. The loops that read
  `or` and `and` are not closed by the end of a derivation, so `Reads` leaves them running.
* `parse?_eq_some_iff_spells`: together, with the two consequences that the tree is unique and that
  every other text is refused. -/

namespace LayerStencil.Grammar

open Token (scan?)
open LayerStencil.Expr

/-! ### What is read is derived -/

/-- What a reader finds in texts of at most `n` tokens is derived from the level. -/
def ReadsOnly (level : Level) (read : List Token → Option (Expr × List Token)) (n : Nat) : Prop :=
  ∀ ts cs e us, ts.length ≤ n → scan? cs = some ts → read ts = some (e, us) →
    ∃ rest, scan? rest = some us ∧ Derives level cs e rest

variable {sep : Token} {node : Expr → Expr → Expr} {n : Nat} {inner outer : Level}
  {part whole : List Token → Option (Expr × List Token)}
  {more : Expr → List Token → Option (Expr × List Token)}

/-- A chain goes on from a derivation to a derivation. -/
theorem derives_more (chain : LeftChain sep node part whole more)
    (hlt : ∀ ts e us, part ts = some (e, us) → us.length < ts.length)
    (step : ∀ {cs r r' rest a b}, Derives outer cs a r → Symbol sep r r' → Derives inner r' b rest →
      Derives outer cs (node a b) rest)
    (hpart : ReadsOnly inner part n) {cs : List Char} {e : Expr} {us : List Token} (k : Nat) :
    ∀ {ts r a}, ts.length ≤ k → k ≤ n → Derives outer cs a r → scan? r = some ts →
      more a ts = some (e, us) → ∃ rest, scan? rest = some us ∧ Derives outer cs e rest := by
  -- On a bound of the length: what `part` leaves is shorter, but no tail of the tokens.
  induction k with
  | zero =>
    intro ts r a hk _ ha hts hmore
    obtain rfl : ts = [] := List.length_eq_zero_iff.mp (Nat.le_zero.mp hk)
    rw [chain.more_stop _ _ (by simp)] at hmore
    cases hmore
    exact ⟨r, hts, ha⟩
  | succ k ih =>
    intro ts r a hk hkn ha hts hmore
    by_cases hsep : ts.head? = some sep
    · obtain ⟨ts, rfl⟩ := List.head?_eq_some_iff.mp hsep
      rw [List.length_cons] at hk
      rw [chain.more_sep] at hmore
      obtain ⟨⟨b, vs⟩, hb, hmore⟩ := Option.bind_eq_some_iff.mp hmore
      obtain ⟨r', hsym, hr'⟩ := symbol_of_scan? hts
      obtain ⟨r'', hr'', hderives⟩ := hpart ts r' b vs (by omega) hr' hb
      have hvs := hlt ts b vs hb
      exact ih (by omega) (by omega) (step ha hsym hderives) hr'' hmore
    · rw [chain.more_stop _ _ hsep] at hmore
      cases hmore
      exact ⟨r, hts, ha⟩

/-- A chain is read as it is derived if its parts are. -/
theorem readsOnly_chain (chain : LeftChain sep node part whole more)
    (hlt : ∀ ts e us, part ts = some (e, us) → us.length < ts.length)
    (base : ∀ {cs rest a}, Derives inner cs a rest → Derives outer cs a rest)
    (step : ∀ {cs r r' rest a b}, Derives outer cs a r → Symbol sep r r' → Derives inner r' b rest →
      Derives outer cs (node a b) rest)
    (hpart : ReadsOnly inner part n) : ReadsOnly outer whole n := by
  intro ts cs e us hn hts hwhole
  rw [chain.whole_eq] at hwhole
  obtain ⟨⟨a, vs⟩, ha, hmore⟩ := Option.bind_eq_some_iff.mp hwhole
  obtain ⟨r, hr, hderives⟩ := hpart ts cs a vs hn hts ha
  have hvs := hlt ts a vs ha
  exact derives_more chain hlt step hpart n (by omega) (Nat.le_refl n) (base hderives) hr hmore

theorem operator_of_comparison? {cs : List Char} {ts us : List Token} {op : CompareOp}
    (hts : scan? cs = some ts) (h : (comparison? ts).plain = some (op, us)) :
    ∃ rest, Operator op cs rest ∧ scan? rest = some us := by
  rcases comparison?_eq_some_iff.mp h with rfl | ⟨rfl, rfl⟩ | ⟨rfl, rfl⟩
  · obtain ⟨rest, hsym, hrest⟩ := symbol_of_scan? hts
    exact ⟨rest, .sign hsym, hrest⟩
  · obtain ⟨rest, hsym, hrest⟩ := symbol_of_scan? hts
    exact ⟨rest, .isIn hsym, hrest⟩
  · obtain ⟨r, hnot, hr⟩ := symbol_of_scan? hts
    obtain ⟨rest, hin, hrest⟩ := symbol_of_scan? hr
    exact ⟨rest, .notIn hnot hin, hrest⟩

theorem readsOnly_comparison (h : ReadsOnly .operand (fun ts => (operand ts).plain) n) :
    ReadsOnly .comparison (fun ts => (comparison ts).plain) n := by
  intro ts cs e us hn hts hread
  dsimp only at hread
  rw [comparison_plain] at hread
  obtain ⟨⟨a, vs⟩, ha, hread⟩ := Option.bind_eq_some_iff.mp hread
  obtain ⟨r, hr, hderives⟩ := h ts cs a vs hn hts ha
  have hvs := Reading.length_lt_of_plain ha
  split at hread
  · cases hread
    exact ⟨r, hr, .operand hderives⟩
  · rename_i op ws hop
    obtain ⟨⟨b, xs⟩, hb, hq⟩ := Option.map_eq_some_iff.mp hread
    cases hq
    have hws := Reading.length_lt_of_plain hop
    obtain ⟨r', hoperator, hr'⟩ := operator_of_comparison? hr hop
    obtain ⟨rest, hrest, hderives'⟩ := h ws r' b xs (by dsimp only at hws; omega) hr' hb
    exact ⟨rest, hrest, .compare hderives hoperator hderives'⟩

theorem readsOnly_negation (h : ReadsOnly .comparison (fun ts => (comparison ts).plain) n) :
    ReadsOnly .negation (fun ts => (negation ts).plain) n := by
  intro ts
  induction ts with
  | nil =>
    intro cs e us hn hts hread
    dsimp only at hread
    rw [negation_stop (by simp)] at hread
    obtain ⟨rest, hrest, hderives⟩ := h [] cs e us hn hts hread
    exact ⟨rest, hrest, .comparison hderives⟩
  | cons t ts ih =>
    intro cs e us hn hts hread
    dsimp only at hread
    by_cases ht : t = .not
    · subst ht
      rw [negation_not] at hread
      obtain ⟨⟨a, vs⟩, ha, hq⟩ := Option.map_eq_some_iff.mp hread
      cases hq
      obtain ⟨r, hsym, hr⟩ := symbol_of_scan? hts
      obtain ⟨rest, hrest, hderives⟩ := ih r a vs (Nat.le_of_succ_le hn) hr ha
      exact ⟨rest, hrest, .not hsym hderives⟩
    · have hhead : (t :: ts).head? ≠ some .not := fun h => ht (Option.some.inj h)
      rw [negation_stop hhead] at hread
      obtain ⟨rest, hrest, hderives⟩ := h (t :: ts) cs e us hn hts hread
      exact ⟨rest, hrest, .comparison hderives⟩

theorem listEnd_of_listEnd? {cs : List Char} {ts us : List Token} (hts : scan? cs = some ts)
    (h : (listEnd? ts).plain = some ((), us)) : ∃ rest, ListEnd cs rest ∧ scan? rest = some us := by
  rcases listEnd?_eq_some_iff.mp h with rfl | rfl
  · obtain ⟨rest, hclose, hrest⟩ := symbol_of_scan? hts
    exact ⟨rest, ⟨cs, .inl rfl, hclose⟩, hrest⟩
  · obtain ⟨r, hcomma, hr⟩ := symbol_of_scan? hts
    obtain ⟨rest, hclose, hrest⟩ := symbol_of_scan? hr
    exact ⟨rest, ⟨r, .inr hcomma, hclose⟩, hrest⟩

/-- The contents of a list are derived with its end, and there are some. -/
theorem derives_items (h : ReadsOnly .disjunction (fun ts => (disjunction ts).plain) n) (k : Nat) :
    ∀ {ts cs es us}, ts.length ≤ k → k ≤ n → scan? cs = some ts →
      (items ts).plain = some (es, us) → es ≠ [] ∧
        ∃ r rest, Derives .items cs (.list es) r ∧ ListEnd r rest ∧ scan? rest = some us := by
  induction k with
  | zero =>
    intro ts cs es us hk _ _ hread
    have := Reading.length_lt_of_plain hread
    omega
  | succ k ih =>
    intro ts cs es us hk hkn hts hread
    rw [items_plain] at hread
    obtain ⟨⟨e, vs⟩, he, hread⟩ := Option.bind_eq_some_iff.mp hread
    have hvs := Reading.length_lt_of_plain he
    obtain ⟨r, hr, hderives⟩ := h ts cs e vs (by omega) hts he
    dsimp only at hread
    split at hread
    · rename_i us' hend
      cases hread
      obtain ⟨rest, hlistEnd, hrest⟩ := listEnd_of_listEnd? hr hend
      exact ⟨List.cons_ne_nil _ _, r, rest, .one hderives, hlistEnd, hrest⟩
    · split at hread
      · rename_i ws _
        obtain ⟨⟨es', us'⟩, hes, hq⟩ := Option.map_eq_some_iff.mp hread
        cases hq
        rw [List.length_cons] at hvs
        obtain ⟨r', hcomma, hr'⟩ := symbol_of_scan? hr
        obtain ⟨hne, r'', rest, hitems, hlistEnd, hrest⟩ := ih (by omega) (by omega) hr' hes
        obtain ⟨e', es', rfl⟩ := List.exists_cons_of_ne_nil hne
        exact ⟨List.cons_ne_nil _ _, r'', rest, .more hderives hcomma hitems, hlistEnd, hrest⟩
      · cases hread

theorem readsOnly_operand
    (h : ∀ m < n, ReadsOnly .disjunction (fun ts => (disjunction ts).plain) m) :
    ReadsOnly .operand (fun ts => (operand ts).plain) n := by
  intro ts cs e us hn hts hread
  rcases operand_eq_some hread with ⟨r, rfl, hdisj⟩ | ⟨r, es, rfl, hes, rfl⟩ | ⟨v, rfl, rfl⟩ |
    ⟨raw, rfl, rfl⟩ | ⟨name, rfl, rfl⟩
  · obtain ⟨r₁, hopen, hr₁⟩ := symbol_of_scan? hts
    obtain ⟨r₂, hr₂, hderives⟩ := h r.length hn r r₁ e _ (Nat.le_refl _) hr₁ hdisj
    obtain ⟨rest, hclose, hrest⟩ := symbol_of_scan? hr₂
    exact ⟨rest, hrest, .paren hopen hderives hclose⟩
  · obtain ⟨r₁, hopen, hr₁⟩ := symbol_of_scan? hts
    unfold bracketed at hes
    split at hes
    · rename_i us' hend
      cases hes
      obtain ⟨rest, hlistEnd, hrest⟩ := listEnd_of_listEnd? hr₁ hend
      exact ⟨rest, hrest, .list hopen .none hlistEnd⟩
    · obtain ⟨-, r₂, rest, hitems, hlistEnd, hrest⟩ :=
        derives_items (h r.length hn) r.length (Nat.le_refl _) (Nat.le_refl _) hr₁ hes
      exact ⟨rest, hrest, .list hopen hitems hlistEnd⟩
  · obtain ⟨rest, hsym, hrest⟩ := symbol_of_scan? hts
    exact ⟨rest, hrest, .literal hsym⟩
  · obtain ⟨rest, hsym, hrest⟩ := symbol_of_scan? hts
    exact ⟨rest, hrest, .text hsym⟩
  · obtain ⟨rest, hsym, hrest⟩ := symbol_of_scan? hts
    exact ⟨rest, hrest, .field hsym⟩

/-- **What is read is derived.** -/
theorem readsOnly_disjunction (n : Nat) :
    ReadsOnly .disjunction (fun ts => (disjunction ts).plain) n := by
  induction n using Nat.strongRecOn with
  | ind n ih =>
    have hnegation := readsOnly_negation (readsOnly_comparison (readsOnly_operand ih))
    have hconjunction := readsOnly_chain conjuncts (fun ts e us => Reading.length_lt_of_plain)
      .negation .and hnegation
    exact readsOnly_chain disjuncts (fun ts e us => Reading.length_lt_of_plain)
      .conjunction .or hconjunction

/-! ### What is derived is read -/

theorem Operator.scan?_eq {op : CompareOp} {cs rest : List Char} {us : List Token}
    (h : Operator op cs rest) (hrest : ∀ c ∈ rest.head?, c ≠ '=') (hus : scan? rest = some us) :
    ∃ ts, scan? cs = some ts ∧ (comparison? ts).plain = some (op, us) := by
  cases h with
  | sign h =>
    have hmax : Maximal (.compare op) rest := by
      cases op <;> first | exact hrest | trivial
    exact ⟨_, h.scan?_eq hmax hus, rfl⟩
  | isIn h => exact ⟨_, h.scan?_eq trivial hus, rfl⟩
  | notIn hnot hin => exact ⟨_, hnot.scan?_eq trivial (hin.scan?_eq trivial hus), rfl⟩

theorem Operator.not_digit {op : CompareOp} {cs rest : List Char} (h : Operator op cs rest) :
    ∀ c ∈ cs.head?, ¬ Text.isAsciiDigit c := by
  cases h with
  | sign h => exact h.not_digit (by simp)
  | isIn h => exact h.not_digit (by simp)
  | notIn hnot hin => exact hnot.not_digit (by simp)

theorem Derives.not_equals {cs rest : List Char} {e : Expr} (h : Derives .operand cs e rest) :
    ∀ c ∈ cs.head?, c ≠ '=' := by
  cases h with
  | paren hopen he hclose => exact hopen.not_equals (by simp)
  | list hopen hes hend => exact hopen.not_equals (by simp)
  | literal h => exact h.not_equals (by simp)
  | text h => exact h.not_equals (by simp)
  | field h => exact h.not_equals (by simp)

theorem ListEnd.scan?_eq {cs rest : List Char} {us : List Token} (h : ListEnd cs rest)
    (hus : scan? rest = some us) :
    ∃ ts, scan? cs = some ts ∧ (listEnd? ts).plain = some ((), us) := by
  obtain ⟨r, hcomma, hclose⟩ := h
  have hr := hclose.scan?_eq trivial hus
  rcases hcomma with rfl | hcomma
  · exact ⟨_, hr, rfl⟩
  · exact ⟨_, hcomma.scan?_eq trivial hr, rfl⟩

theorem ListEnd.not_digit {cs rest : List Char} (h : ListEnd cs rest) :
    ∀ c ∈ cs.head?, ¬ Text.isAsciiDigit c := by
  obtain ⟨r, rfl | hcomma, hclose⟩ := h
  · exact hclose.not_digit (by simp)
  · exact hcomma.not_digit (by simp)

/-- The tokens `ts` are read at the level as `e`, up to `us`. The loops of `or` and `and` still run
at the end, and a reading that would go on with what `us` starts with is left out. -/
def Reads : Level → List Token → Expr → List Token → Prop
  | .disjunction, ts, e, us => (comparison? us).plain = none → us.head? ≠ some .and →
      (disjunction ts).plain = (moreDisjuncts e us).plain
  | .conjunction, ts, e, us => (comparison? us).plain = none →
      (conjunction ts).plain = (moreConjuncts e us).plain
  | .negation, ts, e, us => (comparison? us).plain = none → (negation ts).plain = some (e, us)
  | .comparison, ts, e, us => (comparison? us).plain = none → (comparison ts).plain = some (e, us)
  | .operand, ts, e, us => (operand ts).plain = some (e, us)
  | .items, ts, e, us => ∀ es vs, e = .list es → (listEnd? us).plain = some ((), vs) →
      bracketed ts = some (es, vs)

theorem Reads.closed {t : Token} {ts us : List Token} {e : Expr}
    (h : Reads .disjunction ts e (t :: us))
    (ht : t = .closeParen ∨ t = .closeBracket ∨ t = .comma) :
    (disjunction ts).plain = some (e, t :: us) := by
  rcases ht with rfl | rfl | rfl
  all_goals rw [h rfl (by simp), disjuncts.more_stop _ _ (by simp)]

/-- **What is derived is read.** -/
theorem reads_of_derives {level : Level} {cs rest : List Char} {e : Expr}
    (h : Derives level cs e rest) : ∀ {us}, scan? rest = some us →
      (∀ c ∈ rest.head?, ¬ Text.isAsciiDigit c) →
        ∃ ts, scan? cs = some ts ∧ Reads level ts e us := by
  induction h with
  | conjunction _ ih =>
    intro us hus hdigit
    obtain ⟨ts, hts, hread⟩ := ih hus hdigit
    refine ⟨ts, hts, fun hcmp hand => ?_⟩
    rw [disjuncts.whole_eq, hread hcmp, conjuncts.more_stop _ _ hand, Option.bind_some]
  | or _ hor _ iha ihb =>
    intro us hus hdigit
    obtain ⟨ts, hts, hread⟩ := ihb hus hdigit
    -- The loop still runs after `a`, so it goes on with the separator.
    obtain ⟨ts', hts', hread'⟩ := iha (hor.scan?_eq trivial hts) (hor.not_digit (by simp))
    refine ⟨ts', hts', fun hcmp hand => ?_⟩
    rw [hread' rfl (by simp), disjuncts.more_sep, hread hcmp, conjuncts.more_stop _ _ hand,
      Option.bind_some]
  | negation _ ih =>
    intro us hus hdigit
    obtain ⟨ts, hts, hread⟩ := ih hus hdigit
    refine ⟨ts, hts, fun hcmp => ?_⟩
    rw [conjuncts.whole_eq, hread hcmp, Option.bind_some]
  | and _ hand _ iha ihb =>
    intro us hus hdigit
    obtain ⟨ts, hts, hread⟩ := ihb hus hdigit
    obtain ⟨ts', hts', hread'⟩ := iha (hand.scan?_eq trivial hts) (hand.not_digit (by simp))
    refine ⟨ts', hts', fun hcmp => ?_⟩
    rw [hread' rfl, conjuncts.more_sep, hread hcmp, Option.bind_some]
  | not hnot _ ih =>
    intro us hus hdigit
    obtain ⟨ts, hts, hread⟩ := ih hus hdigit
    refine ⟨_, hnot.scan?_eq trivial hts, fun hcmp => ?_⟩
    rw [negation_not, hread hcmp, Option.map_some]
  | comparison _ ih =>
    intro us hus hdigit
    obtain ⟨ts, hts, hread⟩ := ih hus hdigit
    refine ⟨ts, hts, fun hcmp => ?_⟩
    rw [negation_stop (head?_of_comparison (hread hcmp)), hread hcmp]
  | operand _ ih =>
    intro us hus hdigit
    obtain ⟨ts, hts, hread⟩ := ih hus hdigit
    exact ⟨ts, hts, comparison_single hread⟩
  | compare _ hop hb iha ihb =>
    intro us hus hdigit
    obtain ⟨ts, hts, hread⟩ := ihb hus hdigit
    obtain ⟨ts', hts', hcmp'⟩ := hop.scan?_eq hb.not_equals hts
    obtain ⟨ts'', hts'', hread'⟩ := iha hts' hop.not_digit
    exact ⟨ts'', hts'', fun _ => comparison_pair hread' hcmp' hread⟩
  | paren hopen _ hclose ih =>
    intro us hus _
    obtain ⟨ts, hts, hread⟩ := ih (hclose.scan?_eq trivial hus) (hclose.not_digit (by simp))
    refine ⟨_, hopen.scan?_eq trivial hts, ?_⟩
    show (operand _).plain = _
    rw [operand_openParen, hread.closed (.inl rfl), Option.bind_some]
    rfl
  | list hopen _ hend ih =>
    intro us hus _
    obtain ⟨ts, hts, hlistEnd⟩ := hend.scan?_eq hus
    obtain ⟨ts', hts', hread⟩ := ih hts hend.not_digit
    refine ⟨_, hopen.scan?_eq trivial hts', ?_⟩
    show (operand _).plain = _
    rw [operand_openBracket, hread _ us rfl hlistEnd, Option.map_some]
  | @literal _ rest v h =>
    intro us hus hdigit
    -- Only here it matters that `rest` does not go on with a digit.
    have hmax : Maximal (.literal v) rest := by
      cases v <;> first | exact hdigit | trivial
    refine ⟨_, h.scan?_eq hmax hus, ?_⟩
    show (operand _).plain = _
    rw [operand]; rfl
  | text h =>
    intro us hus _
    refine ⟨_, h.scan?_eq trivial hus, ?_⟩
    show (operand _).plain = _
    rw [operand]; rfl
  | field h =>
    intro us hus _
    refine ⟨_, h.scan?_eq trivial hus, ?_⟩
    show (operand _).plain = _
    rw [operand]; rfl
  | none =>
    intro us hus _
    refine ⟨us, hus, fun es vs hes hend => ?_⟩
    cases hes
    rw [bracketed, hend]
  | one _ ih =>
    intro us hus hdigit
    obtain ⟨ts, hts, hread⟩ := ih hus hdigit
    refine ⟨ts, hts, fun es vs hes hend => ?_⟩
    cases hes
    rcases listEnd?_eq_some_iff.mp hend with rfl | rfl
    · exact bracketed_last (hread.closed (.inr (.inl rfl))) hend
    · exact bracketed_last (hread.closed (.inr (.inr rfl))) hend
  | more _ hcomma _ ih ihs =>
    intro us hus hdigit
    obtain ⟨ts, hts, hread⟩ := ihs hus hdigit
    obtain ⟨ts', hts', hread'⟩ := ih (hcomma.scan?_eq trivial hts) (hcomma.not_digit (by simp))
    refine ⟨ts', hts', fun es vs hes hend => ?_⟩
    cases hes
    exact bracketed_cons (hread'.closed (.inr (.inr rfl))) (hread _ vs rfl hend)

/-! ### Whole texts -/

theorem parse?_eq_some {cs : List Char} {e : Expr} : parse? cs = some e ↔
    ∃ ts, scan? cs = some ts ∧ (disjunction ts).plain = some (e, []) := by
  unfold parse?
  rw [Option.bind_eq_some_iff]
  refine exists_congr fun ts => and_congr_right fun _ => ?_
  unfold ofTokens?
  rcases disjunction ts with _ | ⟨e', _ | ⟨t, us⟩, h⟩ <;> simp

theorem spells_of_parse? {cs : List Char} {e : Expr} (h : parse? cs = some e) : Spells cs e := by
  obtain ⟨ts, hts, hread⟩ := parse?_eq_some.mp h
  obtain ⟨rest, hrest, hderives⟩ :=
    readsOnly_disjunction ts.length ts cs e [] (Nat.le_refl _) hts hread
  exact ⟨rest, hderives, gap_of_scan? hrest⟩

theorem parse?_of_spells {cs : List Char} {e : Expr} (h : Spells cs e) : parse? cs = some e := by
  obtain ⟨rest, hderives, hgap⟩ := h
  have hrest : scan? rest = some [] := by rw [scan?_of_gap hgap, Grammar.scan?_eq]; rfl
  obtain ⟨ts, hts, hread⟩ := reads_of_derives hderives hrest hgap.not_digit
  refine parse?_eq_some.mpr ⟨ts, hts, ?_⟩
  rw [hread rfl (by simp), disjuncts.more_stop _ _ (by simp)]

/-- **Conditions are read exactly by their grammar.** A text is read as a tree if and only if the
grammar derives it with this tree; so no text has two trees, and a text without one is refused. -/
theorem parse?_eq_some_iff_spells (cs : List Char) :
    (∀ e, parse? cs = some e ↔ Spells cs e) ∧
    (∀ e e', Spells cs e → Spells cs e' → e = e') ∧
    (parse? cs = none ↔ ¬ ∃ e, Spells cs e) := by
  have hiff : ∀ e, parse? cs = some e ↔ Spells cs e := fun e => ⟨spells_of_parse?, parse?_of_spells⟩
  refine ⟨hiff, fun e e' he he' => ?_, ?_⟩
  · exact Option.some.inj (((hiff e).mpr he).symm.trans ((hiff e').mpr he'))
  · rw [Option.eq_none_iff_forall_ne_some, not_exists]
    exact forall_congr' fun e => not_congr (hiff e)

end LayerStencil.Grammar
