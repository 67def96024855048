import LayerStencil.Proofs.Pattern.Complete
import LayerStencil.Proofs.Pattern.Scan

/-! # The tokens of balanced texts

The tokens of a balanced text stay the same when it is followed by the bar of an alternative or the
closing parenthesis of a group around it: no token goes on into what follows, and a text that has no
tokens has none with more behind it either.

* `Unaffected`: a reader that finds the same whatever stands behind a text.
* `Balanced.unaffected_next?`: the first token of a balanced text.
* `Balanced.scan?_append`: the tokens of a balanced text with something behind it. -/

namespace LayerStencil.PatternText

open PatternToken

/-- What may stand behind a balanced text: nothing, another alternative or the end of a group. -/
def EndsName (rest : List Char) : Prop := ∀ c ∈ rest.head?, c = '|' ∨ c = ')'

theorem Balanced.tail {depth : Nat} {c : Char} {cs : List Char} (h : Balanced depth (c :: cs))
    (hc : c ∉ ['\\', '[', '(', ')']) : Balanced depth cs := by
  cases h with
  | plain _ h => exact h
  | _ => exact absurd hc (by decide)

theorem Balanced.dropWhile {depth : Nat} {p : Char → Bool}
    (hp : ∀ c, p c → c ∉ ['\\', '[', '(', ')']) {cs : List Char} (h : Balanced depth cs) :
    Balanced depth (cs.dropWhile p) := by
  induction cs with
  | nil => exact h
  | cons c cs ih =>
    rw [List.dropWhile_cons]
    split
    · rename_i hc
      exact ih (h.tail (hp c hc))
    · exact h

theorem EndsName.mem_head_append_iff {rest : List Char} (h : EndsName rest) {c : Char}
    (hc : c ∉ ['|', ')']) (cs : List Char) : c ∈ (cs ++ rest).head? ↔ c ∈ cs.head? := by
  cases cs with
  | nil =>
    refine iff_of_false (fun hmem => hc ?_) (by simp)
    simpa using h c hmem
  | cons d cs => exact Iff.rfl

/-! ### Readers that stop in time -/

/-- The reader finds the same at the start of `cs` whether or not `rest` stands behind it, and what
it finds and leaves is as `P` says. -/
inductive Unaffected {α : Type} (read : List Char → Option (α × List Char))
    (P : α → List Char → Prop) (cs rest : List Char) : Prop
  | fails (h : read cs = none) (happend : read (cs ++ rest) = none)
  | reads {a : α} {r : List Char} (h : read cs = some (a, r))
      (happend : read (cs ++ rest) = some (a, r ++ rest)) (hP : P a r)

section Unaffected
variable {α β : Type} {read : List Char → Option (α × List Char)}
  {read' : List Char → Option (β × List Char)} {P : α → List Char → Prop}
  {Q : β → List Char → Prop} {cs ds rest : List Char}

theorem Unaffected.of_eq {read' : List Char → Option (α × List Char)}
    (h : Unaffected read P cs rest) (hread : read' ds = read cs)
    (hread' : read' (ds ++ rest) = read (cs ++ rest)) : Unaffected read' P ds rest := by
  cases h with
  | fails h happend => exact .fails (hread.trans h) (hread'.trans happend)
  | reads h happend hP => exact .reads (hread.trans h) (hread'.trans happend) hP

/-- A reader that reads on from where another one stops is unaffected if both are. -/
theorem Unaffected.bind {next : α × List Char → Option (β × List Char)}
    (h : Unaffected read P cs rest) (hread : read' ds = (read cs).bind next)
    (hread' : read' (ds ++ rest) = (read (cs ++ rest)).bind next)
    (hnext : ∀ a r, P a r → Unaffected (fun r => next (a, r)) Q r rest) :
    Unaffected read' Q ds rest := by
  cases h with
  | fails h happend =>
    rw [h] at hread
    rw [happend] at hread'
    exact .fails hread hread'
  | @reads a r h happend hP =>
    rw [h] at hread
    rw [happend] at hread'
    exact (hnext a r hP).of_eq hread hread'

end Unaffected

/-- A run of characters ends where it does if what follows does not make it longer. -/
theorem run_append {p : Char → Bool} {cs more : List Char}
    (h : ∀ c ∈ (cs.dropWhile p ++ more).head?, p c = false) :
    (cs ++ more).takeWhile p = cs.takeWhile p ∧
      (cs ++ more).dropWhile p = cs.dropWhile p ++ more := by
  have hmem : ∀ c ∈ cs.takeWhile p, p c := fun _ => List.mem_takeWhile_imp
  have hhead : ∀ c ∈ (cs.dropWhile p ++ more).head?, ¬ p c := fun c hc => by simp [h c hc]
  have hsplit : cs ++ more = cs.takeWhile p ++ (cs.dropWhile p ++ more) := by
    rw [← List.append_assoc, List.takeWhile_append_dropWhile]
  rw [hsplit]
  exact ⟨Text.takeWhile_run hmem hhead, Text.dropWhile_run hmem hhead⟩

section Readers
variable {depth : Nat} {cs rest : List Char}

theorem skipLazy_append (hrest : EndsName rest) (cs : List Char) :
    skipLazy (cs ++ rest) = skipLazy cs ++ rest := by
  cases cs with
  | nil =>
    cases rest with
    | nil => rfl
    | cons c r =>
      rcases hrest c rfl with rfl | rfl <;> rfl
  | cons c cs =>
    rw [List.cons_append]
    unfold skipLazy
    split <;> split <;> simp_all

theorem Balanced.of_skipLazy (h : Balanced depth cs) : Balanced depth (skipLazy cs) := by
  unfold skipLazy
  split
  · exact h.tail (by decide)
  · exact h

theorem not_mem_of_isAsciiDigit (c : Char) (hc : Text.isAsciiDigit c) :
    c ∉ ['\\', '[', '(', ')'] := by
  simp only [List.mem_cons, List.not_mem_nil, or_false]
  rintro (rfl | rfl | rfl | rfl) <;> exact absurd hc (by decide)

theorem count?_eq (cs : List Char) : count? cs =
    if cs.takeWhile Text.isAsciiDigit ≠ [] ∧
        Text.numberOf (cs.takeWhile Text.isAsciiDigit) < 4294967296 then
      some (Text.numberOf (cs.takeWhile Text.isAsciiDigit), cs.dropWhile Text.isAsciiDigit)
    else none := by
  unfold count?
  cases cs.takeWhile Text.isAsciiDigit with
  | nil => rfl
  | cons d ds => simp

theorem Balanced.unaffected_count? (h : Balanced depth cs) (hrest : EndsName rest) :
    Unaffected count? (fun _ r => Balanced depth r) cs rest := by
  have hhead : ∀ c ∈ (cs.dropWhile Text.isAsciiDigit ++ rest).head?,
      Text.isAsciiDigit c = false := by
    intro c hc
    cases hd : cs.dropWhile Text.isAsciiDigit with
    | nil =>
      rw [hd, List.nil_append] at hc
      rcases hrest c hc with rfl | rfl <;> rfl
    | cons d r =>
      rw [hd, List.cons_append, List.head?_cons, Option.mem_some_iff] at hc
      exact hc ▸ Text.not_of_dropWhile_eq_cons hd
  obtain ⟨htake, hdrop⟩ := run_append hhead
  have heq := count?_eq cs
  have heq' := count?_eq (cs ++ rest)
  rw [htake, hdrop] at heq'
  split at heq
  · rename_i hn
    rw [if_pos hn] at heq'
    exact .reads heq heq' (h.dropWhile not_mem_of_isAsciiDigit)
  · rename_i hn
    rw [if_neg hn] at heq'
    exact .fails heq heq'

theorem bounds?_eq_none (h : ∀ x ∈ count? cs, '}' ∉ x.2.head? ∧ ',' ∉ x.2.head?) :
    bounds? cs = none := by
  unfold bounds?
  split <;> simp_all

/-- Behind the comma of a repetition with two bounds stand the second one and a brace. -/
theorem bounds?_of_comma {low : Nat} {r : List Char}
    (h : count? cs = some (low, ',' :: r)) (hr : '}' ∉ r.head?) :
    bounds? cs = (count? r).bind fun x =>
      if '}' ∈ x.2.head? ∧ low ≤ x.1 then some (repeated low (some x.1), x.2.tail) else none := by
  unfold bounds?
  rw [h]
  split
  · simp_all
  · simp_all
  · rename_i heq
    obtain ⟨rfl, -, rfl⟩ : low = _ ∧ ',' = ',' ∧ r = _ := by simpa using heq
    split
    · simp_all
    · rename_i hne
      cases hhigh : count? r with
      | none => rfl
      | some x =>
        refine (if_neg fun hx => ?_).symm
        obtain ⟨rest', hrest'⟩ := List.head?_eq_some_iff.mp hx.1
        exact hne x.1 rest' (by rw [hhigh, ← hrest'])
  · simp_all

theorem Balanced.unaffected_bounds? (h : Balanced depth cs) (hrest : EndsName rest) :
    Unaffected bounds? (fun t r => (∃ low high, t = repeated low high) ∧ Balanced depth r)
      cs rest := by
  have hhead := fun {c : Char} => hrest.mem_head_append_iff (c := c)
  cases h.unaffected_count? hrest with
  | fails hlow happend =>
    exact .fails (bounds?_eq_none (by simp [hlow])) (bounds?_eq_none (by simp [happend]))
  | @reads low r hlow happend hr =>
    by_cases hclose : '}' ∈ r.head?
    · obtain ⟨r, rfl⟩ := List.head?_eq_some_iff.mp hclose
      refine .reads (a := repeated low (some low)) ?_ ?_ ⟨⟨_, _, rfl⟩, hr.tail (by decide)⟩
      · rw [bounds?, hlow]; rfl
      · rw [bounds?, happend]; rfl
    by_cases hcomma : ',' ∈ r.head?
    · obtain ⟨r, rfl⟩ := List.head?_eq_some_iff.mp hcomma
      have hr := hr.tail (by decide)
      by_cases hclose : '}' ∈ r.head?
      · obtain ⟨r, rfl⟩ := List.head?_eq_some_iff.mp hclose
        refine .reads (a := repeated low none) ?_ ?_ ⟨⟨_, _, rfl⟩, hr.tail (by decide)⟩
        · rw [bounds?, hlow]; rfl
        · rw [bounds?, happend]; rfl
      have heq := bounds?_of_comma hlow hclose
      have heq' := bounds?_of_comma (r := r ++ rest) happend (mt (hhead (by decide) r).mp hclose)
      refine (hr.unaffected_count? hrest).bind heq heq' fun high r hr => ?_
      by_cases hb : '}' ∈ r.head? ∧ low ≤ high
      · obtain ⟨r, rfl⟩ := List.head?_eq_some_iff.mp hb.1
        exact .reads (if_pos hb) (if_pos ⟨rfl, hb.2⟩) ⟨⟨_, _, rfl⟩, hr.tail (by decide)⟩
      · exact .fails (if_neg hb) (if_neg fun hb' => hb ⟨(hhead (by decide) r).mp hb'.1, hb'.2⟩)
    · have hneither : '}' ∉ (r ++ rest).head? ∧ ',' ∉ (r ++ rest).head? :=
        ⟨mt (hhead (by decide) r).mp hclose, mt (hhead (by decide) r).mp hcomma⟩
      refine .fails (bounds?_eq_none ?_) (bounds?_eq_none ?_)
      · rw [hlow]
        rintro _ ⟨⟩
        exact ⟨hclose, hcomma⟩
      · rw [happend]
        rintro _ ⟨⟩
        exact hneither

/-! ### Classes -/

/-- A member of a class is written in the class. -/
theorem ClassTail.unaffected_classMember? (h : ClassTail cs rest) (hcs : ']' ∉ cs.head?)
    (hhyphens : ∀ r, cs ≠ '-' :: '-' :: r) (more : List Char) :
    Unaffected classMember? (fun _ r => ClassTail r rest) cs more := by
  cases h with
  | close => exact absurd rfl hcs
  | @escape c cs _ h =>
    cases hc : escaped? c with
    | none => exact .fails (by rw [classMember?, hc]; rfl) (by
        rw [List.cons_append, List.cons_append, classMember?, hc]; rfl)
    | some item => exact .reads (a := item) (by rw [classMember?, hc]; rfl) (by
        rw [List.cons_append, List.cons_append, classMember?, hc]; rfl) h
  | nested => exact .fails rfl rfl
  | hyphens => exact absurd rfl (hhyphens _)
  | @plain c cs _ hc _ h =>
    have hread : ∀ ds, classMember? (c :: ds) = some (.range c c, ds) := by
      intro ds
      unfold classMember?
      split <;> simp_all
    exact .reads (hread cs) (hread (cs ++ more)) h

/-- Behind a hyphen that no other one follows the class goes on. -/
theorem ClassTail.tail_of_hyphen (h : ClassTail ('-' :: cs) rest) (hcs : '-' ∉ cs.head?) :
    ClassTail cs rest := by
  cases h with
  | plain _ _ h => exact h
  | hyphens h => exact absurd rfl hcs

theorem ClassTail.eq_of_close (h : ClassTail (']' :: cs) rest) : cs = rest := by
  cases h with
  | close => rfl
  | plain hc => exact absurd hc (by decide)

/-- An operation on classes stands in the class with both of its characters. -/
theorem ClassTail.isClassOperation_append (h : ClassTail cs rest) (more : List Char) :
    isClassOperation (cs ++ more) = isClassOperation cs := by
  have hsecond : ∀ {c : Char} {cs : List Char}, (∃ d ds, cs = d :: ds) →
      isClassOperation (c :: cs ++ more) = isClassOperation (c :: cs) := by
    rintro c _ ⟨d, ds, rfl⟩
    rw [List.cons_append, List.cons_append]
    unfold isClassOperation
    split <;> split <;> simp_all
  cases h with
  | close => rfl
  | nested => rfl
  | escape => exact hsecond ⟨_, _, rfl⟩
  | hyphens => exact hsecond ⟨_, _, rfl⟩
  | plain _ _ h => exact hsecond (List.exists_cons_of_ne_nil h.ne_nil)

theorem classItem?_of_operation (h : isClassOperation cs = true) : classItem? cs = none :=
  if_pos h

section Item
variable (hcs : isClassOperation cs = false)
include hcs

theorem classItem?_of_none (h : classMember? cs = none) : classItem? cs = none := by
  rw [classItem?, if_neg (by simp [hcs]), h]

theorem classItem?_of_member {item : ClassItem} {r : List Char}
    (h : classMember? cs = some (item, r)) (hr : '-' ∈ r.head? → ']' ∈ r.tail.head?) :
    classItem? cs = some (item, r) := by
  rw [classItem?, if_neg (by simp [hcs]), h]
  by_cases hhyphen : '-' ∈ r.head?
  · obtain ⟨r, rfl⟩ := List.head?_eq_some_iff.mp hhyphen
    obtain ⟨r, rfl⟩ := List.head?_eq_some_iff.mp (hr hhyphen)
    rfl
  · split <;> simp_all

/-- Two hyphens behind a member are an operation. -/
theorem classItem?_of_hyphens {item : ClassItem} {r : List Char}
    (h : classMember? cs = some (item, '-' :: '-' :: r)) : classItem? cs = none := by
  rw [classItem?, if_neg (by simp [hcs]), h]
  rfl

/-- A hyphen between two members makes them a range. -/
theorem classItem?_of_hyphen {item : ClassItem} {r : List Char}
    (h : classMember? cs = some (item, '-' :: r)) (hclose : ']' ∉ r.head?)
    (hhyphen : '-' ∉ r.head?) : classItem? cs = (classMember? r).bind fun x =>
      (range? item x.1).map fun range => (range, x.2) := by
  rw [classItem?, if_neg (by simp [hcs]), h]
  split
  · simp_all
  · simp_all
  · simp_all
  · rename_i heq
    obtain ⟨rfl, -, rfl⟩ : item = _ ∧ '-' = '-' ∧ r = _ := by simpa using heq
    cases classMember? r <;> rfl
  · rename_i hne heq
    cases heq
    exact absurd rfl (hne r)

end Item

theorem ClassTail.unaffected_classItem? (h : ClassTail cs rest) (hcs : ']' ∉ cs.head?)
    (more : List Char) : Unaffected classItem? (fun _ r => ClassTail r rest) cs more := by
  have happend := h.isClassOperation_append more
  cases hop : isClassOperation cs with
  | true =>
    exact .fails (classItem?_of_operation hop) (classItem?_of_operation (happend.trans hop))
  | false =>
    have hop' := happend.trans hop
    have hhyphens : ∀ r, cs ≠ '-' :: '-' :: r := by
      rintro r rfl
      cases hop
    -- What follows the first member is still in the class, so a hyphen there is seen in both texts.
    cases h.unaffected_classMember? hcs hhyphens more with
    | fails hm hm' => exact .fails (classItem?_of_none hop hm) (classItem?_of_none hop' hm')
    | @reads item r hm hm' hr =>
      by_cases hhyphen : '-' ∈ r.head?
      · obtain ⟨r, rfl⟩ := List.head?_eq_some_iff.mp hhyphen
        by_cases hsecond : '-' ∈ r.head?
        · obtain ⟨r, rfl⟩ := List.head?_eq_some_iff.mp hsecond
          exact .fails (classItem?_of_hyphens hop hm) (classItem?_of_hyphens hop' hm')
        have hr' := hr.tail_of_hyphen hsecond
        have hhead := fun {c : Char} => hr'.mem_head_append_iff more (c := c)
        by_cases hclose : ']' ∈ r.head?
        · exact .reads (classItem?_of_member hop hm fun _ => hclose)
            (classItem?_of_member hop' hm' fun _ => hhead.mpr hclose) hr
        have heq := classItem?_of_hyphen hop hm hclose hsecond
        have heq' := classItem?_of_hyphen (r := r ++ more) hop' hm' (mt hhead.mp hclose)
          (mt hhead.mp hsecond)
        have hhyphens' : ∀ r', r ≠ '-' :: '-' :: r' := by
          rintro r' rfl
          exact hsecond rfl
        have hmember := hr'.unaffected_classMember? hclose hhyphens' more
        refine hmember.bind heq heq' fun item' r' hr' => ?_
        cases hrange : range? item item' with
        | none => exact .fails (by rw [hrange]; rfl) (by rw [hrange]; rfl)
        | some range => exact .reads (by rw [hrange]; rfl) (by rw [hrange]; rfl) hr'
      · refine .reads (classItem?_of_member hop hm fun h => absurd h hhyphen)
          (classItem?_of_member hop' hm' fun h => absurd ?_ hhyphen) hr
        exact (hr.mem_head_append_iff more).mp h

theorem classItems?_succ (n : Nat) (hcs : ']' ∉ cs.head?) :
    classItems? (n + 1) cs = (classItem? cs).bind fun x =>
      (classItems? n x.2).map fun y => (x.1 :: y.1, y.2) := by
  rw [classItems?]
  · cases classItem? cs <;> rfl
  · rintro r rfl
    exact hcs rfl

/-- The parts of a class are the same whatever stands behind it, if enough of them are allowed. -/
theorem ClassTail.unaffected_classItems? (h : ClassTail cs rest) {n m : Nat} (more : List Char)
    (hn : cs.length < n) (hm : (cs ++ more).length < m) :
    (classItems? n cs = none ∧ classItems? m (cs ++ more) = none) ∨
      ∃ items, classItems? n cs = some (items, rest) ∧
        classItems? m (cs ++ more) = some (items, rest ++ more) := by
  induction n generalizing m cs with
  | zero => exact absurd hn (Nat.not_lt_zero _)
  | succ n ih =>
    obtain ⟨m, rfl⟩ : ∃ k, m = k + 1 := ⟨m - 1, by omega⟩
    by_cases hclose : ']' ∈ cs.head?
    · obtain ⟨r, rfl⟩ := List.head?_eq_some_iff.mp hclose
      obtain rfl := h.eq_of_close
      exact .inr ⟨[], rfl, rfl⟩
    rw [classItems?_succ n hclose, classItems?_succ m (mt (h.mem_head_append_iff more).mp hclose)]
    cases h.unaffected_classItem? hclose more with
    | fails hitem happend => exact .inl ⟨by rw [hitem]; rfl, by rw [happend]; rfl⟩
    | @reads item r hitem happend hr =>
      have hlt := classItem?_length hitem
      have hlt' := classItem?_length happend
      rw [hitem, happend, Option.bind_some, Option.bind_some]
      rcases ih hr (m := m) (by omega) (by omega) with ⟨hnone, hnone'⟩ | ⟨items, hsome, hsome'⟩
      · exact .inl ⟨by rw [hnone]; rfl, by rw [hnone']; rfl⟩
      · exact .inr ⟨item :: items, by rw [hsome]; rfl, by rw [hsome']; rfl⟩

theorem ClassTail.dropHyphens (h : ClassTail cs rest) :
    ClassTail (cs.dropWhile fun c => decide (c = '-')) rest := by
  induction h with
  | close rest => exact .close rest
  | escape c h => exact .escape c h
  | nested h hr => exact .nested h hr
  | hyphens _ ih => exact ih
  | @plain c cs _ hc hcs h ih =>
    rw [List.dropWhile_cons]
    split
    · exact ih
    · exact .plain hc hcs h

theorem classStart_of_not_close (hcs : ']' ∉ cs.head?) : classStart cs =
    ((cs.takeWhile (· = '-')).map fun c => .range c c, cs.dropWhile (· = '-')) := by
  unfold classStart
  split
  · rename_i htake hdrop
    have hsplit := List.takeWhile_append_dropWhile (p := fun c => decide (c = '-')) (l := cs)
    rw [htake, hdrop] at hsplit
    exact absurd (hsplit ▸ rfl) hcs
  · rfl

theorem ClassTail.classStart_append (h : ClassTail (pastBracket cs) rest) (more : List Char) :
    ClassTail (classStart cs).2 rest ∧
      classStart (cs ++ more) = ((classStart cs).1, (classStart cs).2 ++ more) := by
  by_cases hclose : ']' ∈ cs.head?
  · obtain ⟨r, rfl⟩ := List.head?_eq_some_iff.mp hclose
    exact ⟨h, rfl⟩
  have hpast : pastBracket cs = cs := by
    unfold pastBracket
    split
    · exact absurd rfl hclose
    · rfl
  rw [hpast] at h
  have hdrop := h.dropHyphens
  have hhead : ∀ c ∈ (cs.dropWhile (fun c => decide (c = '-')) ++ more).head?,
      decide (c = '-') = false := by
    intro c hc
    rw [hdrop.mem_head_append_iff more] at hc
    obtain ⟨r, hr⟩ := List.head?_eq_some_iff.mp hc
    exact Text.not_of_dropWhile_eq_cons hr
  obtain ⟨htake, hdrop'⟩ := run_append hhead
  rw [classStart_of_not_close hclose,
    classStart_of_not_close (mt (h.mem_head_append_iff more).mp hclose), htake, hdrop']
  exact ⟨hdrop, rfl⟩

/-- The class whose parts begin here, behind the sign of a negated class. -/
def classFrom? (isNegated : Bool) (cs : List Char) : Option (PatternToken × List Char) :=
  (classItems? ((classStart cs).2.length + 1) (classStart cs).2).map fun x =>
    let items := (classStart cs).1 ++ x.1
    (char ⟨isNegated, items⟩ (if items.length ≤ 1 then 1 else 2), x.2)

theorem class?_of_not_negated (h : '^' ∉ cs.head?) : class? cs = classFrom? false cs := by
  unfold class?
  split
  rename_i heq
  split at heq
  · exact absurd rfl h
  · cases heq
    rfl

theorem ClassTail.unaffected_classFrom? (h : ClassTail (pastBracket cs) rest) (isNegated : Bool)
    (more : List Char) :
    Unaffected (classFrom? isNegated) (fun t r => (∃ s n, t = char s n) ∧ r = rest) cs more := by
  obtain ⟨htail, hstart⟩ := h.classStart_append more
  have hitems := htail.unaffected_classItems? more (Nat.lt_succ_self _) (Nat.lt_succ_self _)
  rcases hitems with ⟨hnone, hnone'⟩ | ⟨items, hsome, hsome'⟩
  · refine .fails ?_ ?_
    · rw [classFrom?, hnone]; rfl
    · rw [classFrom?, hstart, hnone']; rfl
  · let items := (classStart cs).1 ++ items
    refine .reads (a := char ⟨isNegated, items⟩ (if items.length ≤ 1 then 1 else 2)) ?_ ?_
      ⟨⟨_, _, rfl⟩, rfl⟩
    · rw [classFrom?, hsome]; rfl
    · rw [classFrom?, hstart, hsome']; rfl

theorem ClassTail.unaffected_class? (h : ClassTail (pastStart cs) rest) (more : List Char) :
    Unaffected class? (fun t r => (∃ s n, t = char s n) ∧ r = rest) cs more := by
  -- The sign of a negated class stands in the text itself, so it is there with or without the rest.
  by_cases hneg : '^' ∈ cs.head?
  · obtain ⟨r, rfl⟩ := List.head?_eq_some_iff.mp hneg
    have hfrom : ClassTail (pastBracket r) rest := h
    exact (hfrom.unaffected_classFrom? true more).of_eq rfl rfl
  · cases cs with
    | nil => exact absurd rfl h.ne_nil
    | cons c cs =>
      have hpast : pastStart (c :: cs) = pastBracket (c :: cs) := by
        unfold pastStart
        split
        · rename_i heq
          cases heq
          exact absurd rfl hneg
        · rfl
      rw [hpast] at h
      have hneg' : '^' ∉ (c :: cs ++ more).head? := hneg
      exact (h.unaffected_classFrom? false more).of_eq (class?_of_not_negated hneg)
        (class?_of_not_negated hneg')

/-! ### Tokens -/

/-- The number of open groups after a token, if there is a group for it to close. -/
def depthAfter? (depth : Nat) : PatternToken → Option Nat
  | openGroup => some (depth + 1)
  | closeGroup => match depth with
    | 0 => none
    | depth + 1 => some depth
  | _ => some depth

/-- A character that opens and closes nothing is a token by itself or with a question mark behind
it, or it is the brace of a repetition. -/
theorem next?_plain {c : Char} (hc : c ∉ ['\\', '[', '(', ')']) :
    (∃ t, (∀ n, depthAfter? n t = some n) ∧ ((∀ ds, next? (c :: ds) = some (t, ds)) ∨
      ∀ ds, next? (c :: ds) = some (t, skipLazy ds))) ∨ c = '{' := by
  by_cases hspecial : c ∈ ['|', '^', '$', '.', '*', '+', '?', '{']
  · simp only [List.mem_cons, List.not_mem_nil, or_false] at hspecial
    rcases hspecial with rfl | rfl | rfl | rfl | rfl | rfl | rfl | rfl
    · exact .inl ⟨bar, fun _ => rfl, .inl fun _ => rfl⟩
    · exact .inl ⟨start, fun _ => rfl, .inl fun _ => rfl⟩
    · exact .inl ⟨stop, fun _ => rfl, .inl fun _ => rfl⟩
    · exact .inl ⟨char _ 0, fun _ => rfl, .inl fun _ => rfl⟩
    · exact .inl ⟨repeated 0 none, fun _ => rfl, .inr fun _ => rfl⟩
    · exact .inl ⟨repeated 1 none, fun _ => rfl, .inr fun _ => rfl⟩
    · exact .inl ⟨repeated 0 (some 1), fun _ => rfl, .inr fun _ => rfl⟩
    · exact .inr rfl
  · refine .inl ⟨char (literal c) 0, fun _ => rfl, .inl fun ds => ?_⟩
    unfold next?
    split <;> simp_all

theorem next?_opens (hcs : '?' ∉ cs.head?) : next? ('(' :: cs) = some (openGroup, cs) := by
  cases cs with
  | nil => rfl
  | cons c cs =>
    have hc : c ≠ '?' := fun hc => hcs (by simp [hc])
    rw [next?] <;> simp [hc]

theorem next?_flagged {c : Char} (hc : c ∈ flagSigns) (cs : List Char) :
    next? ('(' :: '?' :: c :: cs) = none := by
  simp only [flagSigns, List.mem_cons, List.not_mem_nil, or_false] at hc
  rcases hc with rfl | rfl | rfl | rfl | rfl | rfl | rfl <;> rfl

/-- The first token of a balanced text is the same whatever stands behind the text. -/
theorem Balanced.unaffected_next? (h : Balanced depth cs) (hcs : cs ≠ []) (hrest : EndsName rest) :
    Unaffected next? (fun t r => ∃ depth', depthAfter? depth t = some depth' ∧ Balanced depth' r)
      cs rest := by
  cases h with
  | nil => exact absurd rfl hcs
  | @escape _ c cs h =>
    cases hc : escaped? c with
    | none => exact .fails (by rw [next?, hc]; rfl) (by
        rw [List.cons_append, List.cons_append, next?, hc]; rfl)
    | some item =>
      exact .reads (a := char ⟨false, [item]⟩ 0) (by rw [next?, hc]; rfl) (by
        rw [List.cons_append, List.cons_append, next?, hc]; rfl) ⟨_, rfl, h⟩
  | @bracket _ cs r h hr =>
    cases h.unaffected_class? rest with
    | fails hnone hnone' => exact .fails hnone hnone'
    | reads hsome hsome' hP =>
      obtain ⟨⟨s, n, rfl⟩, rfl⟩ := hP
      exact .reads hsome hsome' ⟨_, rfl, hr⟩
  | @opens _ cs hhead h =>
    cases cs with
    | nil => cases h
    | cons c cs =>
      have hhead' : '?' ∉ (c :: cs ++ rest).head? := hhead
      exact .reads (next?_opens hhead) (next?_opens hhead') ⟨_, rfl, h⟩
  | @opensFlagged _ flags cs hflags h =>
    cases flags with
    | nil => exact .reads rfl rfl ⟨_, rfl, h⟩
    | cons c flags =>
      have hnone := next?_flagged (hflags c (List.mem_cons_self ..))
      exact .fails (hnone _) (hnone _)
  | @opensNamed _ mark name cs hmark _ h =>
    simp only [nameMarks, List.mem_cons, List.not_mem_nil, or_false] at hmark
    rcases hmark with rfl | rfl <;> exact .fails rfl rfl
  | closes h => exact .reads rfl rfl ⟨_, rfl, h⟩
  | @plain _ c cs hc h =>
    rcases next?_plain hc with ⟨t, ht, hread | hread⟩ | rfl
    · exact .reads (hread cs) (hread (cs ++ rest)) ⟨_, ht _, h⟩
    · refine .reads (hread cs) ?_ ⟨_, ht _, h.of_skipLazy⟩
      rw [List.cons_append, hread, skipLazy_append hrest]
    · have hread : ∀ ds, next? ('{' :: ds) = (bounds? ds).bind fun x =>
          some (x.1, skipLazy x.2) := by
        intro ds
        rw [next?]
        exact Option.map_eq_bind
      refine (h.unaffected_bounds? hrest).bind (hread cs) (hread (cs ++ rest)) fun t r hP => ?_
      obtain ⟨⟨low, high, rfl⟩, hr⟩ := hP
      exact .reads rfl (by rw [skipLazy_append hrest]) ⟨_, rfl, hr.of_skipLazy⟩

/-- All groups that the tokens close are opened by them, but for `depth` groups, and they close
these and all that they open. -/
def Closes : (depth : Nat) → List PatternToken → Prop
  | depth, [] => depth = 0
  | depth, t :: ts => ∃ depth', depthAfter? depth t = some depth' ∧ Closes depth' ts

/-- The tokens of a balanced text with something behind it are its own and the tokens of that, if it
has any itself. -/
theorem Balanced.scan?_append (h : Balanced depth cs) (hrest : EndsName rest) :
    (scan? cs = none ∧ scan? (cs ++ rest) = none) ∨ ∃ ts, scan? cs = some ts ∧ Closes depth ts ∧
      scan? (cs ++ rest) = (scan? rest).map (ts ++ ·) := by
  -- A token leaves a shorter text that is balanced at the depth after the token.
  induction hn : cs.length using Nat.strong_induction_on generalizing cs depth with
  | _ n ih =>
    cases cs with
    | nil =>
      cases h
      exact .inr ⟨[], rfl, rfl, by simp⟩
    | cons c cs =>
      have hcons' : scan? (c :: cs ++ rest) = _ := scan?_cons c (cs ++ rest)
      cases h.unaffected_next? (List.cons_ne_nil c cs) hrest with
      | fails hnone hnone' =>
        rw [List.cons_append] at hnone'
        exact .inl ⟨by rw [scan?_cons, hnone]; rfl, by rw [hcons', hnone']; rfl⟩
      | @reads t r hsome hsome' hP =>
        obtain ⟨depth', hdepth, hr⟩ := hP
        rw [List.cons_append] at hsome'
        rw [hcons', scan?_cons, hsome, hsome', Option.bind_some, Option.bind_some]
        rcases ih r.length (hn ▸ next?_length hsome) hr rfl with
          ⟨hnone, hnone'⟩ | ⟨ts, hts, hcloses, hts'⟩
        · exact .inl ⟨by rw [hnone]; rfl, by rw [hnone']; rfl⟩
        · refine .inr ⟨t :: ts, by rw [hts]; rfl, ⟨depth', hdepth, hcloses⟩, ?_⟩
          rw [hts', Option.map_map]
          rfl

end Readers

end LayerStencil.PatternText
