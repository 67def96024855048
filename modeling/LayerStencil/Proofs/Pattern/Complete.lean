import Mathlib.Tactic.Common

/-! # Written patterns that end where they stop

A written pattern is *balanced* if it closes every class and every group it opens and no others, and
ends with no backslash alone. It is *complete in itself* if besides no question mark at its start
goes with a parenthesis before it. Such a pattern can be put between bars or into a group without
anything in it being read in another way. The names of groups are another matter: no two groups of
a pattern have the same one.

* `ClassTail`, `Balanced`, `Complete`: the texts.
* `Apart`: texts that have no name of a group in common.
* `Balanced.bar`: two balanced texts with a bar between them are a balanced text.
* `IsAtom`: anchors and groups, which may follow each other as they are. -/

namespace LayerStencil.PatternText

/-! ### Balanced texts -/

/-- A class without the bracket at its very start, which is a member there. -/
def pastBracket : List Char → List Char
  | ']' :: r => r
  | r => r

/-- What follows the opening bracket of a class, without the sign of a negated class and without a
bracket at the start. From there on a bracket closes the class. -/
def pastStart : List Char → List Char
  | '^' :: r => pastBracket r
  | r => pastBracket r

/-- Inside a class the text goes on to its closing bracket, past classes inside it, and to a rest
behind that. No bracket opens a class right behind a single hyphen, where it may as well be the end
of a range. -/
inductive ClassTail : List Char → List Char → Prop
  | close (rest : List Char) : ClassTail (']' :: rest) rest
  | escape (c : Char) {cs rest : List Char} (h : ClassTail cs rest) :
      ClassTail ('\\' :: c :: cs) rest
  | nested {cs r rest : List Char} (h : ClassTail (pastStart cs) r) (hr : ClassTail r rest) :
      ClassTail ('[' :: cs) rest
  | hyphens {cs rest : List Char} (h : ClassTail cs rest) : ClassTail ('-' :: '-' :: cs) rest
  | plain {c : Char} {cs rest : List Char} (hc : c ∉ ['\\', '[', ']'])
      (hcs : c = '-' → '[' ∉ cs.head?) (h : ClassTail cs rest) : ClassTail (c :: cs) rest

/-- What stands between `(?` and the colon of a group with flags. The flag `x` is not among them: in
its group a text is read in another way. -/
def flagSigns : List Char := ['i', 'm', 's', 'R', 'U', 'u', '-']

/-- What stands between `(?` and the name of a group. -/
def nameMarks : List (List Char) := [['<'], ['P', '<']]

/-- The text closes `depth` groups besides those it opens itself, and all classes it opens. A group
may have flags or a name. Flags come with a group of their own, beyond which they do not reach. -/
inductive Balanced : (depth : Nat) → List Char → Prop
  | nil : Balanced 0 []
  | escape {depth : Nat} (c : Char) {cs : List Char} (h : Balanced depth cs) :
      Balanced depth ('\\' :: c :: cs)
  | bracket {depth : Nat} {cs rest : List Char} (h : ClassTail (pastStart cs) rest)
      (hrest : Balanced depth rest) : Balanced depth ('[' :: cs)
  | opens {depth : Nat} {cs : List Char} (hcs : '?' ∉ cs.head?) (h : Balanced (depth + 1) cs) :
      Balanced depth ('(' :: cs)
  | opensFlagged {depth : Nat} {flags cs : List Char} (hflags : ∀ c ∈ flags, c ∈ flagSigns)
      (h : Balanced (depth + 1) cs) : Balanced depth ('(' :: '?' :: (flags ++ ':' :: cs))
  | opensNamed {depth : Nat} {mark name cs : List Char} (hmark : mark ∈ nameMarks)
      (hname : '>' ∉ name) (h : Balanced (depth + 1) cs) :
      Balanced depth ('(' :: '?' :: (mark ++ (name ++ '>' :: cs)))
  | closes {depth : Nat} {cs : List Char} (h : Balanced depth cs) :
      Balanced (depth + 1) (')' :: cs)
  | plain {depth : Nat} {c : Char} {cs : List Char} (hc : c ∉ ['\\', '[', '(', ')'])
      (h : Balanced depth cs) : Balanced depth (c :: cs)

/-- The text closes all that it opens, and no question mark at its start goes with what is written
before it. -/
structure Complete (cs : List Char) : Prop where
  balanced : Balanced 0 cs
  start : '?' ∉ cs.head?

/-- The text names a group. No bar is part of a name. -/
def NamesGroup (cs name : List Char) : Prop :=
  '|' ∉ name ∧ ∃ mark ∈ nameMarks, '(' :: '?' :: (mark ++ (name ++ ['>'])) <:+: cs

/-- No group has the same name in both texts. -/
def Apart (cs ds : List Char) : Prop := ∀ name, NamesGroup cs name → ¬ NamesGroup ds name

/-- An anchor or a group. -/
inductive IsAtom : List Char → Prop
  | start : IsAtom ['^']
  | stop : IsAtom ['$']
  | group {cs : List Char} (h : Complete cs) : IsAtom ('(' :: (cs ++ [')']))

/-! ### Joined texts -/

section Joined
variable {cs ds rest : List Char} {depth : Nat}

theorem ClassTail.ne_nil (h : ClassTail cs rest) : cs ≠ [] := by
  cases h <;> exact List.cons_ne_nil _ _

theorem ClassTail.mem_head_append_iff (h : ClassTail cs rest) (more : List Char) {c : Char} :
    c ∈ (cs ++ more).head? ↔ c ∈ cs.head? := by
  obtain ⟨d, ds, rfl⟩ := List.exists_cons_of_ne_nil h.ne_nil
  exact Iff.rfl

theorem pastBracket_append (h : cs ≠ []) (more : List Char) :
    pastBracket (cs ++ more) = pastBracket cs ++ more := by
  obtain ⟨c, cs, rfl⟩ := List.exists_cons_of_ne_nil h
  rw [List.cons_append]
  unfold pastBracket
  split <;> split <;> simp_all

/-- What is put behind a class is behind it from its start on. -/
theorem pastStart_append (h : ClassTail (pastStart cs) rest) (more : List Char) :
    pastStart (cs ++ more) = pastStart cs ++ more := by
  cases cs with
  | nil => exact absurd rfl h.ne_nil
  | cons c cs =>
    by_cases hc : c = '^'
    · subst hc
      refine pastBracket_append (fun hnil => ?_) more
      subst hnil
      exact absurd rfl h.ne_nil
    · have hpast : ∀ r, pastStart (c :: r) = pastBracket (c :: r) := fun r => by
        rw [pastStart]
        simp [hc]
      rw [List.cons_append, hpast, hpast, ← List.cons_append]
      exact pastBracket_append (List.cons_ne_nil c cs) more

theorem ClassTail.append (h : ClassTail cs rest) (more : List Char) :
    ClassTail (cs ++ more) (rest ++ more) := by
  induction h with
  | close rest => exact .close _
  | escape c _ ih => exact .escape c ih
  | nested h _ ih ihr => exact .nested (pastStart_append h more ▸ ih) ihr
  | hyphens _ ih => exact .hyphens ih
  | plain hc hcs h ih =>
    exact .plain hc (fun hhyphen => mt (h.mem_head_append_iff more).mp (hcs hhyphen)) ih

/-- Two balanced texts with a bar between them are one balanced text. -/
theorem Balanced.bar (hcs : Balanced depth cs) (hds : Balanced 0 ds) :
    Balanced depth (cs ++ '|' :: ds) := by
  induction hcs with
  | nil => exact .plain (by decide) hds
  | escape c _ ih => exact .escape c ih
  | bracket h _ ih => exact .bracket (pastStart_append h _ ▸ h.append _) ih
  | @opens _ cs hhead h ih =>
    refine .opens ?_ ih
    cases cs with
    | nil => simp
    | cons c cs => exact hhead
  | @opensFlagged _ flags cs hflags _ ih =>
    rw [List.cons_append, List.cons_append, List.append_assoc]
    exact .opensFlagged hflags ih
  | @opensNamed _ mark name cs hmark hname _ ih =>
    rw [List.cons_append, List.cons_append, List.append_assoc, List.append_assoc]
    exact .opensNamed hmark hname ih
  | closes _ ih => exact .closes ih
  | plain hc _ ih => exact .plain hc ih

/-- The bar behind a text is no question mark at its start. -/
theorem Complete.bar (hcs : Complete cs) (hds : Balanced 0 ds) : Complete (cs ++ '|' :: ds) := by
  refine ⟨hcs.balanced.bar hds, ?_⟩
  cases cs with
  | nil => simp
  | cons c cs => exact hcs.start

/-! ### Names of groups -/

theorem Apart.symm (h : Apart cs ds) : Apart ds cs := fun name hds hcs => h name hcs hds

/-- A part of two texts with a bar between them that has no bar itself is a part of one of them. -/
theorem infix_bar {w : List Char} (hw : '|' ∉ w) (h : w <:+: cs ++ '|' :: ds) :
    w <:+: cs ∨ w <:+: ds := by
  have hbar : ∀ {v : List Char}, '|' ∉ v → v <+: '|' :: ds → v = [] := by
    intro v hv hprefix
    rcases List.prefix_cons_iff.mp hprefix with rfl | ⟨t, rfl, -⟩
    · rfl
    · exact absurd (List.mem_cons_self ..) hv
  rcases List.infix_append_iff.mp h with h | h | ⟨v, v', rfl, hv, hv'⟩
  · exact .inl h
  · rcases List.infix_cons_iff.mp h with h | h
    · rw [hbar hw h]
      exact .inl List.nil_infix
    · exact .inr h
  · rw [hbar (fun hmem => hw (List.mem_append_right v hmem)) hv', List.append_nil]
    exact .inl hv.isInfix

/-- A group that two texts with a bar between them name is named by one of them. -/
theorem NamesGroup.of_bar {name : List Char} (h : NamesGroup (cs ++ '|' :: ds) name) :
    NamesGroup cs name ∨ NamesGroup ds name := by
  obtain ⟨hname, mark, hmark, hpart⟩ := h
  have hw : '|' ∉ '(' :: '?' :: (mark ++ (name ++ ['>'])) := by
    simp only [nameMarks, List.mem_cons, List.not_mem_nil, or_false] at hmark
    rcases hmark with rfl | rfl <;> simp [hname]
  rcases infix_bar hw hpart with hpart | hpart
  · exact .inl ⟨hname, mark, hmark, hpart⟩
  · exact .inr ⟨hname, mark, hmark, hpart⟩

theorem Apart.bar (hcs : Apart cs rest) (hds : Apart ds rest) : Apart (cs ++ '|' :: ds) rest :=
  fun name h => h.of_bar.elim (hcs name) (hds name)

/-- A text without a question mark names no group. -/
theorem Apart.of_not_mem (h : '?' ∉ cs) : Apart cs ds := by
  rintro name ⟨-, mark, -, hpart⟩
  exact absurd (hpart.subset (.tail _ (List.mem_cons_self ..))) h

end Joined

theorem Balanced.of_plain : ∀ {cs : List Char}, (∀ c ∈ cs, c ∉ ['\\', '[', '(', ')']) →
    Balanced 0 cs
  | [], _ => .nil
  | c :: _, h => .plain (h c (List.mem_cons_self ..)) (of_plain fun d hd => h d (.tail _ hd))

/-- A text in which nothing opens or closes is complete in itself. -/
theorem Complete.of_plain {cs : List Char}
    (h : ∀ c ∈ cs, c ∉ ['\\', '[', '(', ')', '?']) : Complete cs := by
  refine ⟨.of_plain fun c hc => mt (List.mem_append_left ['?']) (h c hc), fun hhead => ?_⟩
  exact h '?' (List.mem_of_mem_head? hhead) (by decide)

end LayerStencil.PatternText
