/-! # Reasons of failure

`FailsOnly P x` says of a computation that an error it ends with, if any, satisfies `P`, and
`Fails x` that it ends with one. Statements of this form pass through a sequence of steps
(`FailsOnly.bind`, `Fails.bind`, `Fails.after`). A sequence of steps with a result is taken apart by
`exists_of_bind_eq_ok`, one with an error by `bind_eq_error_iff` and the lemmas after it, and a list
of results by `exists_of_mem_mapM`, `exists_mem_mapM`, `mapM_of_eq_ok` and `filterMap_of_mapM`. -/

namespace LayerStencil

variable {ε α β : Type} {P Q : ε → Prop}

/-- The computation gives a result, or an error that satisfies `P`. -/
def FailsOnly (P : ε → Prop) (x : Except ε α) : Prop := ∀ e, x = .error e → P e

theorem FailsOnly.ok (a : α) : FailsOnly P (.ok a) := by
  intro e h; cases h

theorem FailsOnly.error {e : ε} (h : P e) : FailsOnly P (.error e : Except ε α) := by
  rintro _ ⟨⟩; exact h

theorem FailsOnly.mono {x : Except ε α} (h : FailsOnly P x) (hPQ : ∀ e, P e → Q e) :
    FailsOnly Q x :=
  fun e he => hPQ e (h e he)

theorem FailsOnly.bind {x : Except ε α} {f : α → Except ε β} (hx : FailsOnly P x)
    (hf : ∀ a, x = .ok a → FailsOnly P (f a)) : FailsOnly P (x >>= f) := by
  cases x with
  | error e => exact FailsOnly.error (hx e rfl)
  | ok a => exact hf a rfl

/-- The computation gives no result. -/
def Fails (x : Except ε α) : Prop := ∃ e, x = .error e

theorem Fails.bind {x : Except ε α} {f : α → Except ε β} (h : Fails x) : Fails (x >>= f) := by
  obtain ⟨e, rfl⟩ := h
  exact ⟨e, rfl⟩

/-- A second step that fails whatever the first one gives. -/
theorem Fails.after (x : Except ε α) {f : α → Except ε β}
    (h : ∀ a, x = .ok a → Fails (f a)) : Fails (x >>= f) := by
  cases x with
  | error e => exact ⟨e, rfl⟩
  | ok a => exact h a rfl

theorem ok_bind (a : α) (f : α → Except ε β) : (Except.ok a >>= f) = f a := rfl

theorem exists_of_bind_eq_ok {x : Except ε α} {f : α → Except ε β} {b : β}
    (h : x >>= f = .ok b) : ∃ a, x = .ok a ∧ f a = .ok b := by
  cases x with
  | error e => cases h
  | ok a => exact ⟨a, rfl, h⟩

theorem bind_eq_error_iff {x : Except ε α} {f : α → Except ε β} {e : ε} :
    x >>= f = .error e ↔ x = .error e ∨ ∃ a, x = .ok a ∧ f a = .error e := by
  cases x with
  | error d =>
    show Except.error d = .error e ↔ _
    simp
  | ok a => simp [ok_bind]

/-- A second step that fails, if it does, whatever the first one gives. -/
theorem bind_eq_error_iff_of_forall {x : Except ε α} {f : α → Except ε β} {e : ε} {p : Prop}
    (hf : ∀ a, f a = .error e ↔ p) :
    x >>= f = .error e ↔ x = .error e ∨ (∃ a, x = .ok a) ∧ p := by
  simp only [bind_eq_error_iff, hf, exists_and_right]

/-- A second step that never fails. -/
theorem bind_eq_error_iff_of_total {x : Except ε α} {f : α → Except ε β} {e : ε}
    (hf : ∀ a, ∃ b, f a = .ok b) : x >>= f = .error e ↔ x = .error e := by
  have hnot (a : α) : f a = .error e ↔ False := by
    obtain ⟨b, hb⟩ := hf a
    simp [hb]
  rw [bind_eq_error_iff_of_forall hnot, and_false, or_false]

theorem exists_of_map_eq_ok {x : Except ε α} {f : α → β} {b : β} (h : x.map f = .ok b) :
    ∃ a, x = .ok a ∧ f a = b := by
  cases x with
  | error e => cases h
  | ok a => cases h; exact ⟨a, rfl, rfl⟩

variable {f : α → Except ε β}

/-- Every result belongs to an element. -/
theorem exists_of_mem_mapM : ∀ {l : List α} {bs : List β}, l.mapM f = .ok bs →
    ∀ b ∈ bs, ∃ a ∈ l, f a = .ok b
  | [], _, h => by cases h; exact nofun
  | a :: l, _, h => by
    rw [List.mapM_cons] at h
    obtain ⟨b, hb, h⟩ := exists_of_bind_eq_ok h
    obtain ⟨bs, hbs, h⟩ := exists_of_bind_eq_ok h
    cases h
    intro b' hb'
    rcases List.mem_cons.mp hb' with rfl | hb'
    · exact ⟨a, List.mem_cons_self, hb⟩
    · obtain ⟨a', ha', hf⟩ := exists_of_mem_mapM hbs b' hb'
      exact ⟨a', List.mem_cons_of_mem _ ha', hf⟩

/-- Every element has a result. -/
theorem exists_mem_mapM : ∀ {l : List α} {bs : List β}, l.mapM f = .ok bs →
    ∀ a ∈ l, ∃ b ∈ bs, f a = .ok b
  | [], _, h => by cases h; exact nofun
  | a :: l, _, h => by
    rw [List.mapM_cons] at h
    obtain ⟨b, hb, h⟩ := exists_of_bind_eq_ok h
    obtain ⟨bs, hbs, h⟩ := exists_of_bind_eq_ok h
    cases h
    intro a' ha'
    rcases List.mem_cons.mp ha' with rfl | ha'
    · exact ⟨b, List.mem_cons_self, hb⟩
    · obtain ⟨b', hb', hf⟩ := exists_mem_mapM hbs a' ha'
      exact ⟨b', List.mem_cons_of_mem _ hb', hf⟩

/-- Where `g` gives what `f` gives, it gives the same results for a list. -/
theorem mapM_of_eq_ok {g : α → Except ε β}
    (hfg : ∀ a b, f a = .ok b → g a = .ok b) : ∀ {l : List α} {bs : List β},
      l.mapM f = .ok bs → l.mapM g = .ok bs
  | [], _, h => h
  | a :: l, _, h => by
    rw [List.mapM_cons] at h ⊢
    obtain ⟨b, hb, h⟩ := exists_of_bind_eq_ok h
    obtain ⟨bs, hbs, h⟩ := exists_of_bind_eq_ok h
    rw [hfg a b hb, ok_bind, mapM_of_eq_ok hfg hbs, ok_bind]
    exact h

/-- In the results of a list, picking from some of them is picking from their elements. -/
theorem filterMap_of_mapM {γ : Type} {g : β → Option γ} {p : α → Bool} {k : α → γ} :
    ∀ {l : List α} {bs : List β}, l.mapM f = .ok bs →
      (∀ a ∈ l, ∀ b, f a = .ok b → g b = if p a then some (k a) else none) →
        bs.filterMap g = (l.filter p).map k
  | [], _, h, _ => by cases h; rfl
  | a :: l, _, h, hg => by
    rw [List.mapM_cons] at h
    obtain ⟨b, hb, h⟩ := exists_of_bind_eq_ok h
    obtain ⟨bs, hbs, h⟩ := exists_of_bind_eq_ok h
    cases h
    have ih := filterMap_of_mapM hbs fun a' ha' => hg a' (List.mem_cons_of_mem _ ha')
    rw [List.filterMap_cons, hg a List.mem_cons_self b hb, ih]
    by_cases ha : p a
    · rw [if_pos ha, List.filter_cons_of_pos ha]; rfl
    · rw [if_neg ha, List.filter_cons_of_neg ha]

end LayerStencil
