import LayerStencil.Proofs.Template.Scoping

/-! # Texts that can be filled

A text whose braces are doubled or enclose names in scope has a value for each of its places, and so
have the texts that are put together of such texts or are left of one when white space is taken off
its ends.

* `Fillable names cs`: the text is of this form, with fields among the names.
* `Fillable.append`, `Fillable.of_plain_append`: the form is kept.
* `Fillable.usesOnly`: it has segments, and their fields are among the names.
* `fillable_of_check`: a check, character by character, that a text is of this form. -/

namespace LayerStencil.Segment

/-- Every brace of the text is doubled or encloses one of the names. -/
inductive Fillable (names : List String) : List Char → Prop
  | nil : Fillable names []
  | plain {c : Char} {cs : List Char} (hc : isPlain c) (h : Fillable names cs) :
      Fillable names (c :: cs)
  | brace {c : Char} {cs : List Char} (hc : ¬ isPlain c) (h : Fillable names cs) :
      Fillable names (c :: c :: cs)
  | field {name cs : List Char} (hname : (field (String.ofList name)).IsWritable)
      (hmem : String.ofList name ∈ names) (h : Fillable names cs) :
      Fillable names ('{' :: (name ++ '}' :: cs))

theorem isPlain_of {p : Char → Bool} (hopen : ¬ p '{') (hclose : ¬ p '}') {c : Char} (hc : p c) :
    isPlain c := by
  have hne : c ≠ '{' := by rintro rfl; exact hopen hc
  have hne' : c ≠ '}' := by rintro rfl; exact hclose hc
  simp [isPlain, hne, hne']

section Fillable
variable {names : List String} {cs ds : List Char}

theorem Fillable.append (h : Fillable names cs) (hds : Fillable names ds) :
    Fillable names (cs ++ ds) := by
  induction h with
  | nil => exact hds
  | plain hc _ ih => exact .plain hc ih
  | brace hc _ ih => exact .brace hc ih
  | field hname hmem _ ih =>
    rw [List.cons_append, List.append_assoc, List.cons_append]
    exact .field hname hmem ih

theorem Fillable.of_plain : ∀ {cs : List Char}, (∀ c ∈ cs, isPlain c) → Fillable names cs
  | [], _ => .nil
  | c :: _, h =>
    .plain (h c List.mem_cons_self) (Fillable.of_plain fun d hd => h d (List.mem_cons_of_mem c hd))

theorem Fillable.tail {c : Char} (h : Fillable names (c :: cs)) (hc : isPlain c) :
    Fillable names cs := by
  cases h with
  | plain _ h => exact h
  | brace hc' _ => exact absurd hc hc'
  | field _ _ _ => exact absurd hc (by decide)

/-- Plain characters in front of the text can be taken off. -/
theorem Fillable.of_plain_append : ∀ {b : List Char}, (∀ c ∈ b, isPlain c) →
    Fillable names (b ++ cs) → Fillable names cs
  | [], _, h => h
  | c :: _, hb, h =>
    Fillable.of_plain_append (fun d hd => hb d (List.mem_cons_of_mem c hd))
      (h.tail (hb c List.mem_cons_self))

/-- Plain characters at the end of the text can be taken off. -/
theorem Fillable.of_append_plain {b : List Char} (hb : ∀ c ∈ b, isPlain c)
    (h : Fillable names ds) : ∀ {cs}, ds = cs ++ b → Fillable names cs := by
  induction h with
  | nil => intro cs hcs; rw [(List.nil_eq_append_iff.mp hcs).1]; exact .nil
  | plain hc _ ih =>
    intro cs hcs
    rcases List.cons_eq_append_iff.mp hcs with ⟨rfl, -⟩ | ⟨cs, rfl, hrest⟩
    · exact .nil
    · exact .plain hc (ih hrest)
  | brace hc _ ih =>
    intro cs hcs
    rcases List.cons_eq_append_iff.mp hcs with ⟨rfl, -⟩ | ⟨cs, rfl, hrest⟩
    · exact .nil
    · rcases List.cons_eq_append_iff.mp hrest with ⟨-, rfl⟩ | ⟨cs, rfl, hinner⟩
      · exact absurd (hb _ List.mem_cons_self) hc
      · exact .brace hc (ih hinner)
  | @field name rest hname hmem _ ih =>
    intro cs hcs
    rcases List.cons_eq_append_iff.mp hcs with ⟨rfl, -⟩ | ⟨cs, rfl, hrest⟩
    · exact .nil
    · rcases List.append_eq_append_iff.mp hrest with ⟨s, rfl, hs⟩ | ⟨s, rfl, rfl⟩
      · rcases List.cons_eq_append_iff.mp hs with ⟨-, rfl⟩ | ⟨s, rfl, hafter⟩
        · exact absurd (hb '}' List.mem_cons_self) (by decide)
        · exact .field hname hmem (ih hafter)
      · exact absurd (hb '}' (by simp)) (by decide)

theorem Fillable.reads (h : Fillable names cs) :
    ∃ out, Reads (fun _ => default) (· ∈ names) cs out := by
  induction h with
  | nil => exact ⟨[], Reads.nil⟩
  | plain hc _ ih => obtain ⟨out, hout⟩ := ih; exact ⟨_, hout.plain hc⟩
  | brace hc _ ih => obtain ⟨out, hout⟩ := ih; exact ⟨_, hout.doubled hc⟩
  | @field name cs hname hmem _ ih =>
    obtain ⟨out, hout⟩ := ih
    have hnext := next?_of_field hname cs
    simp only [written, String.toList_ofList, List.cons_append, List.append_assoc,
      List.nil_append] at hnext
    exact ⟨_, Reads.next hnext (by rintro _ ⟨⟩; exact hmem) hout⟩

theorem Fillable.usesOnly (h : Fillable names cs) : UsesOnly names cs := by
  obtain ⟨out, hout⟩ := h.reads
  exact ⟨_, hout.segments_eq, hout.fields⟩

end Fillable

/-! ### The check -/

/-- How far a text has been read, between characters. -/
inductive Place where
  | outside
  /-- After an opening brace that may be doubled. -/
  | opened
  /-- After a closing brace that must be doubled. -/
  | closed
  /-- Inside a field, with the characters of its name, the last one first. -/
  | inside (name : List Char)

/-- The characters since the last place outside all braces. -/
def Place.pending : Place → List Char
  | outside => []
  | opened => ['{']
  | closed => ['}']
  | inside name => '{' :: name.reverse

/-- The name that is being read is one. -/
def Place.Ok : Place → Prop
  | inside name => name ≠ [] ∧ ∀ c ∈ name, Text.isNameChar c
  | _ => True

/-- Does the text go on from the place as one that can be filled? -/
def check (names : List String) : Place → List Char → Bool
  | .outside, [] => true
  | _, [] => false
  | .outside, c :: r =>
    if c = '{' then check names .opened r
    else if c = '}' then check names .closed r
    else check names .outside r
  | .opened, c :: r =>
    if c = '{' then check names .outside r
    else Text.isNameChar c && check names (.inside [c]) r
  | .closed, c :: r => c = '}' && check names .outside r
  | .inside name, c :: r =>
    if c = '}' then names.contains (String.ofList name.reverse) && check names .outside r
    else Text.isNameChar c && check names (.inside (c :: name)) r

theorem fillable_of_check (names : List String) : ∀ (cs : List Char) (place : Place), place.Ok →
    check names place cs → Fillable names (place.pending ++ cs)
  | [], .outside, _, _ => .nil
  | [], .opened, _, h => by cases h
  | [], .closed, _, h => by cases h
  | [], .inside _, _, h => by cases h
  | c :: r, .outside, _, h => by
    rw [check] at h
    split_ifs at h with hopen hclose
    · subst hopen
      exact fillable_of_check names r .opened trivial h
    · subst hclose
      exact fillable_of_check names r .closed trivial h
    · exact .plain (by simp [isPlain, hopen, hclose]) (fillable_of_check names r .outside trivial h)
  | c :: r, .opened, _, h => by
    rw [check] at h
    split_ifs at h with hopen
    · subst hopen
      exact .brace (by decide) (fillable_of_check names r .outside trivial h)
    · rw [Bool.and_eq_true] at h
      exact fillable_of_check names r (.inside [c]) ⟨by simp, by simpa using h.1⟩ h.2
  | c :: r, .closed, _, h => by
    rw [check, Bool.and_eq_true, decide_eq_true_eq] at h
    obtain ⟨rfl, h⟩ := h
    exact .brace (by decide) (fillable_of_check names r .outside trivial h)
  | c :: r, .inside name, hok, h => by
    rw [check] at h
    split_ifs at h with hclose
    · subst hclose
      rw [Bool.and_eq_true, List.contains_iff_mem] at h
      have hname : (field (String.ofList name.reverse)).IsWritable := by
        simpa [IsWritable, Place.Ok] using hok
      have hrest := fillable_of_check names r .outside trivial h.2
      have := Fillable.field hname h.1 hrest
      simpa [Place.pending] using this
    · rw [Bool.and_eq_true] at h
      have hok' : (Place.inside (c :: name)).Ok :=
        ⟨by simp, List.forall_mem_cons.mpr ⟨h.1, hok.2⟩⟩
      have := fillable_of_check names r (.inside (c :: name)) hok' h.2
      simpa [Place.pending] using this

end LayerStencil.Segment
