import LayerStencil.Proofs.Pattern.Spelled

/-! # A list of name patterns

The names of a list are joined as they are written. With any engine that follows the documentation
of regular expressions, a list of names that are complete in themselves matches what one of the
names matches as a whole. The joined pattern may be too much for an engine where each name alone is
not, and names that are not complete may make up a pattern together.

* `PatternEngine.ExceedsLimits`: a list that is a pattern, but too much for the engine.
* `PatternEngine.meansAny_of_complete`: a list fails if one of its names does, or by its size, and
  else matches what one of them matches.
* `PatternEngine.not_fails_iff_of_shared_group`: two names that are no patterns alone. -/

namespace LayerStencil.PatternEngine

open NamePattern (joinedText)
open PatternText (Apart ClassTail Complete)

/-- The joined names are a pattern, but the engine does not compile it. -/
def ExceedsLimits (E : PatternEngine) (reads : List Char → Option Meaning) (names : List String) :
    Prop :=
  reads (joinedText names).toList ≠ none ∧ E.compile? (joinedText names).toList = none

/-- A list of names means any one of them. -/
structure MeansAny (E : PatternEngine) (reads : List Char → Option Meaning)
    (names : List String) : Prop where
  /-- It is an error if and only if a name alone is one that is not due to the limits of the engine,
  or the names together exceed these limits. -/
  fails_iff : (∃ e, E.ofNames names = .error e) ↔
    (∃ n ∈ names, (∃ e, E.ofNames [n] = .error e) ∧ ¬ E.ExceedsLimits reads [n]) ∨
      E.ExceedsLimits reads names
  /-- Otherwise it is a pattern, and this matches a subject if and only if some name, read as a
  pattern by itself, matches all of the subject. If no name alone exceeds the limits, this is to say
  that the pattern of some name alone matches the subject. -/
  matches_iff : ∀ r, E.ofNames names = .ok r → ∃ c, r = some c ∧ ∀ subject,
    (E.isMatch c subject = true ↔
      ∃ n ∈ names, ∃ M, reads n.toList = some M ∧ M.IsWhole subject) ∧
    ((∀ n ∈ names, ¬ E.ExceedsLimits reads [n]) → (E.isMatch c subject = true ↔
      ∃ n ∈ names, ∃ d, E.ofNames [n] = .ok (some d) ∧ E.isMatch d subject = true))

section Lists
variable {E : PatternEngine} {reads : List Char → Option Meaning} {names : List String}

theorem ofNames_eq_ok_iff (hne : names ≠ []) {r : Option E.Compiled} : E.ofNames names = .ok r ↔
    ∃ c, E.compile? (joinedText names).toList = some c ∧ r = some c := by
  obtain ⟨n, ns, rfl⟩ := List.exists_cons_of_ne_nil hne
  rw [ofNames.eq_def]
  dsimp only
  split
  · next c hc =>
    simp only [hc, Option.some.injEq, exists_eq_left', Except.ok.injEq]
    exact eq_comm
  · next hc => simp [hc]

theorem ofNames_eq_error_iff (hne : names ≠ []) :
    (∃ e, E.ofNames names = .error e) ↔ E.compile? (joinedText names).toList = none := by
  cases hlist : E.ofNames names with
  | error e =>
    refine iff_of_true ⟨e, rfl⟩ (Option.eq_none_iff_forall_ne_some.mpr fun c hc => ?_)
    have hok := (ofNames_eq_ok_iff hne).mpr ⟨c, hc, rfl⟩
    simp [hlist] at hok
  | ok r =>
    obtain ⟨c, hc, -⟩ := (ofNames_eq_ok_iff hne).mp hlist
    exact iff_of_false (by simp) (by simp [hc])

variable (hE : E.Follows reads) (hne : names ≠ []) (hnames : ∀ n ∈ names, Complete n.toList)
  (hapart : names.Pairwise fun n m => Apart n.toList m.toList)
include hE hne hnames hapart

/-- A list is no pattern if and only if some name is none. -/
theorem reads_joinedText_eq_none_iff :
    reads (joinedText names).toList = none ↔ ∃ n ∈ names, reads n.toList = none := by
  obtain ⟨n, ns, rfl⟩ := List.exists_cons_of_ne_nil hne
  exact (hE.reads_joinedText hnames hapart).1

/-- A compiled list matches what a name matches as a whole. -/
theorem isMatch_iff_of_compile? {c : E.Compiled}
    (hc : E.compile? (joinedText names).toList = some c) (s : List Char) : E.isMatch c s = true ↔
      ∃ n ∈ names, ∃ M, reads n.toList = some M ∧ M.IsWhole s := by
  obtain ⟨n, ns, rfl⟩ := List.exists_cons_of_ne_nil hne
  obtain ⟨M, hM, hmatch⟩ := hE.compiled hc
  exact (hmatch s).trans ((hE.reads_joinedText hnames hapart).2 M hM s)

/-- A list fails if it is no pattern, or one that is too much. -/
theorem compile?_eq_none_iff : E.compile? (joinedText names).toList = none ↔
    (∃ n ∈ names, reads n.toList = none) ∨ E.ExceedsLimits reads names := by
  rw [← reads_joinedText_eq_none_iff hE hne hnames hapart, ExceedsLimits]
  constructor
  · intro h
    by_cases hreads : reads (joinedText names).toList = none
    · exact .inl hreads
    · exact .inr ⟨hreads, h⟩
  · rintro (hreads | ⟨-, h⟩)
    · refine Option.eq_none_iff_forall_ne_some.mpr fun c hc => ?_
      obtain ⟨M, hM, -⟩ := hE.compiled hc
      simp [hreads] at hM
    · exact h

omit hne hapart in
/-- A name alone is an error that is not due to limits if and only if it is no pattern. -/
theorem fails_alone_iff {n : String} (hn : n ∈ names) :
    (∃ e, E.ofNames [n] = .error e) ∧ ¬ E.ExceedsLimits reads [n] ↔ reads n.toList = none := by
  have hone : ∀ m ∈ [n], Complete m.toList := by simpa using hnames n hn
  have hreads := reads_joinedText_eq_none_iff hE (List.cons_ne_nil n []) hone
    (List.pairwise_singleton _ n)
  rw [ofNames_eq_error_iff (List.cons_ne_nil n []),
    compile?_eq_none_iff hE (List.cons_ne_nil n []) hone (List.pairwise_singleton _ n)]
  simp only [List.mem_singleton, exists_eq_left] at hreads ⊢
  constructor
  · rintro ⟨h | h, hlimits⟩
    · exact h
    · exact absurd h hlimits
  · exact fun h => ⟨.inl h, fun hlimits => hlimits.1 (hreads.mpr h)⟩

/-- **A list of names that are complete in themselves means any one of them**, with any engine that
follows the documentation of regular expressions, if no two of them name a group alike. -/
theorem meansAny_of_complete : E.MeansAny reads names := by
  refine ⟨?_, fun r hr => ?_⟩
  · rw [ofNames_eq_error_iff hne, compile?_eq_none_iff hE hne hnames hapart]
    refine or_congr_left (exists_congr fun n => and_congr_right fun hn => ?_)
    exact (fails_alone_iff hE hnames hn).symm
  · obtain ⟨c, hc, rfl⟩ := (ofNames_eq_ok_iff hne).mp hr
    have hmatch := isMatch_iff_of_compile? hE hne hnames hapart hc
    refine ⟨c, rfl, fun s => ⟨hmatch s, fun hlimits => (hmatch s).trans ?_⟩⟩
    -- The names are patterns, since the list is one, and so each of them is compiled alone.
    have hreads : ∀ n ∈ names, reads n.toList ≠ none := by
      intro n hn hnone
      have hfails := (compile?_eq_none_iff hE hne hnames hapart).mpr (.inl ⟨n, hn, hnone⟩)
      simp [hc] at hfails
    refine exists_congr fun n => and_congr_right fun hn => ?_
    have hone : ∀ m ∈ [n], Complete m.toList := by simpa using hnames n hn
    have hsingly := List.pairwise_singleton (fun n m => Apart n.toList m.toList) n
    have hcompile : E.compile? (joinedText [n]).toList ≠ none := by
      rw [Ne, compile?_eq_none_iff hE (List.cons_ne_nil n []) hone hsingly]
      simp [hreads n hn, hlimits n hn]
    obtain ⟨d, hd⟩ := Option.ne_none_iff_exists'.mp hcompile
    have hsingle := isMatch_iff_of_compile? hE (List.cons_ne_nil n []) hone hsingly hd s
    simp only [List.mem_singleton, exists_eq_left] at hsingle
    rw [← hsingle]
    constructor
    · exact fun h => ⟨d, (ofNames_eq_ok_iff (List.cons_ne_nil n [])).mpr ⟨d, hd, rfl⟩, h⟩
    · rintro ⟨d', hd', h⟩
      obtain ⟨_, hd'', hsome⟩ := (ofNames_eq_ok_iff (List.cons_ne_nil n [])).mp hd'
      cases hsome
      rwa [← Option.some.inj (hd.symm.trans hd'')] at h

end Lists

/-- An extension by its name, and more of them by a group and a class. -/
theorem meansAny_of_complete_extensions :
    let names := ["VK_KHR_swapchain", "VK_EXT_(debug|[a-z]+)"]
    Pattern.engine.Follows Pattern.reads ∧ names ≠ [] ∧ (∀ n ∈ names, Complete n.toList) ∧
      (names.Pairwise fun n m => Apart n.toList m.toList) ∧
      (∃ c, Pattern.engine.ofNames names = .ok (some c)) ∧
      Pattern.engine.MeansAny Pattern.reads names := by
  intro names
  have hne : names ≠ [] := List.cons_ne_nil _ _
  have hok : ∃ c, Pattern.engine.ofNames ["VK_KHR_swapchain", "VK_EXT_(debug|[a-z]+)"] =
      .ok (some c) := ⟨_, rfl⟩
  have hnames : ∀ n ∈ names, Complete n.toList := by
    intro n hn
    simp only [names, List.mem_cons, List.not_mem_nil, or_false] at hn
    rcases hn with rfl | rfl
    · exact .of_plain (by simp)
    · refine ⟨?_, by decide⟩
      have hclass : ∀ rest, ClassTail ('a' :: '-' :: 'z' :: ']' :: rest) rest := fun rest =>
        .plain (by decide) (by simp) (.plain (by decide) (by simp)
          (.plain (by decide) (by simp) (.close rest)))
      repeat first
        | exact .nil
        | refine .bracket (hclass _) ?_
        | refine .opens (by decide) ?_
        | refine .closes ?_
        | refine .plain (by decide) ?_
  have hapart : names.Pairwise fun n m => Apart n.toList m.toList :=
    List.pairwise_pair.mpr (.of_not_mem (by simp))
  exact ⟨Pattern.engine_follows, hne, hnames, hapart, hok,
    meansAny_of_complete Pattern.engine_follows hne hnames hapart⟩

/-- Two names that open and close one group together are a pattern, though neither is one alone. -/
theorem not_fails_iff_of_shared_group :
    ¬ ((∃ e, Pattern.engine.ofNames ["(a", "b)"] = .error e) ↔
      ∃ n ∈ ["(a", "b)"], ∃ e, Pattern.engine.ofNames [n] = .error e) := by
  have hlist : ∃ c, Pattern.engine.ofNames ["(a", "b)"] = .ok (some c) := ⟨_, rfl⟩
  have hname : ∃ e, Pattern.engine.ofNames ["(a"] = .error e := ⟨_, rfl⟩
  obtain ⟨c, hc⟩ := hlist
  intro h
  obtain ⟨e, he⟩ := h.mpr ⟨"(a", List.mem_cons_self .., hname⟩
  rw [hc] at he
  cases he

end LayerStencil.PatternEngine
