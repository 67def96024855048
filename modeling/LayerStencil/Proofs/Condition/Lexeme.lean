import LayerStencil.Proofs.Condition.Grammar
import Mathlib.Data.List.TakeWhile
import Mathlib.Tactic.Common

/-! # Scanning and the tokens of the grammar

The scanner takes the longest token at every place, the grammar leaves its length open. They agree
where a token cannot go on: `Maximal t rest` says that `rest` does not make a longer token of `t`.

* `symbol_of_scan?`, `gap_of_scan?`: what the scanner finds, the grammar has.
* `Symbol.scan?_eq`: a token of the grammar is found if it cannot go on.
* `Symbol.not_digit`, `Symbol.not_equals`: only numbers start with a digit and only `==` with an
  equals sign, so what follows a token in a condition seldom makes it longer. -/

namespace LayerStencil.Grammar

open Token (next? scan? quoted? field? digits? word? number? ofWord?)

/-! ### Classes of characters -/

theorem isNameChar_of_isAsciiDigit {c : Char} (h : Text.isAsciiDigit c) : Text.isNameChar c := by
  simp [Text.isNameChar, Text.isAsciiAlphanumeric, h]

theorem not_isBlank_of_isNameChar {c : Char} (hc : Text.isNameChar c) : ¬ Text.isBlank c := by
  intro h
  simp only [Text.isBlank, Bool.or_eq_true, decide_eq_true_eq] at h
  rcases h with ((rfl | rfl) | rfl) | rfl <;> exact absurd hc (by decide)

theorem not_isAsciiDigit_of_isBlank {c : Char} (h : Text.isBlank c) : ¬ Text.isAsciiDigit c :=
  fun hd => not_isBlank_of_isNameChar (isNameChar_of_isAsciiDigit hd) h

/-! ### Blanks -/

theorem gap_dropWhile (cs : List Char) : Gap cs (cs.dropWhile Text.isBlank) :=
  ⟨cs.takeWhile Text.isBlank, fun _ => List.mem_takeWhile_imp, List.takeWhile_append_dropWhile.symm⟩

theorem scan?_eq (cs : List Char) : scan? cs =
    match cs.dropWhile Text.isBlank with
    | [] => some []
    | c :: r => (next? (c :: r)).bind fun found => (scan? found.2).map (found.1 :: ·) := by
  rw [scan?]
  split
  · rename_i h; rw [h]
  · rename_i c r h
    conv_rhs => rw [h]; dsimp only
    split
    · rename_i hnext; conv_rhs => rw [hnext, Option.bind_none]
    · rename_i hnext; conv_rhs => rw [hnext, Option.bind_some]

theorem scan?_of_gap {cs r : List Char} (h : Gap cs r) : scan? cs = scan? r := by
  obtain ⟨blanks, hblanks, rfl⟩ := h
  rw [scan?_eq, scan?_eq r, List.dropWhile_append_of_pos hblanks]

/-! ### What the scanner finds -/

theorem mem_keywords_iff {w : List Char} {t : Token} :
    (w, t) ∈ keywords ↔ ofWord? w = some t := by
  unfold ofWord?
  constructor
  · intro h
    simp only [keywords, List.mem_cons, Prod.mk.injEq, List.not_mem_nil, or_false] at h
    rcases h with ⟨rfl, rfl⟩ | ⟨rfl, rfl⟩ | ⟨rfl, rfl⟩ | ⟨rfl, rfl⟩ | ⟨rfl, rfl⟩ | ⟨rfl, rfl⟩ |
      ⟨rfl, rfl⟩ | ⟨rfl, rfl⟩ <;> rfl
  · intro h
    split_ifs at h with h₁ h₂ h₃ h₄ h₅ h₆ <;> cases h
    · simp [keywords, h₁]
    · simp [keywords, h₂]
    · simp [keywords, h₃]
    · simp [keywords, h₄]
    · rcases h₅ with rfl | rfl <;> simp [keywords]
    · rcases h₆ with rfl | rfl <;> simp [keywords]

theorem lexeme_of_quoted? {quote : Char} (hquote : quote = '\'' ∨ quote = '"')
    {cs rest : List Char} {t : Token} (h : quoted? quote cs = some (t, rest)) :
    Lexeme t (quote :: cs) rest := by
  unfold quoted? at h
  split at h
  · cases h
  · rename_i d rest' hdrop
    cases h
    have hd := Text.not_of_dropWhile_eq_cons hdrop
    obtain rfl : d = quote := by simpa using hd
    have hcs := List.takeWhile_append_dropWhile (p := (· ≠ d)) (l := cs)
    rw [hdrop] at hcs
    have hmem : d ∉ cs.takeWhile (· ≠ d) := fun hmem => by simpa using List.mem_takeWhile_imp hmem
    have hlex : Lexeme (.text (cs.takeWhile (· ≠ d)))
        (d :: (cs.takeWhile (· ≠ d) ++ d :: rest)) rest := .string hquote hmem
    rwa [hcs] at hlex

theorem lexeme_of_field? {cs rest : List Char} {t : Token} (h : field? cs = some (t, rest)) :
    Lexeme t ('{' :: cs) rest := by
  unfold field? at h
  split at h
  · rename_i c name rest' htake hdrop
    cases h
    have hcs := List.takeWhile_append_dropWhile (p := Text.isNameChar) (l := cs)
    rw [htake, hdrop] at hcs
    rw [← hcs]
    exact .field (List.cons_ne_nil c name) (htake ▸ fun _ => List.mem_takeWhile_imp)
  · cases h

theorem lexeme_of_digits? (negative : Bool) {cs rest : List Char} {t : Token}
    (h : digits? negative cs = some (t, rest)) :
    Lexeme t ((if negative then ['-'] else []) ++ cs) rest := by
  unfold digits? at h
  split at h
  · cases h
  · rename_i hne
    obtain ⟨u, hu, hrest⟩ := Option.map_eq_some_iff.mp h
    cases hrest
    change number? (signed negative (cs.takeWhile Text.isAsciiDigit)) = some t at hu
    unfold number? at hu
    split at hu
    · rename_i hbounds
      cases hu
      simp only [Text.isSigned64, Bool.and_eq_true, decide_eq_true_eq] at hbounds
      have hcs := List.takeWhile_append_dropWhile (p := Text.isAsciiDigit) (l := cs)
      conv in (_ ++ cs) => rw [← hcs]
      exact .number hne (fun _ => List.mem_takeWhile_imp) hbounds.1 hbounds.2
    · cases hu

theorem lexeme_of_word? {cs rest : List Char} {t : Token} (h : word? cs = some (t, rest)) :
    Lexeme t cs rest := by
  unfold word? at h
  split at h
  · cases h
  · obtain ⟨u, hu, hrest⟩ := Option.map_eq_some_iff.mp h
    cases hrest
    have hend : EndsWord (cs.dropWhile Text.isNameChar) := by
      intro c hc
      obtain ⟨r, hr⟩ := List.head?_eq_some_iff.mp hc
      simp [Text.not_of_dropWhile_eq_cons hr]
    have := Lexeme.keyword (mem_keywords_iff.mpr hu) hend
    rwa [List.takeWhile_append_dropWhile] at this

theorem lexeme_of_next? {cs rest : List Char} {t : Token} (h : next? cs = some (t, rest)) :
    Lexeme t cs rest := by
  unfold next? at h
  split at h
  · cases h
  · cases h; exact .sign (s := ['(']) (by simp [signs])
  · cases h; exact .sign (s := [')']) (by simp [signs])
  · cases h; exact .sign (s := ['[']) (by simp [signs])
  · cases h; exact .sign (s := [']']) (by simp [signs])
  · cases h; exact .sign (s := [',']) (by simp [signs])
  · cases h; exact .sign (s := ['=', '=']) (by simp [signs])
  · cases h; exact .sign (s := ['!', '=']) (by simp [signs])
  · cases h; exact .sign (s := ['<', '=']) (by simp [signs])
  · cases h; exact .sign (s := ['>', '=']) (by simp [signs])
  · cases h; exact .sign (s := ['<']) (by simp [signs])
  · cases h; exact .sign (s := ['>']) (by simp [signs])
  · exact lexeme_of_quoted? (.inl rfl) h
  · exact lexeme_of_quoted? (.inr rfl) h
  · exact lexeme_of_field? h
  · exact lexeme_of_digits? true h
  · split at h
    · exact lexeme_of_digits? false h
    · exact lexeme_of_word? h

theorem gap_of_scan? {cs : List Char} (h : scan? cs = some []) : Gap cs [] := by
  have hgap := gap_dropWhile cs
  rw [scan?_eq] at h
  split at h
  · rename_i hnil; rwa [hnil] at hgap
  · obtain ⟨found, -, hmap⟩ := Option.bind_eq_some_iff.mp h
    obtain ⟨ts, -, hts⟩ := Option.map_eq_some_iff.mp hmap
    exact absurd hts (List.cons_ne_nil _ _)

/-- The first token that the scanner finds stands there in the grammar too. -/
theorem symbol_of_scan? {cs : List Char} {t : Token} {ts : List Token}
    (h : scan? cs = some (t :: ts)) : ∃ rest, Symbol t cs rest ∧ scan? rest = some ts := by
  have hgap := gap_dropWhile cs
  rw [scan?_eq] at h
  split at h
  · cases h
  · rename_i c r hr
    obtain ⟨⟨u, rest⟩, hnext, hmap⟩ := Option.bind_eq_some_iff.mp h
    obtain ⟨us, hus, hcons⟩ := Option.map_eq_some_iff.mp hmap
    cases hcons
    rw [hr] at hgap
    exact ⟨rest, ⟨c :: r, hgap, lexeme_of_next? hnext⟩, hus⟩

/-! ### What the grammar has -/

/-- The text after a token does not make the token longer. -/
def Maximal : Token → List Char → Prop
  | .literal (.int _), rest => ∀ c ∈ rest.head?, ¬ Text.isAsciiDigit c
  | .compare .lt, rest => ∀ c ∈ rest.head?, c ≠ '='
  | .compare .gt, rest => ∀ c ∈ rest.head?, c ≠ '='
  | _, _ => True

theorem next?_of_isNameChar {c : Char} {r : List Char} (hc : Text.isNameChar c) :
    next? (c :: r) = if Text.isAsciiDigit c then digits? false (c :: r) else word? (c :: r) := by
  unfold next?
  split
  case h_1 h => cases h
  case h_17 h => cases h; rfl
  -- The other alternatives begin with a sign, which is no name character.
  all_goals
    rename_i h
    cases h
    exact absurd hc (by decide)

theorem digits?_run {negative : Bool} {digits rest : List Char} (hne : digits ≠ [])
    (hdigits : ∀ c ∈ digits, Text.isAsciiDigit c)
    (hlow : -9223372036854775808 ≤ signed negative digits)
    (hhigh : signed negative digits ≤ 9223372036854775807)
    (hrest : ∀ c ∈ rest.head?, ¬ Text.isAsciiDigit c) :
    digits? negative (digits ++ rest) = some (.literal (.int (signed negative digits)), rest) := by
  unfold digits?
  rw [Text.takeWhile_run hdigits hrest, Text.dropWhile_run hdigits hrest]
  split
  · contradiction
  · have hbounds : Text.isSigned64 (signed negative digits) := by
      simp [Text.isSigned64, hlow, hhigh]
    change (number? (signed negative digits)).map _ = _
    rw [number?, if_pos hbounds, Option.map_some]

theorem keyword_letters : ∀ k ∈ keywords, k.1 ≠ [] ∧
    ∀ c ∈ k.1, Text.isNameChar c ∧ ¬ Text.isAsciiDigit c := by
  have hall : keywords.all fun k =>
      k.1 ≠ [] && k.1.all fun c => Text.isNameChar c && !Text.isAsciiDigit c := by decide
  simpa using hall

theorem word?_run {w rest : List Char} {t : Token} (h : (w, t) ∈ keywords) (hend : EndsWord rest) :
    word? (w ++ rest) = some (t, rest) := by
  have hw : ofWord? w = some t := mem_keywords_iff.mp h
  obtain ⟨hne, hletters⟩ := keyword_letters _ h
  have hchars : ∀ c ∈ w, Text.isNameChar c := fun c hc => (hletters c hc).1
  unfold word?
  rw [Text.takeWhile_run hchars hend, Text.dropWhile_run hchars hend]
  split
  · contradiction
  · rw [hw, Option.map_some]

theorem next?_sign {s rest : List Char} {t : Token} (h : (s, t) ∈ signs) (hmax : Maximal t rest) :
    next? (s ++ rest) = some (t, rest) := by
  simp only [signs, List.mem_cons, Prod.mk.injEq, List.not_mem_nil, or_false] at h
  rcases h with ⟨rfl, rfl⟩ | ⟨rfl, rfl⟩ | ⟨rfl, rfl⟩ | ⟨rfl, rfl⟩ | ⟨rfl, rfl⟩ | ⟨rfl, rfl⟩ |
    ⟨rfl, rfl⟩ | ⟨rfl, rfl⟩ | ⟨rfl, rfl⟩ | ⟨rfl, rfl⟩ | ⟨rfl, rfl⟩
  case inr.inr.inr.inr.inr.inr.inr.inr.inr.inl =>
    cases rest with
    | nil => rfl
    | cons c r => simp [next?, hmax c rfl]
  case inr.inr.inr.inr.inr.inr.inr.inr.inr.inr =>
    cases rest with
    | nil => rfl
    | cons c r => simp [next?, hmax c rfl]
  all_goals rfl

theorem quoted?_run {quote : Char} {s rest : List Char} (hs : quote ∉ s) :
    quoted? quote (s ++ quote :: rest) = some (.text s, rest) := by
  have hrun : ∀ c ∈ s, (fun c => decide (c ≠ quote)) c := by
    intro c hc
    simpa using fun h : c = quote => hs (h ▸ hc)
  have hquote : ∀ c ∈ (quote :: rest).head?, ¬ (fun c => decide (c ≠ quote)) c := by simp
  unfold quoted?
  rw [Text.takeWhile_run hrun hquote, Text.dropWhile_run hrun hquote]

theorem field?_run {name rest : List Char} (hne : name ≠ [])
    (hname : ∀ c ∈ name, Text.isNameChar c) :
    field? (name ++ '}' :: rest) = some (.field (String.ofList name), rest) := by
  have hbrace : ∀ c ∈ ('}' :: rest).head?, ¬ Text.isNameChar c := by simp; decide
  unfold field?
  rw [Text.takeWhile_run hname hbrace, Text.dropWhile_run hname hbrace]
  cases name with
  | nil => contradiction
  | cons c l => rfl

theorem Lexeme.next?_eq {t : Token} {cs rest : List Char} (h : Lexeme t cs rest)
    (hmax : Maximal t rest) : next? cs = some (t, rest) := by
  cases h with
  | sign h => exact next?_sign h hmax
  | keyword h hend =>
    obtain ⟨hne, hletters⟩ := keyword_letters _ h
    obtain ⟨c, w, rfl⟩ := List.exists_cons_of_ne_nil hne
    obtain ⟨hc, hdigit⟩ := hletters c List.mem_cons_self
    have hword := word?_run h hend
    rw [List.cons_append] at hword ⊢
    rw [next?_of_isNameChar hc, if_neg hdigit, hword]
  | @number negative digits _ hne hdigits hlow hhigh =>
    have hrun := digits?_run hne hdigits hlow hhigh hmax
    cases negative with
    | true => exact hrun
    | false =>
      obtain ⟨d, digits, rfl⟩ := List.exists_cons_of_ne_nil hne
      have hd := hdigits d List.mem_cons_self
      simp only [Bool.false_eq_true, if_false, List.nil_append, List.cons_append] at hrun ⊢
      rw [next?_of_isNameChar (isNameChar_of_isAsciiDigit hd), if_pos hd, hrun]
  | string hquote hs =>
    rcases hquote with rfl | rfl
    · exact quoted?_run hs
    · exact quoted?_run hs
  | field hne hname => exact field?_run hne hname

theorem sign_letters : ∀ k ∈ signs, k.1 ≠ [] ∧ ∀ c ∈ k.1.head?, ¬ Text.isBlank c ∧
    ¬ Text.isAsciiDigit c ∧ (c = '=' → k.2 = .compare .eq) := by
  have hall : signs.all fun k => k.1 ≠ [] && k.1.head?.all fun c =>
      !Text.isBlank c && (!Text.isAsciiDigit c && (c ≠ '=' || k.2 = .compare .eq)) := by decide
  simpa [Option.all_eq_true, imp_iff_not_or] using hall

/-- How a token begins. -/
theorem Lexeme.head {t : Token} {cs rest : List Char} (h : Lexeme t cs rest) :
    ∃ c r, cs = c :: r ∧ ¬ Text.isBlank c ∧
      (Text.isAsciiDigit c → ∃ n, t = .literal (.int n)) ∧ (c = '=' → t = .compare .eq) := by
  cases h with
  | sign h =>
    obtain ⟨hne, hfirst⟩ := sign_letters _ h
    obtain ⟨c, s, rfl⟩ := List.exists_cons_of_ne_nil hne
    obtain ⟨hblank, hdigit, heq⟩ := hfirst c rfl
    exact ⟨c, _, rfl, hblank, fun hd => absurd hd hdigit, heq⟩
  | keyword h hend =>
    obtain ⟨hne, hletters⟩ := keyword_letters _ h
    obtain ⟨c, w, rfl⟩ := List.exists_cons_of_ne_nil hne
    obtain ⟨hc, hdigit⟩ := hletters c List.mem_cons_self
    refine ⟨c, _, rfl, not_isBlank_of_isNameChar hc, fun hd => absurd hd hdigit, ?_⟩
    rintro rfl
    exact absurd hc (by decide)
  | @number negative digits _ hne hdigits hlow hhigh =>
    cases negative with
    | true => exact ⟨'-', _, rfl, by decide, fun _ => ⟨_, rfl⟩, fun h => absurd h (by decide)⟩
    | false =>
      obtain ⟨d, digits, rfl⟩ := List.exists_cons_of_ne_nil hne
      have hd := isNameChar_of_isAsciiDigit (hdigits d List.mem_cons_self)
      refine ⟨d, _, rfl, not_isBlank_of_isNameChar hd, fun _ => ⟨_, rfl⟩, ?_⟩
      rintro rfl
      exact absurd hd (by decide)
  | string hquote hs =>
    rcases hquote with rfl | rfl <;>
      exact ⟨_, _, rfl, by decide, fun h => absurd h (by decide),
        fun h => absurd h (by decide)⟩
  | field hne hname =>
    exact ⟨'{', _, rfl, by decide, fun h => absurd h (by decide), fun h => absurd h (by decide)⟩

/-- A token of the grammar that cannot go on is the first one that the scanner finds. -/
theorem Symbol.scan?_eq {t : Token} {cs rest : List Char} {ts : List Token} (h : Symbol t cs rest)
    (hmax : Maximal t rest) (hts : scan? rest = some ts) : scan? cs = some (t :: ts) := by
  obtain ⟨r, hgap, hlex⟩ := h
  obtain ⟨c, r, rfl, hblank, -⟩ := hlex.head
  rw [scan?_of_gap hgap, Grammar.scan?_eq, List.dropWhile_cons_of_neg hblank]
  dsimp only
  rw [hlex.next?_eq hmax, Option.bind_some, hts, Option.map_some]

theorem Gap.head {cs r : List Char} (h : Gap cs r) :
    cs = r ∨ ∃ c l, cs = c :: l ∧ Text.isBlank c := by
  obtain ⟨blanks, hblanks, rfl⟩ := h
  cases blanks with
  | nil => exact .inl rfl
  | cons c l => exact .inr ⟨c, _, rfl, hblanks c List.mem_cons_self⟩

theorem Symbol.not_digit {t : Token} {cs rest : List Char} (h : Symbol t cs rest)
    (ht : ∀ n, t ≠ .literal (.int n)) : ∀ c ∈ cs.head?, ¬ Text.isAsciiDigit c := by
  obtain ⟨r, hgap, hlex⟩ := h
  rcases hgap.head with rfl | ⟨c, l, rfl, hc⟩
  · obtain ⟨c, l, rfl, -, hdigit, -⟩ := hlex.head
    rintro _ ⟨⟩ hd
    obtain ⟨n, rfl⟩ := hdigit hd
    exact ht n rfl
  · rintro _ ⟨⟩
    exact not_isAsciiDigit_of_isBlank hc

theorem Symbol.not_equals {t : Token} {cs rest : List Char} (h : Symbol t cs rest)
    (ht : t ≠ .compare .eq) : ∀ c ∈ cs.head?, c ≠ '=' := by
  obtain ⟨r, hgap, hlex⟩ := h
  rcases hgap.head with rfl | ⟨c, l, rfl, hc⟩
  · obtain ⟨c, l, rfl, -, -, hequals⟩ := hlex.head
    rintro _ ⟨⟩ heq
    exact ht (hequals heq)
  · rintro _ ⟨⟩ rfl
    exact absurd hc (by decide)

theorem Gap.not_digit {cs : List Char} (h : Gap cs []) : ∀ c ∈ cs.head?, ¬ Text.isAsciiDigit c := by
  rcases h.head with rfl | ⟨c, l, rfl, hc⟩
  · simp
  · rintro _ ⟨⟩
    exact not_isAsciiDigit_of_isBlank hc

end LayerStencil.Grammar
