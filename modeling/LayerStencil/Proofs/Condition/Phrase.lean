import LayerStencil.Proofs.Condition.Exact
import LayerStencil.Proofs.Template.Expandable

/-! # Phrases of conditions

A phrase is a text that is part of conditions, whatever spaces stand before it and whatever stands
after it. Phrases are put together as the grammar says, and what a condition of a directive must
satisfy is kept on the way: it fits on a line, uses only names in scope, and has the shape of a
truth value.

* `Phrase`: all this of a text at a level of the grammar.
* `Phrase.string`, `Phrase.equality`, `Phrase.membership`, `Phrase.and`, `Phrase.list`: the ways to
  put phrases together.
* `Enumerates`: strings with commas between them. Two enumerations in a row are one.
* `Phrase.condition`: a phrase that is a truth value is a condition. -/

namespace LayerStencil.Grammar

/-- The character may stand in the condition of a directive. -/
def Inline (c : Char) : Prop := c ≠ '\n' ∧ c ≠ '@'

/-- Some spaces, perhaps none. -/
def Spaces (s : List Char) : Prop := ∀ c ∈ s, c = ' '

theorem Spaces.gap {s : List Char} (hs : Spaces s) (rest : List Char) : Gap (s ++ rest) rest :=
  ⟨s, fun c hc => by rw [hs c hc]; decide, rfl⟩

theorem Spaces.inline {s : List Char} (hs : Spaces s) : ∀ c ∈ s, Inline c := by
  intro c hc
  rw [hs c hc]
  exact ⟨by decide, by decide⟩

theorem Spaces.append {s t : List Char} (hs : Spaces s) (ht : Spaces t) : Spaces (s ++ t) :=
  List.forall_mem_append.mpr ⟨hs, ht⟩

theorem spaces_nil : Spaces [] := List.forall_mem_nil _

theorem spaces_one : Spaces [' '] := by simp [Spaces]

theorem spaces_four : Spaces [' ', ' ', ' ', ' '] := by simp [Spaces]

/-- The text is an expression of the level and the shape, after any spaces and before any rest, and
can stand in a directive where the names are in scope. -/
structure Phrase (names : List String) (level : Level) (shape : Shape) (cs : List Char)
    (e : Expr) : Prop where
  derives : ∀ space, Spaces space → ∀ rest, Derives level (space ++ (cs ++ rest)) e rest
  inline : ∀ c ∈ cs, Inline c
  usesOnly : e.UsesOnly names
  hasShape : e.HasShape shape

/-- The operator of a comparison, before anything that does not go on with a name. -/
structure Relates (op : CompareOp) (cs : List Char) : Prop where
  operator : ∀ rest, EndsWord rest →
    ∃ space, Spaces space ∧ Operator op (cs ++ rest) (space ++ rest)
  inline : ∀ c ∈ cs, Inline c

section Phrase
variable {names : List String} {a b o : List Char} {x y : Expr}

/-! ### Strings -/

/-- A text in single quotes. -/
def inQuotes (s : List Char) : List Char := '\'' :: (s ++ ['\''])

/-- The text can stand in single quotes where the names are in scope. -/
structure Quotable (names : List String) (s : List Char) : Prop where
  fillable : Segment.Fillable names s
  not_quote : '\'' ∉ s
  inline : ∀ c ∈ s, Inline c

theorem Quotable.of {l : List Char} (h : Segment.check names .outside l &&
    l.all fun c => c ≠ '\'' && c ≠ '\n' && c ≠ '@') : Quotable names (String.ofList l).toList := by
  rw [Bool.and_eq_true, List.all_eq_true] at h
  obtain ⟨hfill, hchars⟩ := h
  rw [String.toList_ofList]
  refine ⟨Segment.fillable_of_check names l .outside trivial hfill, fun hquote => ?_,
    fun c hc => ?_⟩
  · simpa using hchars _ hquote
  · have hc := hchars c hc
    simp only [Bool.and_eq_true, decide_eq_true_eq] at hc
    exact ⟨hc.1.2, hc.2⟩

theorem inQuotes_inline {s : List Char} (hs : ∀ c ∈ s, Inline c) :
    ∀ c ∈ inQuotes s, Inline c := by
  have hquote : Inline '\'' := ⟨by decide, by decide⟩
  simpa [inQuotes, hquote, or_imp, forall_and] using hs

theorem derives_inQuotes {space s : List Char} (hspace : Spaces space) (hs : '\'' ∉ s)
    (rest : List Char) : Derives .operand (space ++ (inQuotes s ++ rest)) (.text s) rest := by
  have hlexeme : Lexeme (.text s) (inQuotes s ++ rest) rest := by
    have hstring : Lexeme (.text s) ('\'' :: (s ++ '\'' :: rest)) rest := .string (.inl rfl) hs
    simpa [inQuotes] using hstring
  exact .text ⟨_, hspace.gap _, hlexeme⟩

theorem Phrase.string {s : List Char} (hs : Quotable names s) :
    Phrase names .operand .scalar (inQuotes s) (.text s) where
  derives _ hspace rest := derives_inQuotes hspace hs.not_quote rest
  inline := inQuotes_inline hs.inline
  usesOnly := hs.fillable.usesOnly
  hasShape := .text s

/-! ### Fields and numbers -/

theorem inline_of_isNameChar {c : Char} (hc : Text.isNameChar c) : Inline c := by
  constructor <;> rintro rfl <;> exact absurd hc (by decide)

theorem Phrase.field {name : List Char} (hne : name ≠ []) (hname : ∀ c ∈ name, Text.isNameChar c)
    (hmem : String.ofList name ∈ names) :
    Phrase names .operand .scalar ('{' :: (name ++ ['}'])) (.field (String.ofList name)) where
  derives space hspace rest := by
    rw [List.cons_append, List.append_assoc]
    exact .field ⟨_, hspace.gap _, .field hne hname⟩
  inline := by
    simp only [List.forall_mem_append, List.forall_mem_cons]
    exact ⟨⟨by decide, by decide⟩, fun c hc => inline_of_isNameChar (hname c hc),
      ⟨by decide, by decide⟩, List.forall_mem_nil _⟩
  usesOnly := hmem
  hasShape := .field _

theorem Phrase.number {digits : List Char} (hne : digits ≠ [])
    (hdigits : ∀ c ∈ digits, Text.isAsciiDigit c)
    (hhigh : (Text.numberOf digits : Int) ≤ 9223372036854775807) :
    Phrase names .operand .scalar digits (.literal (.int (Text.numberOf digits))) where
  derives space hspace rest := by
    have hlow : -9223372036854775808 ≤ signed false digits := by simp only [signed]; omega
    exact .literal ⟨_, hspace.gap _, @Lexeme.number false digits rest hne hdigits hlow hhigh⟩
  inline := fun c hc => inline_of_isNameChar (isNameChar_of_isAsciiDigit (hdigits c hc))
  usesOnly := trivial
  hasShape := .literal _

/-! ### Operators -/

theorem endsWord_space (rest : List Char) : EndsWord (' ' :: rest) := by
  rintro c ⟨⟩; decide

theorem symbol_sign {s : List Char} {t : Token} (h : (s, t) ∈ signs) (rest : List Char) :
    Symbol t (' ' :: (s ++ rest)) rest :=
  ⟨s ++ rest, spaces_one.gap _, .sign h⟩

theorem symbol_keyword {w rest : List Char} {t : Token} (h : (w, t) ∈ keywords)
    (hrest : EndsWord rest) : Symbol t (' ' :: (w ++ rest)) rest :=
  ⟨w ++ rest, spaces_one.gap _, .keyword h hrest⟩

theorem relates_eq : Relates .eq [' ', '=', '='] :=
  ⟨fun rest _ => ⟨[], spaces_nil, .sign (symbol_sign (by simp [signs]) rest)⟩, by simp [Inline]⟩

theorem relates_ne : Relates .ne [' ', '!', '='] :=
  ⟨fun rest _ => ⟨[], spaces_nil, .sign (symbol_sign (by simp [signs]) rest)⟩, by simp [Inline]⟩

theorem relates_isIn : Relates .isIn [' ', 'i', 'n'] :=
  ⟨fun _ hrest => ⟨[], spaces_nil, .isIn (symbol_keyword (by simp [keywords]) hrest)⟩,
    by simp [Inline]⟩

theorem relates_notIn : Relates .notIn [' ', 'n', 'o', 't', ' ', 'i', 'n'] := by
  refine ⟨fun rest hrest => ⟨[], spaces_nil, ?_⟩, by simp [Inline]⟩
  have hin : Symbol .isIn (' ' :: (['i', 'n'] ++ rest)) rest :=
    symbol_keyword (by simp [keywords]) hrest
  have hnot : Symbol .not (' ' :: (['n', 'o', 't'] ++ (' ' :: (['i', 'n'] ++ rest)))) _ :=
    symbol_keyword (by simp [keywords]) (endsWord_space _)
  exact .notIn hnot hin

/-- Spaces after an operator. -/
theorem Relates.space {op : CompareOp} (h : Relates op o) {s : List Char} (hs : Spaces s) :
    Relates op (o ++ s) := by
  refine ⟨fun rest hrest => ?_, List.forall_mem_append.mpr ⟨h.inline, hs.inline⟩⟩
  have hends : EndsWord (s ++ rest) := by
    cases s with
    | nil => exact hrest
    | cons c s =>
      obtain rfl := hs c List.mem_cons_self
      exact endsWord_space _
  obtain ⟨space, hspace, hop⟩ := h.operator _ hends
  rw [← List.append_assoc, ← List.append_assoc] at hop
  exact ⟨space ++ s, hspace.append hs, hop⟩

/-! ### Comparisons and conjunctions -/

/-- A comparison, with a space before the second operand. -/
theorem Phrase.compare {op : CompareOp} {s t : Shape} (ha : Phrase names .operand s a x)
    (ho : Relates op o) (hb : Phrase names .operand t b y)
    (hshape : (Expr.compare op x y).HasShape .truth) :
    Phrase names .negation .truth (a ++ (o ++ ' ' :: b)) (.compare op x y) where
  derives space hspace rest := by
    obtain ⟨space', hspace', hop⟩ := ho.operator (' ' :: (b ++ rest)) (endsWord_space _)
    have hy := hb.derives _ (hspace'.append spaces_one) rest
    rw [List.append_assoc] at hy
    rw [List.append_assoc, List.append_assoc]
    exact .comparison (.compare (ha.derives space hspace _) hop hy)
  inline := by
    simp only [List.forall_mem_append, List.forall_mem_cons]
    exact ⟨ha.inline, ho.inline, ⟨by decide, by decide⟩, hb.inline⟩
  usesOnly := ⟨ha.usesOnly, hb.usesOnly⟩
  hasShape := hshape

theorem Phrase.equality {op : CompareOp} (hop : op.IsEquality)
    (ha : Phrase names .operand .scalar a x) (ho : Relates op o)
    (hb : Phrase names .operand .scalar b y) :
    Phrase names .negation .truth (a ++ (o ++ ' ' :: b)) (.compare op x y) :=
  ha.compare ho hb (.equality hop ha.hasShape hb.hasShape)

theorem Phrase.membership {op : CompareOp} (hop : op.IsMembership)
    (ha : Phrase names .operand .scalar a x) (ho : Relates op o)
    (hb : Phrase names .operand .list b y) :
    Phrase names .negation .truth (a ++ (o ++ ' ' :: b)) (.compare op x y) :=
  ha.compare ho hb (.membership hop ha.hasShape hb.hasShape)

theorem Phrase.single (ha : Phrase names .negation .truth a x) :
    Phrase names .conjunction .truth a x :=
  { ha with derives := fun space hspace rest => .negation (ha.derives space hspace rest) }

/-- A conjunction, perhaps with more spaces than one before its second part. -/
theorem Phrase.and (ha : Phrase names .conjunction .truth a x)
    (hb : Phrase names .negation .truth b y) {s : List Char} (hs : Spaces s) :
    Phrase names .conjunction .truth (a ++ (s ++ ' ' :: 'a' :: 'n' :: 'd' :: ' ' :: b))
      (.and x y) where
  derives space hspace rest := by
    have hand : Symbol .and (s ++ ' ' :: 'a' :: 'n' :: 'd' :: ' ' :: (b ++ rest))
        (' ' :: (b ++ rest)) := by
      have hgap := (hs.append spaces_one).gap ('a' :: 'n' :: 'd' :: ' ' :: (b ++ rest))
      rw [List.append_assoc] at hgap
      exact ⟨_, hgap, .keyword (w := ['a', 'n', 'd']) (by simp [keywords]) (endsWord_space _)⟩
    rw [List.append_assoc, List.append_assoc]
    exact .and (ha.derives space hspace _) hand (hb.derives [' '] spaces_one rest)
  inline := by
    simp only [List.forall_mem_append, List.forall_mem_cons]
    exact ⟨ha.inline, hs.inline, ⟨by decide, by decide⟩, ⟨by decide, by decide⟩,
      ⟨by decide, by decide⟩, ⟨by decide, by decide⟩, ⟨by decide, by decide⟩, hb.inline⟩
  usesOnly := ⟨ha.usesOnly, hb.usesOnly⟩
  hasShape := .and ha.hasShape hb.hasShape

/-! ### Lists of strings -/

/-- Strings with commas between them. -/
inductive Enumerates (names : List String) : List Char → List (List Char) → Prop
  | one {space s : List Char} (hspace : Spaces space) (hs : Quotable names s) :
      Enumerates names (space ++ inQuotes s) [s]
  | more {space s cs : List Char} {ns : List (List Char)} (hspace : Spaces space)
      (hs : Quotable names s) (h : Enumerates names cs ns) :
      Enumerates names (space ++ (inQuotes s ++ ',' :: cs)) (s :: ns)

theorem Enumerates.space {cs : List Char} {ns : List (List Char)} (h : Enumerates names cs ns)
    {s : List Char} (hs : Spaces s) : Enumerates names (s ++ cs) ns := by
  cases h with
  | one hspace hn =>
    rw [← List.append_assoc]
    exact .one (hs.append hspace) hn
  | more hspace hn h =>
    rw [← List.append_assoc]
    exact .more (hs.append hspace) hn h

theorem Enumerates.append {cs ds : List Char} {ns ms : List (List Char)}
    (h : Enumerates names cs ns) (h' : Enumerates names ds ms) :
    Enumerates names (cs ++ ',' :: ds) (ns ++ ms) := by
  induction h with
  | one hspace hs =>
    rw [List.append_assoc]
    exact .more hspace hs h'
  | more hspace hs _ ih =>
    rw [List.append_assoc, List.append_assoc]
    exact .more hspace hs ih

theorem Enumerates.derives {cs : List Char} {ns : List (List Char)} (h : Enumerates names cs ns) :
    ns ≠ [] ∧ ∀ rest, Derives .items (cs ++ rest) (.list (ns.map Expr.text)) rest := by
  have lift {cs rest : List Char} {e : Expr} (he : Derives .operand cs e rest) :
      Derives .disjunction cs e rest :=
    .conjunction (.negation (.comparison (.operand he)))
  induction h with
  | one hspace hs =>
    refine ⟨by simp, fun rest => .one (lift ?_)⟩
    rw [List.append_assoc]
    exact derives_inQuotes hspace hs.not_quote rest
  | @more space s cs ns hspace hs _ ih =>
    obtain ⟨hne, hitems⟩ := ih
    obtain ⟨n, ns, rfl⟩ := List.exists_cons_of_ne_nil hne
    refine ⟨by simp, fun rest => ?_⟩
    have hcomma : Symbol .comma (',' :: (cs ++ rest)) (cs ++ rest) :=
      ⟨_, spaces_nil.gap _, .sign (s := [',']) (by simp [signs])⟩
    rw [List.append_assoc, List.append_assoc]
    exact .more (lift (derives_inQuotes hspace hs.not_quote _)) hcomma (hitems rest)

theorem Enumerates.inline {cs : List Char} {ns : List (List Char)} (h : Enumerates names cs ns) :
    ∀ c ∈ cs, Inline c := by
  induction h with
  | one hspace hs =>
    exact List.forall_mem_append.mpr ⟨hspace.inline, inQuotes_inline hs.inline⟩
  | more hspace hs _ ih =>
    simp only [List.forall_mem_append, List.forall_mem_cons]
    exact ⟨hspace.inline, inQuotes_inline hs.inline, ⟨by decide, by decide⟩, ih⟩

theorem Enumerates.allUseOnly {cs : List Char} {ns : List (List Char)}
    (h : Enumerates names cs ns) : Expr.AllUseOnly names (ns.map Expr.text) := by
  induction h with
  | one _ hs => exact ⟨hs.fillable.usesOnly, trivial⟩
  | more _ hs _ ih => exact ⟨hs.fillable.usesOnly, ih⟩

/-- A list of strings, perhaps with spaces before its end. -/
theorem Phrase.list {s cs : List Char} {ns : List (List Char)} (h : Enumerates names cs ns)
    (hs : Spaces s) :
    Phrase names .operand .list ('[' :: (cs ++ (s ++ [']']))) (.list (ns.map Expr.text)) where
  derives space hspace rest := by
    have hopen : Symbol .openBracket (space ++ '[' :: (cs ++ (s ++ ']' :: rest)))
        (cs ++ (s ++ ']' :: rest)) :=
      ⟨_, hspace.gap _, .sign (s := ['[']) (by simp [signs])⟩
    have hclose : Symbol .closeBracket (s ++ ']' :: rest) rest :=
      ⟨_, hs.gap _, .sign (s := [']']) (by simp [signs])⟩
    rw [List.cons_append, List.append_assoc, List.append_assoc]
    exact .list hopen (h.derives.2 _) ⟨_, .inl rfl, hclose⟩
  inline := by
    simp only [List.forall_mem_append, List.forall_mem_cons]
    exact ⟨⟨by decide, by decide⟩, h.inline, hs.inline, ⟨by decide, by decide⟩,
      List.forall_mem_nil _⟩
  usesOnly := h.allUseOnly
  hasShape := .list fun e he => by
    obtain ⟨s, -, rfl⟩ := List.mem_map.mp he
    exact .text s

/-! ### Conditions -/

/-- **A phrase that is a truth value is a condition** of directives. -/
theorem Phrase.condition (h : Phrase names .conjunction .truth a x) :
    (Condition.mk a x).Formed ∧ (Condition.mk a x).Sound names := by
  have hspells : Spells a x := by
    have hderives := h.derives [] spaces_nil []
    rw [List.append_nil] at hderives
    exact ⟨[], .conjunction hderives, [], List.forall_mem_nil _, rfl⟩
  refine ⟨⟨?_, fun hc => (h.inline _ hc).1 rfl, fun hc => (h.inline _ hc).2 rfl⟩, h.usesOnly,
    h.hasShape⟩
  rw [Condition.parse?, parse?_of_spells hspells, Option.map_some]

end Phrase

end LayerStencil.Grammar
