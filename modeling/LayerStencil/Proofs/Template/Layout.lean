import LayerStencil.Proofs.Template.DirectiveLine
import LayerStencil.Proofs.Template.Nesting

/-! # Layouts

A layout is a template before it is written down: lines of text, and directives with a layout
between their two ends. Printed, each end of a directive stands on a line of its own.

* `Layout.Formed`: what a layout must satisfy for its printed text to read as it is meant.
* `Layout.Describes`: a forest of controls is that of the layout, with the same kinds, conditions
  and nesting, and between two markers there is the text of the layout, less some of the white space
  at its ends.
* `Layout.Left.exists_marker`: what reading the line of a directive gives, after any blank lines.
* `nest_layout`: reading the markers of a printed layout adds a forest that it describes, whatever
  text follows.
* `Template.exists_parse_print`: the text of a layout is a template that the layout describes. -/

namespace LayerStencil

open Marker (Blank WholeLines emptyLines afterLines lineEnd? scanFrom)

/-! ### Heads of directives -/

/-- What opens a directive: a condition, or a kind to loop over and perhaps a condition. -/
inductive Head where
  | cond (c : Condition)
  | each (kind : Kind) (condition : Option Condition)

namespace Head

/-- What the directive does. -/
def kind : Head → ControlKind
  | cond _ => .cond
  | each kind _ => .each kind

/-- The condition of the directive. -/
def condition : Head → Option Condition
  | cond c => some c
  | each _ condition => condition

/-- The family to which the opening marker belongs. -/
def family : Head → Marker.Family
  | cond _ => .cond
  | each _ _ => .loop

/-- The text that opens the directive, after its at sign. -/
def words : Head → List Char
  | cond c => 'i' :: 'f' :: '(' :: (c.text ++ [')'])
  | each kind none => 'f' :: 'o' :: 'r' :: 'e' :: 'a' :: 'c' :: 'h' :: ' ' :: kind.tag.toList
  | each kind (some c) =>
    'f' :: 'o' :: 'r' :: 'e' :: 'a' :: 'c' :: 'h' :: ' ' ::
      (kind.tag.toList ++ ' ' :: (Marker.whereWord ++ (c.text ++ [')'])))

/-- What the opening marker says. -/
def mark (head : Head) : Mark := .opens head.kind.tag (head.condition.map Condition.text)

end Head

/-- The text that closes a directive, after its at sign. -/
def ControlKind.endWords (kind : ControlKind) : List Char :=
  'e' :: 'n' :: 'd' :: ' ' :: kind.tag.toList

/-- The condition is read from its text, which fits on a line and has no at sign. -/
structure Condition.Formed (c : Condition) : Prop where
  read : Condition.parse? c.text = some c
  oneLine : '\n' ∉ c.text
  not_at : '@' ∉ c.text

/-- The head reads as it is meant before a text: its condition can be read, and if it is a loop
without one, the text does not begin like a condition. -/
structure Head.Formed (head : Head) (inside : List Char) : Prop where
  condition : ∀ c, head.condition = some c → c.Formed
  noWhere : ∀ kind, head = .each kind none →
    ¬ Marker.whereWord <+: inside.dropWhile Text.isWhiteSpace

section Head
variable {head : Head} {inside : List Char}

theorem Head.Formed.words_line (h : head.Formed inside) :
    '@' ∉ head.words ∧ '\n' ∉ head.words := by
  cases head with
  | cond c =>
    have hc := h.condition c rfl
    simp [Head.words, hc.oneLine, hc.not_at]
  | each kind condition =>
    have hat : '@' ∉ kind.tag.toList :=
      fun hmem => ((Marker.tag_letters (.each kind)).2 _ hmem).2.2.1 rfl
    have hbreak : '\n' ∉ kind.tag.toList :=
      fun hmem => ((Marker.tag_letters (.each kind)).2 _ hmem).2.2.2 rfl
    cases condition with
    | none => simp [Head.words, hat, hbreak]
    | some c =>
      have hc := h.condition c rfl
      simp [Head.words, Marker.whereWord, hat, hbreak, hc.oneLine, hc.not_at]

theorem ControlKind.endWords_line (kind : ControlKind) :
    '@' ∉ kind.endWords ∧ '\n' ∉ kind.endWords := by
  have hat : '@' ∉ kind.tag.toList := fun hmem => ((Marker.tag_letters kind).2 _ hmem).2.2.1 rfl
  have hbreak : '\n' ∉ kind.tag.toList :=
    fun hmem => ((Marker.tag_letters kind).2 _ hmem).2.2.2 rfl
  simp [ControlKind.endWords, hat, hbreak]

theorem Head.Formed.line? (h : head.Formed inside) :
    head.family.line? ('@' :: (head.words ++ '\n' :: inside)) =
      some (head.mark, afterLines inside) := by
  cases head with
  | cond c =>
    have hread := Marker.line?_if inside (h.condition c rfl).oneLine
    simpa [Head.words, Head.family, Head.mark, Head.kind, Head.condition, ControlKind.tag] using
      hread
  | each kind condition =>
    cases condition with
    | none => exact Marker.line?_foreach kind (h.noWhere kind rfl)
    | some c =>
      have hread := Marker.line?_foreach_where kind inside (h.condition c rfl).oneLine
      simpa [Head.words, Head.family, Head.mark, Head.kind, Head.condition, ControlKind.tag] using
        hread

end Head

/-! ### Layouts -/

/-- Text with directives in it. -/
inductive Layout where
  | text (s : List Char)
  /-- A directive after some text, with the white space before its two ends. -/
  | directive (before : List Char) (head : Head) (opening closing : List Char)
      (inside after : Layout)

namespace Layout

/-- The text of a layout. -/
def print : Layout → List Char
  | text s => s
  | directive before head opening closing inside after =>
    before ++ (opening ++ '@' :: (head.words ++ '\n' :: (inside.print ++
      (closing ++ '@' :: (head.kind.endWords ++ '\n' :: after.print)))))

/-- Whole lines without an at sign. -/
def IsText (s : List Char) : Prop := '@' ∉ s ∧ WholeLines s

/-- White space on one line. -/
def IsIndent (s : List Char) : Prop := Blank s ∧ '\n' ∉ s

/-- The layout can be read from its text. -/
inductive Formed : Layout → Prop
  | text {s : List Char} (hs : IsText s) : Formed (text s)
  | directive {before opening closing : List Char} {head : Head} {inside after : Layout}
      (hbefore : IsText before) (hopening : IsIndent opening) (hclosing : IsIndent closing)
      (hhead : head.Formed inside.print) (hinside : Formed inside) (hafter : Formed after) :
      Formed (directive before head opening closing inside after)

/-- The text is `s` without some of the white space at its ends. -/
def IsCore (s core : List Char) : Prop := ∃ b b', Blank b ∧ Blank b' ∧ s = b ++ (core ++ b')

/-- The controls are those of the layout, where the text from `start` up to `stop` is that of the
layout and begins on the given line. -/
inductive Describes (text : List Char) : (line start stop : Nat) → Layout → List Control → Prop
  | text {line start stop : Nat} {s : List Char} (hs : IsCore s (Text.slice text start stop)) :
      Describes text line start stop (.text s) []
  | directive {line start stop : Nat} {before opening closing : List Char} {head : Head}
      {inside after : Layout} {o c : Marker} {children rest : List Control}
      (hbefore : IsCore before (Text.slice text start o.start))
      (hinside : Describes text (line + before.count '\n' + 1) o.stop c.start inside children)
      (hafter : Describes text (line + before.count '\n' + 1 + inside.print.count '\n' + 1) c.stop
        stop after rest) :
      Describes text line start stop (.directive before head opening closing inside after)
        (.node head.kind head.condition o c (line + before.count '\n') children :: rest)

theorem Formed.wholeLines_print {l : Layout} (h : l.Formed) : WholeLines l.print := by
  induction h with
  | text hs => exact hs.2
  | @directive before opening closing head inside after _ _ _ _ _ _ _ hafter =>
    have hprint : print (.directive before head opening closing inside after) =
        (before ++ opening ++ '@' :: head.words ++ '\n' :: inside.print ++ closing ++
          '@' :: head.kind.endWords) ++ '\n' :: after.print := by simp [print]
    rw [hprint]
    exact WholeLines.append_line _ hafter

/-- What does not begin like a condition does not either before an indented at sign. -/
theorem not_where_append {s : List Char} (hs : WholeLines s)
    (h : ¬ Marker.whereWord <+: s.dropWhile Text.isWhiteSpace) {indent : List Char}
    (hindent : Blank indent) (k : List Char) :
    ¬ Marker.whereWord <+: (s ++ (indent ++ '@' :: k)).dropWhile Text.isWhiteSpace := by
  intro hprefix
  rw [List.dropWhile_append, Marker.dropWhile_directive hindent] at hprefix
  split at hprefix
  · exact absurd (List.cons_prefix_cons.mp hprefix).1 (by decide)
  · rename_i hne
    rcases List.prefix_or_prefix_of_prefix hprefix (List.prefix_append _ _) with hle | hle
    · exact h hle
    · -- The text would end inside the word, but it ends with a line break.
      cases hlast : (s.dropWhile Text.isWhiteSpace).getLast? with
      | none => exact hne (by rw [List.getLast?_eq_none_iff.mp hlast]; rfl)
      | some c =>
        obtain rfl := hs.of_suffix (List.dropWhile_suffix _) c hlast
        exact absurd (hle.subset (List.mem_of_getLast? hlast)) (by decide)

/-! ### Reading text -/

/-- The text between two markers: the first ends in the empty lines at the start of `w`, or where
`w` begins, and the second starts with one of the empty lines `b` at its end, or where it ends. -/
theorem isCore_slice {pre s b k : List Char} {start stop : Nat} (hb : Blank b)
    (hk : lineEnd? k = none) (hstart : pre.length ≤ start)
    (hstart' : start ≤ pre.length + emptyLines (s ++ b ++ k)) (hstop : pre.length + s.length ≤ stop)
    (hstop' : stop ≤ pre.length + s.length + b.length) :
    IsCore (s ++ b) (Text.slice (pre ++ (s ++ b ++ k)) start stop) := by
  have hempty := Marker.emptyLines_le hk (s ++ b)
  obtain ⟨n, rfl⟩ := Nat.exists_eq_add_of_le hstart
  obtain ⟨m, rfl⟩ := Nat.exists_eq_add_of_le hstop
  have hn : n ≤ (s ++ b).length := by omega
  have hslice : Text.slice (pre ++ (s ++ b ++ k)) (pre.length + n) (pre.length + s.length + m) =
      ((s ++ b).drop n).take (s.length + m - n) := by
    have hstop : s.length + m ≤ (s ++ b).length := by rw [List.length_append]; omega
    rw [Nat.add_assoc, Text.slice_append_right, Text.slice_append_left _ hstop, Text.slice]
  have hblank : Blank ((s ++ b).take n) := by
    have htake : Blank ((s ++ b ++ k).take n) := Marker.blank_take (by omega)
    rwa [List.take_append_of_le_length hn] at htake
  have hblank' : Blank (((s ++ b).drop n).drop (s.length + m - n)) := by
    intro c hc
    rw [List.drop_drop, List.drop_append, List.drop_eq_nil_of_le (by omega), List.nil_append] at hc
    exact hb c (List.mem_of_mem_drop hc)
  refine ⟨_, _, hblank, hblank', ?_⟩
  rw [hslice, List.take_append_drop, List.take_append_drop]

/-- An opening marker starts the frame of its head. -/
theorem nest_head {head : Head} (hhead : ∀ c, head.condition = some c → c.Formed) {o : Marker}
    (ho : o.mark = head.mark) (text : List Char) (stack : List Template.Frame)
    (done : List Control) (ms : List Marker) : Template.nest text stack done (o :: ms) =
      Template.nest text (⟨head.kind, head.condition, o, o.line text, []⟩ :: stack) done ms := by
  have hkind : ControlKind.ofTag? head.kind.tag = some head.kind :=
    ControlKind.ofTag?_eq_some_iff.mpr rfl
  have hopen : Template.Frame.open? head.kind.tag (head.condition.map Condition.text) o
      (o.line text) = .ok ⟨head.kind, head.condition, o, o.line text, []⟩ := by
    unfold Template.Frame.open?
    rw [hkind]
    cases hc : head.condition with
    | none => rfl
    | some c => simp only [Option.map_some, (hhead c hc).read]
  rw [Marker.line] at hopen
  rw [Template.nest, ho, Head.mark]
  dsimp only
  rw [hopen]
  rfl

/-- What is left of a text to be scanned: the empty lines `b` at its end. -/
structure Left (whole pre b : List Char) (p : Marker.Progress) : Prop where
  whole_eq : pre ++ b = whole
  blank : Blank b
  lines : WholeLines b
  progress : ∀ family, p.of family ≤ pre.length + b.length

/-- Reading text leaves the empty lines at its end. Between a marker that ends in the empty lines at
its start and one that begins in those left, there is the text less some white space. -/
theorem IsText.exists_left {s : List Char} (hs : IsText s) {pre k : List Char}
    {p : Marker.Progress} (hk : lineEnd? k = none)
    (hp : ∀ family, p.of family ≤ pre.length + emptyLines (s ++ k)) :
    ∃ pre' b, Left (pre ++ s) pre' b p ∧
      scanFrom p true pre.length (s ++ k) = scanFrom p true pre'.length (b ++ k) ∧
      ∀ start stop, pre.length ≤ start → start ≤ pre.length + emptyLines (s ++ k) →
        pre'.length ≤ stop → stop ≤ pre'.length + b.length →
          IsCore s (Text.slice (pre ++ (s ++ k)) start stop) := by
  obtain ⟨s, b, rfl, hb, hlines, hscan⟩ := Marker.exists_scanFrom_lines hs.1 hs.2 fun _ => rfl
  have hempty := Marker.emptyLines_le hk (s ++ b)
  refine ⟨pre ++ s, b, ⟨by simp, hb, hlines, fun family => ?_⟩, ?_, ?_⟩
  · have := hp family
    simp only [List.length_append] at this hempty ⊢
    omega
  · rw [hscan, List.length_append]
  · intro start stop hstart hstart' hstop hstop'
    rw [List.length_append] at hstop hstop'
    exact isCore_slice hb hk hstart hstart' hstop hstop'

/-! ### Reading lines of directives -/

/-- The text up to the end of the line of a directive. -/
def pastLine (whole indent words : List Char) : List Char :=
  whole ++ (indent ++ '@' :: (words ++ ['\n']))

section PastLine
variable {whole indent words : List Char}

theorem pastLine_append (rest : List Char) :
    pastLine whole indent words ++ rest = whole ++ (indent ++ '@' :: (words ++ '\n' :: rest)) := by
  simp [pastLine]

theorem length_pastLine : (pastLine whole indent words).length =
    whole.length + indent.length + words.length + 2 := by
  simp only [pastLine, List.length_append, List.length_cons, List.length_nil]
  omega

theorem count_pastLine (hindent : '\n' ∉ indent) (hwords : '\n' ∉ words) :
    (pastLine whole indent words).count '\n' = whole.count '\n' + 1 := by
  simp [pastLine, List.count_eq_zero.mpr hindent, List.count_eq_zero.mpr hwords]

/-- The marker `m` of a directive, on an indented line between a text whose end `b` is blank and the
rest `r`: it begins in the empty lines before it and ends in those after it, and no family comes
further. -/
structure Stands (whole pre b indent words r : List Char) (m : Marker) (p : Marker.Progress) :
    Prop where
  le_start : pre.length ≤ m.start
  start_le : m.start ≤ pre.length + b.length
  sign_eq : m.sign = (whole ++ indent).length
  stop_eq : m.stop = (pastLine whole indent words).length + emptyLines r
  progress : ∀ family, p.of family ≤ (pastLine whole indent words).length + emptyLines r

/-- **Reading the line of a directive** gives its marker. -/
theorem Left.exists_marker {pre b r : List Char} {p : Marker.Progress} (h : Left whole pre b p)
    {family : Marker.Family} {mark : Mark} (hindent : IsIndent indent)
    (hline : family.line? ('@' :: (words ++ '\n' :: r)) = some (mark, afterLines r))
    (hat : '@' ∉ words) (hbreak : '\n' ∉ words) :
    ∃ m p', m.mark = mark ∧ Stands whole pre b indent words r m p' ∧
      scanFrom p true pre.length (b ++ (indent ++ '@' :: (words ++ '\n' :: r))) =
        m :: scanFrom p' true (pastLine whole indent words).length r := by
  obtain ⟨m, hmark, hle, hstart, hsign, hstop, hscan⟩ :=
    Marker.exists_scanFrom_directive hline hat hbreak h.blank h.lines hindent.1 (h.progress family)
  have hlen := congrArg List.length h.whole_eq
  rw [List.length_append] at hlen
  have hpast : (pastLine whole indent words).length = m.sign + words.length + 2 := by
    rw [length_pastLine]; omega
  have hstop' : m.stop = (pastLine whole indent words).length + emptyLines r := by
    rw [hpast]; exact hstop
  refine ⟨m, p.advance m.stop family, hmark, ⟨hle, hstart, ?_, hstop', ?_⟩, ?_⟩
  · rw [List.length_append]; omega
  · exact Marker.Progress.of_advance_le (fun family => by have := h.progress family; omega)
      hstop'.le family
  · rw [hscan, hpast]

theorem Stands.line_eq {pre b r : List Char} {m : Marker} {p : Marker.Progress}
    (h : Stands whole pre b indent words r m p) (hindent : '\n' ∉ indent) (rest : List Char) :
    m.line (whole ++ (indent ++ rest)) = whole.count '\n' + 1 := by
  have htake : (whole ++ (indent ++ rest)).take m.sign = whole ++ indent := by
    rw [h.sign_eq, ← List.append_assoc, List.take_left]
  rw [Marker.line, Text.lineAt, htake, List.count_append, List.count_eq_zero.mpr hindent,
    Nat.add_zero]

end PastLine

/-! ### Reading layouts -/

/-- Between its two markers, what a directive encloses adds its controls to the frame of the
directive. -/
theorem nest_directive {text : List Char} {head : Head} {o c : Marker} {children : List Control}
    {ms ms' : List Marker} (hcondition : ∀ c, head.condition = some c → c.Formed)
    (ho : o.mark = head.mark) (hc : c.mark = .closes head.kind.tag)
    (hinside : ∀ stack done, Template.nest text stack done ms =
      Template.nest text (Template.grow stack done children).1
        (Template.grow stack done children).2 (c :: ms')) (stack : List Template.Frame)
    (done : List Control) :
    Template.nest text stack done (o :: ms) =
      Template.nest text
        (Template.grow stack done
          [.node head.kind head.condition o c (o.line text) children]).1
        (Template.grow stack done
          [.node head.kind head.condition o c (o.line text) children]).2 ms' := by
  let frame : Template.Frame := ⟨head.kind, head.condition, o, o.line text, []⟩
  calc Template.nest text stack done (o :: ms)
      = Template.nest text (frame :: stack) done ms := nest_head hcondition ho text stack done ms
    _ = Template.nest text ({ frame with children := children } :: stack) done (c :: ms') := by
        rw [hinside]
        rfl
    _ = _ := Template.nest_closes (f := { frame with children := children }) hc stack done ms'

/-- **Reading a layout**, before any text that begins with no empty line, adds the controls that it
describes. The last marker before it ends at `start`, in the empty lines with which the text of the
layout begins, and no family has come further. -/
theorem nest_layout {text : List Char} {l : Layout} (h : l.Formed) :
    ∀ {pre k : List Char} {p : Marker.Progress} {start : Nat}, text = pre ++ (l.print ++ k) →
      lineEnd? k = none → pre.length ≤ start → start ≤ pre.length + emptyLines (l.print ++ k) →
      (∀ family, p.of family ≤ pre.length + emptyLines (l.print ++ k)) →
        ∃ controls pre' b p', Left (pre ++ l.print) pre' b p' ∧
          (∀ stop, pre'.length ≤ stop → stop ≤ pre'.length + b.length →
            Describes text (pre.count '\n' + 1) start stop l controls) ∧
          ∀ stack done, Template.nest text stack done (scanFrom p true pre.length (l.print ++ k)) =
            Template.nest text (Template.grow stack done controls).1
              (Template.grow stack done controls).2 (scanFrom p' true pre'.length (b ++ k)) := by
  induction h with
  | text hs =>
    intro pre k p start htext hk hstart hstart' hp
    obtain ⟨pre', b, hleft, hscan, hcore⟩ := hs.exists_left hk hp
    refine ⟨[], pre', b, p, hleft, fun stop hstop hstop' => ?_, fun stack done => ?_⟩
    · rw [htext]
      exact .text (hcore start stop hstart hstart' hstop hstop')
    · rw [Template.grow_nil, print, hscan]
  | @directive before opening closing head inside after hbefore hopening hclosing hhead hinside _
      ihinside ihafter =>
    intro pre k p start htext hk hstart hstart' hp
    -- The text before the directive, and its opening marker.
    let tail := closing ++ '@' :: (head.kind.endWords ++ '\n' :: (after.print ++ k))
    have hprint : print (.directive before head opening closing inside after) ++ k =
        before ++ (opening ++ '@' :: (head.words ++ '\n' :: (inside.print ++ tail))) := by
      simp [print, tail]
    rw [hprint] at htext hstart' hp ⊢
    have hnone {indent words : List Char} (hindent : IsIndent indent) :
        lineEnd? (indent ++ '@' :: words) = none :=
      Marker.lineEnd?_indent (by simp; decide) hindent.2
    obtain ⟨pre₀, b₀, hleft₀, hscan₀, hcore⟩ := hbefore.exists_left (hnone hopening) hp
    have hformed : head.Formed (inside.print ++ tail) :=
      ⟨hhead.condition, fun kind hkind =>
        not_where_append hinside.wholeLines_print (hhead.noWhere kind hkind) hclosing.1 _⟩
    obtain ⟨hat, hbreak⟩ := hformed.words_line
    obtain ⟨o, p₁, homark, ho, hscano⟩ :=
      hleft₀.exists_marker hopening hformed.line? hat hbreak
    -- The layout inside it, and its closing marker.
    let past := pastLine (pre ++ before) opening head.words
    have htext₁ : text = past ++ (inside.print ++ tail) := by
      rw [htext, pastLine_append, List.append_assoc]
    have hle₁ : past.length ≤ o.stop := by rw [ho.stop_eq]; exact Nat.le_add_right _ _
    obtain ⟨children, pre₁, b₁, p₂, hleft₁, hdescribes₁, hscan₁⟩ :=
      ihinside htext₁ (hnone hclosing) hle₁ ho.stop_eq.le ho.progress
    obtain ⟨hendAt, hendBreak⟩ := head.kind.endWords_line
    obtain ⟨c, p₃, hcmark, hc, hscanc⟩ := hleft₁.exists_marker hclosing
      (Marker.line?_end head.kind (after.print ++ k)) hendAt hendBreak
    -- The layout after it.
    let past' := pastLine (past ++ inside.print) closing head.kind.endWords
    have htext₂ : text = past' ++ (after.print ++ k) := by
      rw [htext₁]; simp [past', pastLine, tail]
    have hle₂ : past'.length ≤ c.stop := by rw [hc.stop_eq]; exact Nat.le_add_right _ _
    obtain ⟨rest, pre₂, b₂, p₄, hleft₂, hdescribes₂, hscan₂⟩ :=
      ihafter htext₂ hk hle₂ hc.stop_eq.le hc.progress
    -- The control of the directive.
    have hcount : past.count '\n' + 1 = pre.count '\n' + 1 + before.count '\n' + 1 := by
      rw [count_pastLine hopening.2 hbreak, List.count_append]; omega
    have hcount' : past'.count '\n' + 1 =
        pre.count '\n' + 1 + before.count '\n' + 1 + inside.print.count '\n' + 1 := by
      rw [count_pastLine hclosing.2 hendBreak, List.count_append]; omega
    have hline : o.line text = pre.count '\n' + 1 + before.count '\n' := by
      rw [htext, ← List.append_assoc, ho.line_eq hopening.2, List.count_append]; omega
    rw [hcount] at hdescribes₁
    rw [hcount'] at hdescribes₂
    refine ⟨.node head.kind head.condition o c (o.line text) children :: rest, pre₂, b₂, p₄, ?_,
      fun stop hstop hstop' => ?_, fun stack done => ?_⟩
    · have hwhole : pre ++ print (.directive before head opening closing inside after) =
          past' ++ after.print := by simp [print, past, past', pastLine]
      rw [hwhole]
      exact hleft₂
    · have hbetween : IsCore before (Text.slice text start o.start) := by
        rw [htext]
        exact hcore start o.start hstart hstart' ho.le_start ho.start_le
      rw [hline]
      exact .directive hbetween (hdescribes₁ c.start hc.le_start hc.start_le)
        (hdescribes₂ stop hstop hstop')
    · have henclosed (stack : List Template.Frame) (done : List Control) :=
        (hscan₁ stack done).trans (congrArg (Template.nest text _ _) hscanc)
      rw [hscan₀, hscano, nest_directive hhead.condition homark hcmark henclosed, hscan₂,
        Template.grow_grow]
      rfl

end Layout

/-- **The text of a layout is a template**, whose controls are those of the layout. -/
theorem Template.exists_parse_print {l : Layout} (h : l.Formed) :
    ∃ controls, parse l.print = .ok ⟨l.print, controls⟩ ∧
      l.Describes l.print 1 0 l.print.length controls := by
  have htext : l.print = [] ++ (l.print ++ []) := by simp
  obtain ⟨controls, pre, b, p, hleft, hdescribes, hnest⟩ :=
    Layout.nest_layout h htext rfl (Nat.le_refl 0) (Nat.zero_le _)
      (p := ⟨0, 0, 0⟩) (fun family => by cases family <;> exact Nat.zero_le _)
  have hlen := congrArg List.length hleft.whole_eq
  rw [List.nil_append, List.length_append] at hlen
  refine ⟨controls, ?_, hdescribes _ (by omega) (by omega)⟩
  have hread : nest l.print [] [] (Marker.scan l.print) = .ok controls := by
    have hgrown := hnest [] []
    rw [List.append_nil, List.append_nil, Marker.scanFrom_blank p hleft.blank] at hgrown
    exact hgrown
  rw [parse, hread]

end LayerStencil
