import LayerStencil.Proofs.Failure
import LayerStencil.Proofs.Template.Layout

/-! # Loops inside a line

A loop whose markers stand inside a line keeps the condition after its tag only if a word character
follows the closing parenthesis. Before any other character the marker ends at an earlier
parenthesis, or it ends after the tag, and what is left of the condition is text of the loop.

* `Marker.scanFrom_inline`: the scan of an inline marker.
* `Marker.inlineMark`: what the marker of a loop reads where a condition may follow its tag.
* `scan_inlineLoop`: the markers of a line with a loop in it.
* `Template.parse_pair`: reading a text with two markers.
* `Template.parse_inlineLoop_iff`: when the loop keeps its condition. -/

namespace LayerStencil

/-- The text that opens a loop with a condition, after its at sign. -/
def ControlKind.whereWords (kind : ControlKind) (condition : List Char) : List Char :=
  'f' :: 'o' :: 'r' :: 'e' :: 'a' :: 'c' :: 'h' :: ' ' ::
    (kind.tag.toList ++ ' ' :: (Marker.whereWord ++ (condition ++ [')'])))

theorem ControlKind.whereWords_line (kind : ControlKind) {condition : List Char}
    (hat : '@' ∉ condition) (hbreak : '\n' ∉ condition) :
    '@' ∉ kind.whereWords condition ∧ '\n' ∉ kind.whereWords condition := by
  obtain ⟨htag, htag'⟩ := kind.endWords_line
  simp only [ControlKind.endWords, List.mem_cons, not_or] at htag htag'
  simp [ControlKind.whereWords, Marker.whereWord, hat, hbreak, htag, htag']

namespace Marker

/-! ### Conditions inside a line -/

theorem condition?_eq_none {ends : List Char → Option (List Char)} {cs : List Char}
    (hcs : ')' ∉ cs) : condition? ends cs = none := by
  refine Option.eq_none_iff_forall_ne_some.mpr ?_
  rintro ⟨condition, rest⟩ h
  obtain ⟨r, rfl, -⟩ := exists_of_condition? h
  exact hcs (List.mem_append_right _ List.mem_cons_self)

/-- What the marker of an inline loop says and leaves, where a condition may follow its tag, and
`cs` is what follows the opening parenthesis. -/
def inlineMark (kind : ControlKind) (cs : List Char) : Mark × List Char :=
  match condition? wordStart? cs with
  | some (condition, rest) => (.opens kind.tag (some condition), rest)
  | none => (.opens kind.tag none, ' ' :: (whereWord ++ cs))

theorem exists_inlineMark (kind : ControlKind) (cs : List Char) :
    ∃ condition, (inlineMark kind cs).1 = .opens kind.tag condition := by
  unfold inlineMark
  split
  · exact ⟨_, rfl⟩
  · exact ⟨_, rfl⟩

section InlineMark
variable (kind : ControlKind) {condition tail : List Char}

theorem inlineMark_of_startsWord (hbreak : '\n' ∉ condition) (htail : ')' ∉ tail)
    (hstarts : startsWord tail) :
    inlineMark kind (condition ++ ')' :: tail) = (.opens kind.tag (some condition), tail) := by
  have hends : wordStart? tail = some tail := if_pos hstarts
  rw [inlineMark, condition?_last hends (condition?_eq_none htail) hbreak]

variable {kind} in
/-- If the marker ends after the last parenthesis, then a word character follows. -/
theorem startsWord_of_inlineMark
    (h : (inlineMark kind (condition ++ ')' :: tail)).2.length = tail.length) :
    startsWord tail := by
  unfold inlineMark at h
  split at h
  · rename_i condition' rest hread
    obtain ⟨r, hr, hends⟩ := exists_of_condition? hread
    unfold wordStart? at hends
    split at hends <;> cases hends
    rename_i hstarts
    have hlen : (')' :: tail).length = (')' :: rest).length := congrArg (· + 1) h.symm
    rw [(List.cons.inj (List.append_inj_right' hr hlen)).2]
    exact hstarts
  · simp only [List.length_cons, List.length_append] at h
    omega

end InlineMark

/-! ### How inline markers read -/

theorem inline?_where (kind : ControlKind) (condition tail : List Char) :
    Family.loop.inline? ('@' :: (kind.whereWords condition ++ tail)) =
      some (inlineMark kind (condition ++ ')' :: tail)) := by
  have hwords : '@' :: (kind.whereWords condition ++ tail) =
      '@' :: 'f' :: 'o' :: 'r' :: 'e' :: 'a' :: 'c' :: 'h' :: ' ' ::
        (kind.tag.toList ++ ' ' :: (whereWord ++ (condition ++ ')' :: tail))) := by
    simp [ControlKind.whereWords]
  generalize condition ++ ')' :: tail = cs at hwords ⊢
  rw [hwords]
  have htag := tag?_tag kind (' ' :: (whereWord ++ cs)) (by simp; decide)
  have hend : wordEnd? (' ' :: (whereWord ++ cs)) = some (' ' :: (whereWord ++ cs)) :=
    if_neg Bool.false_ne_true
  simp only [Family.inline?, loop?, Text.after?, if_true, space?, htag, where?_word, hend,
    Option.bind_eq_bind, Option.bind_some, Option.map_some, inlineMark]
  cases condition? wordStart? cs <;> rfl

theorem inline?_end (kind : ControlKind) :
    Family.close.inline? ('@' :: kind.endWords) = some (.closes kind.tag, []) := by
  have htag := tag?_tag kind [] (by simp)
  rw [List.append_nil] at htag
  simp only [Family.inline?, ControlKind.endWords, close?, Text.after?, if_true, space?, htag,
    Option.bind_eq_bind, Option.bind_some]
  rfl

/-- **An inline marker** is found at its at sign, if its family has come no further. -/
theorem scanFrom_inline {family : Family} {t rest : List Char} {mark : Mark}
    (hinline : family.inline? ('@' :: t) = some (mark, rest)) {p : Progress} {i : Nat}
    (hp : p.of family ≤ i) : ∃ m : Marker, m.mark = mark ∧ m.start = i ∧
      m.stop + rest.length = i + ('@' :: t).length ∧
      scanFrom p false i ('@' :: t) = m :: scanFrom (p.advance m.stop family) false (i + 1) t := by
  obtain ⟨r, hlead, hrest⟩ := Family.lead_inline? hinline
  have hle : rest.length ≤ ('@' :: t).length := by
    rw [hlead, List.length_append]
    exact Nat.le_add_left_of_le hrest.length_le
  have hmarker : p.marker? family false i ('@' :: t) =
      some ⟨i, i + (('@' :: t).length - rest.length), i, mark⟩ := by
    simp only [Progress.marker?, if_pos hp, Family.marker?, Bool.false_eq_true, if_false, hinline]
  have hnext := next?_lead hlead p (s := []) (List.forall_mem_nil _) false i
  rw [List.nil_append, hmarker, Option.map_some] at hnext
  refine ⟨⟨i, i + (('@' :: t).length - rest.length), i, mark⟩, rfl, rfl, ?_, ?_⟩
  · dsimp only; omega
  · rw [scanFrom, hnext]; rfl

end Marker

/-! ### A line with a loop in it -/

open Marker (exists_inlineMark inlineMark scanFrom_inline scanFrom_quiet scanFrom_sameLine
  startsWord)

/-- A loop with a condition, opened inside a line. -/
def inlineHead (kind : ControlKind) (condition : List Char) : List Char :=
  'x' :: ' ' :: '@' :: kind.whereWords condition

/-- The text of a loop with a space, and the end of the loop. -/
def inlineTail (kind : ControlKind) (body : List Char) : List Char :=
  body ++ ' ' :: '@' :: kind.endWords

/-- A line with a loop in it. -/
def inlineLoop (kind : ControlKind) (condition body : List Char) : List Char :=
  inlineHead kind condition ++ inlineTail kind body

section InlineLoop
variable (kind : ControlKind) {condition body : List Char}

theorem startsWord_inlineTail : startsWord (inlineTail kind body) = startsWord body := by
  cases body with
  | nil => exact (by decide : Text.isWordChar ' ' = false)
  | cons c body => rfl

theorem not_paren_inlineTail (hbody : ')' ∉ body) : ')' ∉ inlineTail kind body := by
  have htag : ')' ∉ kind.tag.toList := fun hmem =>
    absurd ((Marker.tag_letters kind).2 _ hmem).1 (by decide)
  simp [inlineTail, ControlKind.endWords, hbody, htag]

/-- The word at the start of the line and the space after it hold no marker. -/
theorem scan_afterWord (r : List Char) :
    Marker.scan ('x' :: ' ' :: r) = Marker.scanFrom ⟨0, 0, 0⟩ false 2 r := by
  have hword : (('x' :: ' ' :: r).dropWhile Text.isWhiteSpace).head? ≠ some '@' := by
    rw [List.dropWhile_cons_of_neg (by decide)]
    simp
  rw [Marker.scan, scanFrom_quiet _ _ (by decide) fun _ => hword,
    scanFrom_quiet _ _ (by decide) (by simp)]
  rfl

/-- **The markers of the line** are those of the loop. -/
theorem scan_inlineLoop (hat : '@' ∉ condition) (hbreak : '\n' ∉ condition) (hat' : '@' ∉ body)
    (hbreak' : '\n' ∉ body) : ∃ o c : Marker,
      Marker.scan (inlineLoop kind condition body) = [o, c] ∧
      o.mark = (inlineMark kind (condition ++ ')' :: inlineTail kind body)).1 ∧
      o.stop + (inlineMark kind (condition ++ ')' :: inlineTail kind body)).2.length =
        (inlineLoop kind condition body).length ∧
      c.mark = .closes kind.tag ∧
      c.start = (inlineHead kind condition).length + body.length + 1 := by
  obtain ⟨hwords, hwords'⟩ := kind.whereWords_line hat hbreak
  obtain ⟨hend, hend'⟩ := kind.endWords_line
  have hopen : Marker.Family.loop.inline? ('@' :: (kind.whereWords condition ++
      inlineTail kind body)) = some ((inlineMark kind (condition ++ ')' :: inlineTail kind body)).1,
        (inlineMark kind (condition ++ ')' :: inlineTail kind body)).2) :=
    Marker.inline?_where kind condition _
  obtain ⟨o, ho, -, hstop, hscan⟩ := scanFrom_inline hopen (p := ⟨0, 0, 0⟩) (i := 2) (Nat.zero_le _)
  obtain ⟨c, hc, hstart, -, hscan'⟩ := scanFrom_inline (Marker.inline?_end kind)
    (p := Marker.Progress.advance ⟨0, 0, 0⟩ o.stop .loop)
    (i := 3 + (kind.whereWords condition ++ (body ++ [' '])).length) (Nat.zero_le _)
  refine ⟨o, c, ?_, ho, ?_, hc, ?_⟩
  · -- Nothing is found between the two at signs, nor after the second one.
    have htail : kind.whereWords condition ++ inlineTail kind body =
        kind.whereWords condition ++ (body ++ [' ']) ++ '@' :: kind.endWords := by
      simp [inlineTail]
    have hrest := scanFrom_sameLine (((Marker.Progress.mk 0 0 0).advance o.stop .loop).advance
      c.stop .close) [] hend hend' (3 + (kind.whereWords condition ++ (body ++ [' '])).length + 1)
    rw [List.append_nil] at hrest
    show Marker.scan ('x' :: ' ' :: '@' :: (kind.whereWords condition ++ inlineTail kind body)) = _
    rw [scan_afterWord, hscan, htail, scanFrom_sameLine _ _ (by simp [hwords, hat'])
      (by simp [hwords', hbreak']), hscan', hrest]
    rfl
  · rw [hstop, inlineLoop, inlineHead]
    simp only [List.length_cons, List.length_append]
    omega
  · rw [hstart, inlineHead]
    simp only [List.length_cons, List.length_append, List.length_nil]
    omega

end InlineLoop

/-! ### Reading the line -/

namespace Template

theorem exists_of_open? {kind : ControlKind} {condition : Option (List Char)} {m : Marker}
    {line : Nat} {f : Frame} (h : Frame.open? kind.tag condition m line = .ok f) :
    ∃ c, f = ⟨kind, c, m, line, []⟩ := by
  unfold Frame.open? at h
  rw [ControlKind.ofTag?_eq_some_iff.mpr rfl] at h
  dsimp only at h
  split at h
  · cases h; exact ⟨none, rfl⟩
  · split at h
    · cases h
    · rename_i c _; cases h; exact ⟨some c, rfl⟩

/-- A text with two markers, the second of which closes what the first opens. -/
theorem parse_pair {text : List Char} {o c : Marker} {kind : ControlKind}
    {condition : Option (List Char)} (hscan : Marker.scan text = [o, c])
    (ho : o.mark = .opens kind.tag condition) (hc : c.mark = .closes kind.tag) :
    parse text = (Frame.open? kind.tag condition o (o.line text)).map fun f =>
      ⟨text, [f.close c]⟩ := by
  have hnest : nest text [] [] [o, c] =
      (Frame.open? kind.tag condition o (o.line text)).map fun f => [f.close c] := by
    rw [nest, ho]
    dsimp only
    rw [← Marker.line]
    cases hopen : Frame.open? kind.tag condition o (o.line text) with
    | error e => rfl
    | ok f =>
      obtain ⟨read, rfl⟩ := exists_of_open? hopen
      exact nest_closes (f := ⟨kind, read, o, o.line text, []⟩) hc [] [] []
  rw [parse, hscan, hnest]
  cases Frame.open? kind.tag condition o (o.line text) <;> rfl

/-- **An inline loop keeps its condition** if and only if its text starts with a word character: the
marker then ends after the closing parenthesis, and the text of the loop is what follows. -/
theorem parse_inlineLoop_iff (kind : ControlKind) {c : Condition} (hc : c.Formed)
    {body : List Char} (hbreak : '\n' ∉ body) (hat : '@' ∉ body) (hparen : ')' ∉ body) :
    (∃ control, parse (inlineLoop kind c.text body) =
        .ok ⟨inlineLoop kind c.text body, [control]⟩ ∧
      control.kind = kind ∧ control.condition = some c ∧ control.children = [] ∧
      control.opening.stop = (inlineHead kind c.text).length ∧
      Text.slice (inlineLoop kind c.text body) control.opening.stop control.closing.start =
        body ++ [' ']) ↔ startsWord body := by
  obtain ⟨o, close, hscan, ho, hstop, hclose, hstart⟩ :=
    scan_inlineLoop kind hc.not_at hc.oneLine hat hbreak
  rw [← startsWord_inlineTail kind]
  constructor
  · rintro ⟨control, hparse, -, -, -, hopening, -⟩
    obtain ⟨condition, hmark⟩ := exists_inlineMark kind (c.text ++ ')' :: inlineTail kind body)
    rw [parse_pair hscan (ho.trans hmark) hclose] at hparse
    obtain ⟨f, hopen, he⟩ := exists_of_map_eq_ok hparse
    obtain ⟨read, rfl⟩ := exists_of_open? hopen
    cases he
    -- The marker leaves as much of the line as there is after the last parenthesis.
    have hopening : o.stop = (inlineHead kind c.text).length := hopening
    rw [hopening, inlineLoop, List.length_append] at hstop
    exact Marker.startsWord_of_inlineMark (Nat.add_left_cancel hstop)
  · intro hstarts
    have hread := Marker.inlineMark_of_startsWord kind hc.oneLine
      (not_paren_inlineTail kind hparen) hstarts
    rw [hread] at ho hstop
    have hopening : o.stop = (inlineHead kind c.text).length := by
      rw [inlineLoop, List.length_append] at hstop
      exact Nat.add_right_cancel hstop
    have hopen : Frame.open? kind.tag (some c.text) o
        (o.line (inlineLoop kind c.text body)) =
          .ok ⟨kind, some c, o, o.line (inlineLoop kind c.text body), []⟩ := by
      simp only [Frame.open?, ControlKind.ofTag?_eq_some_iff.mpr rfl, hc.read]
    refine ⟨Frame.close ⟨kind, some c, o, o.line (inlineLoop kind c.text body), []⟩ close, ?_, rfl,
      rfl, rfl, hopening, ?_⟩
    · rw [parse_pair hscan ho hclose, hopen]; rfl
    · show Text.slice _ o.stop close.start = _
      have hbody : inlineLoop kind c.text body =
          inlineHead kind c.text ++ ((body ++ [' ']) ++ '@' :: kind.endWords) := by
        simp [inlineLoop, inlineTail]
      rw [hopening, hstart, Text.slice, hbody, List.drop_left, Nat.add_assoc,
        Nat.add_sub_cancel_left, List.take_left' (by simp)]

/-- The condition that holds of commands without a result. -/
def isVoid : Condition where
  text := "{funcIsVoid}".toList
  expr := .field "funcIsVoid"

theorem formed_isVoid : isVoid.Formed := ⟨by cbv, by decide, by decide⟩

/-- Before a word the loop keeps its condition. -/
theorem parse_inlineLoop_word : isVoid.Formed ∧
    inlineLoop (.each .command) isVoid.text "void {funcName}".toList =
      "x @foreach function where({funcIsVoid})void {funcName} @end function".toList ∧
    ∃ control, parse (inlineLoop (.each .command) isVoid.text "void {funcName}".toList) =
        .ok ⟨inlineLoop (.each .command) isVoid.text "void {funcName}".toList, [control]⟩ ∧
      control.kind = .each .command ∧ control.condition = some isVoid ∧ control.children = [] ∧
      control.opening.stop = (inlineHead (.each .command) isVoid.text).length ∧
      Text.slice (inlineLoop (.each .command) isVoid.text "void {funcName}".toList)
        control.opening.stop control.closing.start = "void {funcName}".toList ++ [' '] :=
  ⟨formed_isVoid, by decide +kernel, (parse_inlineLoop_iff (.each .command) formed_isVoid
    (by decide) (by decide) (by decide)).mpr (by decide)⟩

/-- **A loop without its condition**: before a space the condition becomes text of the loop. -/
theorem parse_inlineLoop_space : isVoid.Formed ∧
    inlineLoop (.each .command) isVoid.text " {funcName}".toList =
      "x @foreach function where({funcIsVoid}) {funcName} @end function".toList ∧
    ∃ control, parse (inlineLoop (.each .command) isVoid.text " {funcName}".toList) =
        .ok ⟨inlineLoop (.each .command) isVoid.text " {funcName}".toList, [control]⟩ ∧
      control.condition.isNone ∧
      Text.slice (inlineLoop (.each .command) isVoid.text " {funcName}".toList)
        control.opening.stop control.closing.start =
          " where({funcIsVoid}) {funcName} ".toList := by
  refine ⟨formed_isVoid, by decide +kernel, ?_⟩
  have hread : (parse (inlineLoop (.each .command) isVoid.text " {funcName}".toList)).map
      (fun t => (t.text, t.controls.map fun control => (control.condition.isNone,
        Text.slice t.text control.opening.stop control.closing.start))) =
      .ok (inlineLoop (.each .command) isVoid.text " {funcName}".toList,
        [(true, " where({funcIsVoid}) {funcName} ".toList)]) := by decide +kernel
  obtain ⟨⟨text, controls⟩, hparse, he⟩ := exists_of_map_eq_ok hread
  obtain ⟨rfl, hcontrols⟩ := Prod.mk.inj he
  obtain ⟨control, rfl, hcontrol⟩ := List.map_eq_singleton_iff.mp hcontrols
  obtain ⟨hcondition, hslice⟩ := Prod.mk.inj hcontrol
  exact ⟨control, hparse, hcondition, hslice⟩

end Template

end LayerStencil
