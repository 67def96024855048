import LayerStencil.Proofs.Segment.Unread
import LayerStencil.Proofs.Template.Stretch
import LayerStencil.Proofs.Text.Lines

/-! # The step at which an expansion fails

On its way an expansion asks for the items that a control visits, for whether the control keeps an
item, and for the text that a stretch becomes. It goes on as long as it gets what it asks for, and
ends with the error of the first step that fails.

* `Template.Reaches`: the expansion comes to a step, with the items visited around it.
* `Template.expand_eq_error_iff`: the errors of an expansion are those of the steps it comes to.
* `Segment.exists_of_substitute_eq_unbound`, `Template.exists_unboundAt`: a text that misses a value
  is one that can be filled, followed by the field that has none.
* `Template.line_of_unbound_iff`: such a field is reported with the line on which the stretch around
  it begins. This need not be the line of the field: `Template.not_infix_line_of_misplaced`. -/

namespace LayerStencil

namespace Template

/-! ### Steps -/

/-- What an expansion asks for on its way, with the items visited around it. -/
inductive Step where
  /-- The items that a control visits. -/
  | visit (c : Control) (scope : Scope)
  /-- Whether a control keeps the first item of the scope. -/
  | test (c : Control) (scope : Scope)
  /-- The text of a stretch. -/
  | fill (g : Stretch) (scope : Scope)

/-- The step gives an error instead of what it asks for. -/
def Step.FailsWith (m : Model) (text : List Char) (e : ExpandError) : Step → Prop
  | visit c scope => ∃ kind, m.domain scope c.kind = .error kind ∧ e = .missingOwner kind c.line
  | test c scope => keeps c.condition c.line scope.values = .error e
  | fill g scope => Template.fill text scope.values g.start g.stop = .error e

/-- What a control does with an item: the events of its body if it keeps the item. -/
def visitItem (m : Model) (text : List Char) (scope : Scope) (c : Control) (item : Item) :
    Except ExpandError (Option (List Event)) := do
  if ← keeps c.condition c.line (Scope.values (item :: scope)) then
    let body ← expandBody m text (item :: scope) (Scope.values (item :: scope)) c.opening.stop
      c.closing.start c.children
    return some (guarded (m.guardFor? item) body)
  else
    return none

mutual

/-- Expanding the control in the scope comes to the step: all that it does before succeeds. -/
inductive ControlReaches (m : Model) (text : List Char) : Scope → Control → Step → Prop
  | visit {scope : Scope} {c : Control} : ControlReaches m text scope c (.visit c scope)
  | test {scope : Scope} {c : Control} {before after : List Item} {item : Item}
      (hitems : m.domain scope c.kind = .ok (before ++ item :: after))
      (hbefore : ∀ i ∈ before, ∃ r, visitItem m text scope c i = .ok r) :
      ControlReaches m text scope c (.test c (item :: scope))
  | body {scope : Scope} {c : Control} {before after : List Item} {item : Item} {step : Step}
      (hitems : m.domain scope c.kind = .ok (before ++ item :: after))
      (hbefore : ∀ i ∈ before, ∃ r, visitItem m text scope c i = .ok r)
      (hkeeps : keeps c.condition c.line (Scope.values (item :: scope)) = .ok true)
      (h : BodyReaches m text (item :: scope) c.opening.stop c.closing.start c.children step) :
      ControlReaches m text scope c step

/-- Expanding the text from `start` up to `stop` in the scope comes to the step. -/
inductive BodyReaches (m : Model) (text : List Char) :
    Scope → Nat → Nat → List Control → Step → Prop
  | last {scope : Scope} {start stop : Nat} :
      BodyReaches m text scope start stop [] (.fill ⟨start, stop⟩ scope)
  | text {scope : Scope} {start stop : Nat} {c : Control} {cs : List Control} :
      BodyReaches m text scope start stop (c :: cs) (.fill ⟨start, c.opening.start⟩ scope)
  | control {scope : Scope} {start stop : Nat} {c : Control} {cs : List Control} {step : Step}
      (hfill : ∃ s, fill text scope.values start c.opening.start = .ok s)
      (h : ControlReaches m text scope c step) : BodyReaches m text scope start stop (c :: cs) step
  | rest {scope : Scope} {start stop : Nat} {c : Control} {cs : List Control} {step : Step}
      (hfill : ∃ s, fill text scope.values start c.opening.start = .ok s)
      (hcontrol : ∃ events, expandControl m text scope c = .ok events)
      (h : BodyReaches m text scope c.closing.stop stop cs step) :
      BodyReaches m text scope start stop (c :: cs) step

end

/-- Expanding the template comes to the step. -/
def Reaches (m : Model) (t : Template) (step : Step) : Prop :=
  BodyReaches m t.text [] 0 t.text.length t.controls step

/-! ### Errors of one visit -/

theorem visitAll_cons_eq_error_iff {visit : Item → Except ExpandError (Option (List Event))}
    {e : ExpandError} {item : Item} {items : List Item} :
    visitAll visit (item :: items) = .error e ↔
      visit item = .error e ∨ (∃ r, visit item = .ok r) ∧ visitAll visit items = .error e := by
  rw [visitAll]
  refine bind_eq_error_iff_of_forall fun here => bind_eq_error_iff_of_total fun _ => ?_
  cases here <;> exact ⟨_, rfl⟩

theorem visitAll_eq_error_iff {visit : Item → Except ExpandError (Option (List Event))}
    {e : ExpandError} {items : List Item} : visitAll visit items = .error e ↔
      ∃ before item after, items = before ++ item :: after ∧
        (∀ i ∈ before, ∃ r, visit i = .ok r) ∧ visit item = .error e := by
  induction items with
  | nil => simp [visitAll]
  | cons first items ih =>
    rw [visitAll_cons_eq_error_iff, ih]
    constructor
    · rintro (hfirst | ⟨hfirst, before, item, after, rfl, hbefore, hitem⟩)
      · exact ⟨[], first, items, rfl, List.forall_mem_nil _, hfirst⟩
      · exact ⟨first :: before, item, after, rfl,
          List.forall_mem_cons.mpr ⟨hfirst, hbefore⟩, hitem⟩
    · rintro ⟨before, item, after, hsplit, hbefore, hitem⟩
      rcases List.cons_eq_append_iff.mp hsplit with ⟨rfl, hfirst⟩ | ⟨before, rfl, rfl⟩
      · cases hfirst
        exact .inl hitem
      · obtain ⟨hfirst, hbefore⟩ := List.forall_mem_cons.mp hbefore
        exact .inr ⟨hfirst, before, item, after, rfl, hbefore, hitem⟩

section Errors
variable {m : Model} {text : List Char} {scope : Scope} {e : ExpandError}

theorem visitItem_eq_error_iff {c : Control} {item : Item} :
    visitItem m text scope c item = .error e ↔
      keeps c.condition c.line (Scope.values (item :: scope)) = .error e ∨
      keeps c.condition c.line (Scope.values (item :: scope)) = .ok true ∧
        expandBody m text (item :: scope) (Scope.values (item :: scope)) c.opening.stop
          c.closing.start c.children = .error e := by
  rw [visitItem, bind_eq_error_iff]
  refine or_congr_right ⟨?_, fun ⟨hkeeps, hbody⟩ => ⟨true, hkeeps, ?_⟩⟩
  · rintro ⟨keep, hkeeps, h⟩
    cases keep with
    | false => cases h
    | true => exact ⟨hkeeps, (bind_eq_error_iff_of_total fun _ => ⟨_, rfl⟩).mp h⟩
  · exact (bind_eq_error_iff_of_total fun _ => ⟨_, rfl⟩).mpr hbody

theorem expandControl_eq (m : Model) (text : List Char) (scope : Scope) (c : Control) :
    expandControl m text scope c =
      match m.domain scope c.kind with
      | .error kind => .error (.missingOwner kind c.line)
      | .ok items => do
        let (emitted, events) ← visitAll (visitItem m text scope c) items
        return events ++ [.tally ⟨c.opening.start, c.kind, c.line, items.length, emitted⟩] := by
  cases c
  rw [expandControl]
  rfl

theorem expandControl_eq_error_iff {c : Control} : expandControl m text scope c = .error e ↔
    (∃ kind, m.domain scope c.kind = .error kind ∧ e = .missingOwner kind c.line) ∨
    ∃ before item after, m.domain scope c.kind = .ok (before ++ item :: after) ∧
      (∀ i ∈ before, ∃ r, visitItem m text scope c i = .ok r) ∧
      visitItem m text scope c item = .error e := by
  rw [expandControl_eq]
  cases m.domain scope c.kind with
  | error kind => simp [eq_comm]
  | ok items =>
    simp only [reduceCtorEq, false_and, exists_false, false_or, Except.ok.injEq]
    rw [← visitAll_eq_error_iff]
    exact bind_eq_error_iff_of_total fun _ => ⟨_, rfl⟩

variable {start stop : Nat} {values : Values}

theorem expandBody_nil_eq_error_iff : expandBody m text scope values start stop [] = .error e ↔
    fill text values start stop = .error e := by
  rw [expandBody]
  exact bind_eq_error_iff_of_total fun _ => ⟨_, rfl⟩

theorem expandBody_cons_eq_error_iff {c : Control} {cs : List Control} :
    expandBody m text scope values start stop (c :: cs) = .error e ↔
      fill text values start c.opening.start = .error e ∨
      (∃ s, fill text values start c.opening.start = .ok s) ∧
        (expandControl m text scope c = .error e ∨
          (∃ events, expandControl m text scope c = .ok events) ∧
            expandBody m text scope values c.closing.stop stop cs = .error e) := by
  rw [expandBody]
  refine bind_eq_error_iff_of_forall fun _ => bind_eq_error_iff_of_forall fun _ => ?_
  exact bind_eq_error_iff_of_total fun _ => ⟨_, rfl⟩

end Errors

/-! ### Errors of an expansion -/

section Runs
variable {m : Model} {text : List Char} {e : ExpandError}

-- By recursion on the tree: a control fails as the first visit that fails, and the visit as the
-- condition or the body of the control; a body fails as the first of its pieces that fails.
mutual

theorem expandControl_eq_error_iff_reaches : ∀ (c : Control) (scope : Scope),
    expandControl m text scope c = .error e ↔
      ∃ step, ControlReaches m text scope c step ∧ step.FailsWith m text e
  | .node kind condition opening closing line children, scope => by
    have hbody (item : Item) :=
      expandBody_eq_error_iff_reaches children (item :: scope) opening.stop closing.start
    rw [expandControl_eq_error_iff]
    constructor
    · rintro (⟨kind, hkind, rfl⟩ | ⟨before, item, after, hitems, hbefore, hitem⟩)
      · exact ⟨_, .visit, kind, hkind, rfl⟩
      · rcases visitItem_eq_error_iff.mp hitem with hkeeps | ⟨hkeeps, hinside⟩
        · exact ⟨_, .test hitems hbefore, hkeeps⟩
        · obtain ⟨step, hreach, hfails⟩ := (hbody item).mp hinside
          exact ⟨step, .body hitems hbefore hkeeps hreach, hfails⟩
    · rintro ⟨step, hreach, hfails⟩
      cases hreach with
      | visit => exact .inl hfails
      | test hitems hbefore =>
        exact .inr ⟨_, _, _, hitems, hbefore, visitItem_eq_error_iff.mpr (.inl hfails)⟩
      | body hitems hbefore hkeeps h =>
        have hinside := (hbody _).mpr ⟨step, h, hfails⟩
        exact .inr ⟨_, _, _, hitems, hbefore, visitItem_eq_error_iff.mpr (.inr ⟨hkeeps, hinside⟩)⟩

theorem expandBody_eq_error_iff_reaches : ∀ (cs : List Control) (scope : Scope) (start stop : Nat),
    expandBody m text scope scope.values start stop cs = .error e ↔
      ∃ step, BodyReaches m text scope start stop cs step ∧ step.FailsWith m text e
  | [], scope, start, stop => by
    rw [expandBody_nil_eq_error_iff]
    constructor
    · exact fun h => ⟨_, .last, h⟩
    · rintro ⟨step, hreach, hfails⟩
      cases hreach
      exact hfails
  | c :: cs, scope, start, stop => by
    have hc := expandControl_eq_error_iff_reaches c scope
    have hcs := expandBody_eq_error_iff_reaches cs scope c.closing.stop stop
    rw [expandBody_cons_eq_error_iff, hc, hcs]
    constructor
    · rintro (h | ⟨hfill, ⟨step, hreach, hfails⟩ | ⟨hcontrol, step, hreach, hfails⟩⟩)
      · exact ⟨_, .text, h⟩
      · exact ⟨step, .control hfill hreach, hfails⟩
      · exact ⟨step, .rest hfill hcontrol hreach, hfails⟩
    · rintro ⟨step, hreach, hfails⟩
      cases hreach with
      | text => exact .inl hfails
      | control hfill h => exact .inr ⟨hfill, .inl ⟨step, h, hfails⟩⟩
      | rest hfill hcontrol h => exact .inr ⟨hfill, .inr ⟨hcontrol, step, h, hfails⟩⟩

end

/-- **An expansion fails at the step it cannot get past.** -/
theorem expand_eq_error_iff {t : Template} : t.expand m = .error e ↔
    ∃ step, t.Reaches m step ∧ step.FailsWith m t.text e :=
  expandBody_eq_error_iff_reaches t.controls [] 0 t.text.length

end Runs

end Template

/-! ### Fields without a value -/

namespace Segment

theorem newline_not_mem_written {name : String} (h : (field name).IsWritable) :
    '\n' ∉ (field name).written := by
  intro hmem
  have hname : '\n' ∈ name.toList := by simpa [written] using hmem
  exact absurd (h.2 _ hname) (by decide)

/-- Where substitution misses a value: the field stands behind a text that can be filled. -/
theorem exists_of_substitute_eq_unbound {values : Values} {cs : List Char} {name : String}
    (h : substitute values cs = .error (.unbound name)) :
    (field name).IsWritable ∧ values.get? name = none ∧
      ∃ read rest, cs = read ++ ((field name).written ++ rest) ∧
        ∃ out, substitute values read = .ok out := by
  rw [substitute_eq_error_iff] at h
  rcases h with ⟨cause, -, hcause⟩ | ⟨segs, first, hsegs, hunbound, hfirst⟩
  · cases hcause
  · cases hfirst
    obtain ⟨before, after, rfl, hbefore, hname⟩ := hunbound
    obtain ⟨hwritable, hencode⟩ := encode_of_segments hsegs
    obtain ⟨hread, hfield⟩ := List.forall_mem_append.mp hwritable
    refine ⟨hfield _ List.mem_cons_self, hname, encode before, encode after, ?_, ?_⟩
    · rw [← hencode, encode, List.flatMap_append, List.flatMap_cons]
      rfl
    · let value (other : String) : Value := (values.get? other).getD default
      have hvalue : ∀ other, field other ∈ before → values.get? other = some (value other) := by
        intro other hother
        obtain ⟨v, hv⟩ := Option.ne_none_iff_exists'.mp (hbefore other hother)
        simp [value, hv]
      have hreads : Reads value (fun other => values.get? other = some (value other))
          (encode before) _ := Reads.encode hread hvalue
      exact ⟨_, (substitute_eq_substituteSegments _ _).trans hreads.substituteSegments_eq⟩

end Segment

namespace Template

/-- The field stands at the position in the stretch and has no value; what is before it in the
stretch can be filled. -/
structure UnboundAt (text : List Char) (values : Values) (g : Stretch) (name : String) (p : Nat) :
    Prop where
  start_le : g.start ≤ p
  stop_le : p + (Segment.field name).written.length ≤ g.stop
  stands : Text.slice text p (p + (Segment.field name).written.length) =
    (Segment.field name).written
  filled : ∃ s, fill text values g.start p = .ok s
  unbound : values.get? name = none

section Unbound
variable {text : List Char} {values : Values} {g : Stretch} {name : String}

theorem fill_eq_ok_iff {start stop : Nat} {s : List Char} : fill text values start stop = .ok s ↔
    Segment.substitute values (Text.slice text start stop) = .ok s := by
  rw [fill]
  cases Segment.substitute values (Text.slice text start stop) with
  | ok s => simp
  | error e => cases e <;> simp

theorem fill_eq_unbound_iff {start stop line : Nat} :
    fill text values start stop = .error (.unbound name line) ↔
      Segment.substitute values (Text.slice text start stop) = .error (.unbound name) ∧
        Text.lineAt text start = line := by
  rw [fill]
  cases Segment.substitute values (Text.slice text start stop) with
  | ok s => simp
  | error e => cases e <;> simp

theorem exists_unboundAt
    (h : Segment.substitute values (Text.slice text g.start g.stop) = .error (.unbound name)) :
    (Segment.field name).IsWritable ∧ ∃ p, UnboundAt text values g name p := by
  obtain ⟨hfield, hname, read, rest, hslice, out, hout⟩ := Segment.exists_of_substitute_eq_unbound h
  -- The stretch is long enough for the field, so its bounds are not inverted.
  have hlength : read.length + (Segment.field name).written.length ≤ g.stop - g.start := by
    have hle := congrArg List.length hslice
    rw [Text.slice, List.length_take, List.length_append, List.length_append] at hle
    omega
  have hpos : 0 < (Segment.field name).written.length := by simp [Segment.written]
  have hfield_at := Text.slice_middle read (Segment.field name).written rest
  have hread_at := Text.slice_middle [] read ((Segment.field name).written ++ rest)
  rw [← hslice, Text.slice_slice text (by omega), ← Nat.add_assoc] at hfield_at
  rw [List.nil_append, ← hslice, Text.slice_slice text (by simp; omega)] at hread_at
  refine ⟨hfield, g.start + read.length, Nat.le_add_right _ _, by omega, hfield_at, ⟨out, ?_⟩,
    hname⟩
  rw [fill_eq_ok_iff, ← hout]
  congr 1
  simpa using hread_at

/-- **The line of an unbound field.** Where an expansion comes to a stretch that it cannot fill
because a field has no value, it reports the line on which the stretch begins. The field stands on
that line if and only if no line break lies between the start of the stretch and the field. -/
theorem line_of_unbound_iff {m : Model} {t : Template} {g : Stretch} {scope : Scope} {name : String}
    {line : Nat} (hreach : t.Reaches m (.fill g scope))
    (hfails : (Step.fill g scope).FailsWith m t.text (.unbound name line)) :
    t.expand m = .error (.unbound name line) ∧ line = Text.lineAt t.text g.start ∧
    ∃ p, UnboundAt t.text scope.values g name p ∧
      (Segment.field name).written <:+: Text.lineText t.text (Text.lineAt t.text p) ∧
      (Text.lineAt t.text p = line ↔ '\n' ∉ Text.slice t.text g.start p) := by
  obtain ⟨hsubstitute, hline⟩ := fill_eq_unbound_iff.mp hfails
  obtain ⟨hfield, p, hp⟩ := exists_unboundAt hsubstitute
  have hexpand := expand_eq_error_iff.mpr ⟨_, hreach, hfails⟩
  refine ⟨hexpand, hline.symm, p, hp,
    Text.infix_lineText hp.stands (Segment.newline_not_mem_written hfield), ?_⟩
  rw [Text.lineAt_eq_add_count t.text hp.start_le, hline, Nat.add_eq_left, List.count_eq_zero]

end Unbound

/-! ### A field on the second line of a body -/

/-- A loop over base types with a field of structs on the second line of its body. -/
def misplaced : Template :=
  ⟨"@foreach basetype\ntype {baseType}\n{memName}\n@end basetype\n".toList,
    [.node (.each .baseType) none ⟨0, 18, 0, .opens "basetype" none⟩
      ⟨44, 58, 44, .closes "basetype"⟩ 1 []]⟩

/-- A model with one base type. -/
def oneBaseType : Model := { Model.empty with baseTypes := [⟨"VkFlags", "uint32_t"⟩] }

/-- The step that fills the body for the base type. -/
def fillBody : Step := .fill ⟨18, 44⟩ [.baseType ⟨"VkFlags", "uint32_t"⟩]

theorem reaches_misplaced : misplaced.Reaches oneBaseType fillBody := by
  have hitems : oneBaseType.domain [] (.each .baseType) =
      .ok ([] ++ .baseType ⟨"VkFlags", "uint32_t"⟩ :: []) := rfl
  exact .control ⟨[], rfl⟩ (.body hitems nofun rfl .last)

theorem failsWith_misplaced :
    fillBody.FailsWith oneBaseType misplaced.text (.unbound "memName" 2) := by
  let front : List Segment := [.text "type ".toList, .field "baseType", .text ['\n']]
  have hsegs : Segment.segments (Text.slice misplaced.text 18 44) =
      .ok (front ++ .field "memName" :: [.text ['\n']]) := by cbv
  have hfront : ∀ other, Segment.field other ∈ front →
      (Scope.values [.baseType ⟨"VkFlags", "uint32_t"⟩]).get? other ≠ none := by
    intro other hother
    obtain rfl : other = "baseType" := by simpa [front] using hother
    decide
  exact fill_eq_unbound_iff.mpr ⟨Segment.substitute_eq_error_iff.mpr
    (.inr ⟨_, _, hsegs, ⟨front, _, rfl, hfront, by decide⟩, rfl⟩), by decide⟩

/-- The line that is reported is the one on which the body begins. -/
theorem line_of_unbound_iff_misplaced :
    (misplaced.Reaches oneBaseType fillBody ∧
      fillBody.FailsWith oneBaseType misplaced.text (.unbound "memName" 2)) ∧
    misplaced.expand oneBaseType = .error (.unbound "memName" 2) ∧
    2 = Text.lineAt misplaced.text 18 ∧
    ∃ p, UnboundAt misplaced.text (Scope.values [.baseType ⟨"VkFlags", "uint32_t"⟩]) ⟨18, 44⟩
        "memName" p ∧
      (Segment.field "memName").written <:+:
        Text.lineText misplaced.text (Text.lineAt misplaced.text p) ∧
      (Text.lineAt misplaced.text p = 2 ↔ '\n' ∉ Text.slice misplaced.text 18 p) :=
  ⟨⟨reaches_misplaced, failsWith_misplaced⟩,
    line_of_unbound_iff reaches_misplaced failsWith_misplaced⟩

/-- **A field that does not stand on the line which is reported for it.** -/
theorem not_infix_line_of_misplaced :
    parse misplaced.text = .ok misplaced ∧ misplaced.Reaches oneBaseType fillBody ∧
    fillBody.FailsWith oneBaseType misplaced.text (.unbound "memName" 2) ∧
    misplaced.expand oneBaseType = .error (.unbound "memName" 2) ∧
    Text.lineText misplaced.text 2 = "type {baseType}".toList ∧
    Text.lineText misplaced.text 3 = (Segment.field "memName").written ∧
    ¬ (Segment.field "memName").written <:+: Text.lineText misplaced.text 2 := by
  have hline : Text.lineText misplaced.text 2 = "type {baseType}".toList := by cbv
  have hexpand := expand_eq_error_iff.mpr ⟨_, reaches_misplaced, failsWith_misplaced⟩
  refine ⟨by cbv, reaches_misplaced, failsWith_misplaced, hexpand, hline, by cbv, fun h => ?_⟩
  rw [hline] at h
  have hmem : 'm' ∈ (Segment.field "memName").written := by decide
  exact absurd (h.subset hmem) (by decide)

end Template

end LayerStencil
