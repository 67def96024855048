import LayerStencil.Proofs.Condition.Unbound
import LayerStencil.Proofs.Target.Fragment
import LayerStencil.Target.Layer
import LayerStencil.Template.Scope

/-! # Loops over commands

The loops of the layers over commands are of three sorts: for the command of one name, for the
commands of a dispatch, and for the commands of a type. A loop says what its condition is
(`Loop.expr`) and which commands it selects (`Loop.holds`).

* `Loop.evaluate`: the condition has a truth value for every command, and this tells whether the
  loop selects the command.
* `Loop.mentions_dispatch_iff`, `Loop.mentions_type_iff`: which loops read the dispatch of a command
  and which its type. -/

namespace LayerStencil

open Target (AreWords IsWord)

/-! ### Quoted strings -/

namespace Expr

/-- A quoted string that is one field. -/
def fieldText (name : String) : Expr := .text (Segment.field name).written

/-- A quoted string without fields. -/
def wordText (s : String) : Expr := .text s.toList

section Quoted
variable {values : Values} {name : String}

theorem scan_written (hname : (Segment.field name).IsWritable) :
    Segment.scan (Segment.field name).written = ([.field name], []) := by
  have hnext : Segment.next? (Segment.field name).written = some (.field name, []) := by
    have h := Segment.next?_of_field hname []
    rwa [List.append_nil] at h
  rw [Segment.scan_of_next? hnext, Segment.scan_of_next?_eq_none rfl]

theorem eval_fieldText (hname : (Segment.field name).IsWritable) {v : Value}
    (hv : values.get? name = some v) :
    (fieldText name).eval values = .ok (.scalar (.str v.render)) := by
  have hsegments : Segment.segments (Segment.field name).written = .ok [.field name] :=
    Segment.segments_eq_ok_iff.mpr (scan_written hname)
  have hfill : Segment.substitute values (Segment.field name).written =
      .ok v.render.toList := by
    rw [Segment.substitute_eq_substituteSegments, Segment.substituteSegments, hsegments]
    simp [Segment.fillAll, Segment.fill, hv]
  rw [fieldText, eval, hfill]
  simp

theorem isPlain_of_isWord {s : String} (hs : IsWord s) : ∀ c ∈ s.toList, Segment.isPlain c :=
  fun c hc => Segment.isPlain_of (by decide) (by decide) (hs c hc)

theorem eval_wordText {s : String} (hs : IsWord s) :
    (wordText s).eval values = .ok (.scalar (.str s)) := by
  have hfill : Segment.substitute values s.toList = .ok s.toList := by
    rw [Segment.substitute, if_pos (List.all_eq_true.mpr (isPlain_of_isWord hs))]
  rw [wordText, eval, hfill]
  simp

theorem evalItems_wordText : ∀ {words : List String}, AreWords words →
    evalItems values (words.map wordText) = .ok (words.map .str)
  | [], _ => by rw [List.map_nil, evalItems]; rfl
  | w :: words, h => by
    have hw : IsWord w := h w List.mem_cons_self
    have hwords : AreWords words := fun v hv => h v (List.mem_cons_of_mem w hv)
    rw [List.map_cons, evalItems, eval_wordText hw, evalItems_wordText hwords]
    rfl

end Quoted

/-! ### Mentioned names -/

section Mentions
variable {name : String} {a b : Expr}

theorem mentions_and : (Expr.and a b).Mentions name ↔ a.Mentions name ∨ b.Mentions name := by
  constructor
  · intro h
    cases h with
    | andLeft h => exact .inl h
    | andRight _ h => exact .inr h
  · rintro (h | h)
    · exact .andLeft h
    · exact .andRight trivial h

theorem mentions_compare {op : CompareOp} :
    (Expr.compare op a b).Mentions name ↔ a.Mentions name ∨ b.Mentions name := by
  constructor
  · intro h
    cases h with
    | compareLeft h => exact .inl h
    | compareRight h => exact .inr h
  · rintro (h | h)
    · exact .compareLeft h
    · exact .compareRight h

theorem mentions_fieldText {other : String} (hother : (Segment.field other).IsWritable) :
    (fieldText other).Mentions name ↔ name = other := by
  constructor
  · intro h
    cases h with
    | text h =>
      rw [scan_written hother, List.mem_singleton] at h
      exact Segment.field.inj h
  · rintro rfl
    refine .text ?_
    rw [scan_written hother]
    exact List.mem_singleton_self _

theorem not_mentions_wordText {s : String} (hs : IsWord s) : ¬ (wordText s).Mentions name := by
  intro h
  cases h with
  | text h =>
    have hreads : Segment.Reads (fun _ => default) (fun _ => False) (Segment.escape s.toList ++ [])
        (s.toList ++ []) := Segment.Reads.escape .nil s.toList
    rw [List.append_nil, Segment.escape_of_plain (isPlain_of_isWord hs)] at hreads
    exact hreads.fields name h

theorem not_mentions_list {words : List String} (h : AreWords words) :
    ¬ (Expr.list (words.map wordText)).Mentions name := by
  intro hmentions
  cases hmentions with
  | list he hmentions =>
    obtain ⟨w, hw, rfl⟩ := List.mem_map.mp he
    exact not_mentions_wordText (h w hw) hmentions

end Mentions

end Expr

/-! ### Loops -/

namespace Layer

/-- A loop over commands. -/
inductive Loop where
  /-- For the command of a name. -/
  | named (name : String)
  /-- For the commands of a dispatch, with or without a result, whose names are in a list or are
  not. -/
  | ofKind (dispatch : Dispatch) (hasResult isListed : Bool) (names : List String)
  /-- For the commands of a type, except those of some names. -/
  | ofType (type : String) (excepted : List String)

namespace Loop

open LayerStencil.Expr (fieldText wordText)

/-- The names that stand in the condition. -/
def words : Loop → List String
  | named name => [name]
  | ofKind _ _ _ names => names
  | ofType type excepted => type :: excepted

/-- The condition that the name of the command is in a list or is not. -/
def membership (op : CompareOp) (names : List String) : Expr :=
  .compare op (fieldText "funcName") (.list (names.map wordText))

/-- The condition of the loop. -/
def expr : Loop → Expr
  | named name => .compare .eq (fieldText "funcName") (wordText name)
  | ofKind dispatch hasResult isListed names =>
    .and (.and (.compare .eq (fieldText "funcDispatchType") (wordText dispatch.word))
        (.compare (if hasResult then .ne else .eq) (fieldText "funcReturn") (wordText "void")))
      (membership (if isListed then .isIn else .notIn) names)
  | ofType type [] => .compare .eq (fieldText "funcType") (wordText type)
  | ofType type (name :: names) =>
    .and (.compare .eq (fieldText "funcType") (wordText type)) (membership .notIn (name :: names))

/-- Does the loop select the command? -/
def holds (f : Command) : Loop → Bool
  | named name => f.name = name
  | ofKind dispatch hasResult isListed names =>
    f.dispatch = dispatch && (decide (f.returnType ≠ "void") == hasResult) &&
      (names.contains f.name == isListed)
  | ofType type excepted => f.functionType = type && !excepted.contains f.name

/-- The fields that stand in the condition. -/
def fields : Loop → List String
  | named _ => ["funcName"]
  | ofKind .. => ["funcDispatchType", "funcReturn", "funcName"]
  | ofType _ [] => ["funcType"]
  | ofType _ (_ :: _) => ["funcType", "funcName"]

/-- Is the loop one for the commands of a dispatch? -/
def isOfKind : Loop → Bool
  | ofKind .. => true
  | _ => false

/-- Is the loop one for the commands of a type? -/
def isOfType : Loop → Bool
  | ofType .. => true
  | _ => false

end Loop

/-! ### Truth of conditions -/

section Eval
variable {values : Values} {a b : Expr} {x y : String}

theorem eval_and {p q : Bool} (ha : a.eval values = .ok (.scalar (.bool p)))
    (hb : b.eval values = .ok (.scalar (.bool q))) :
    (Expr.and a b).eval values = .ok (.scalar (.bool (p && q))) := by
  rw [Expr.eval, ha, ok_bind]
  cases p with
  | false => rfl
  | true =>
    have htruth : (Operand.scalar (.bool true)).truth .and = .ok true := rfl
    rw [htruth, ok_bind, if_pos rfl, hb]
    rfl

theorem eval_equals (ha : a.eval values = .ok (.scalar (.str x)))
    (hb : b.eval values = .ok (.scalar (.str y))) :
    (Expr.compare .eq a b).eval values = .ok (.scalar (.bool (x = y))) := by
  rw [Expr.eval, ha, ok_bind, hb]
  rfl

theorem eval_differs (ha : a.eval values = .ok (.scalar (.str x)))
    (hb : b.eval values = .ok (.scalar (.str y))) :
    (Expr.compare .ne a b).eval values = .ok (.scalar (.bool (x ≠ y))) := by
  have hne : decide (x ≠ y) = !decide (x = y) := by simp
  rw [Expr.eval, ha, ok_bind, hb, hne]
  rfl

theorem any_looseEq (x : String) (words : List String) :
    ((words.map Value.str).any (Value.str x).looseEq) = words.contains x := by
  rw [List.any_map, List.contains_eq_any_beq]
  rfl

theorem eval_membership {words : List String} (hwords : AreWords words)
    (hx : (Expr.fieldText "funcName").eval values = .ok (.scalar (.str x))) :
    (Loop.membership .isIn words).eval values = .ok (.scalar (.bool (words.contains x))) ∧
      (Loop.membership .notIn words).eval values = .ok (.scalar (.bool !words.contains x)) := by
  have hlist : (Expr.list (words.map Expr.wordText)).eval values =
      .ok (.list (words.map .str)) := by
    rw [Expr.eval, Expr.evalItems_wordText hwords]
    rfl
  constructor
  · rw [Loop.membership, Expr.eval, hx, ok_bind, hlist, ← any_looseEq]
    rfl
  · rw [Loop.membership, Expr.eval, hx, ok_bind, hlist, ← any_looseEq]
    rfl

end Eval

/-! ### Values of a command -/

theorem isWritable {name : List Char} (h : !name.isEmpty && name.all Text.isNameChar) :
    (Segment.field (String.ofList name)).IsWritable := by
  rw [Bool.and_eq_true] at h
  rw [Segment.IsWritable, String.toList_ofList]
  exact ⟨by simpa using h.1, List.all_eq_true.mp h.2⟩

theorem isWord_word (d : Dispatch) : IsWord d.word := by
  cases d with
  | viaInstance => exact .of rfl
  | viaDevice => exact .of rfl

theorem word_inj {d d' : Dispatch} : d.word = d'.word ↔ d = d' := by
  cases d <;> cases d' <;> decide

section Values
variable {f : Command}

/-- A quoted field of a command comes to its value. -/
theorem eval_field {name : String} (hname : (Segment.field name).IsWritable) {s : String}
    (h : (name, .str s) ∈ f.fields) :
    (Expr.fieldText name).eval (Scope.values [.command f]) = .ok (.scalar (.str s)) := by
  have hitem : (Item.command f).values.get? name = some (.str s) := Dict.mem_entries_iff.mp h
  have hvalue : (Scope.values [.command f]).get? name = some (.str s) := by
    rw [Scope.get?_values_cons, hitem, Option.some_or]
  exact Expr.eval_fieldText hname hvalue

theorem Loop.eval_expr {loop : Loop} (hwords : AreWords loop.words) :
    loop.expr.eval (Scope.values [.command f]) = .ok (.scalar (.bool (loop.holds f))) := by
  have hname : (Expr.fieldText "funcName").eval (Scope.values [.command f]) =
      .ok (.scalar (.str f.name)) := eval_field (isWritable rfl) (by simp [Command.fields])
  have hreturn : (Expr.fieldText "funcReturn").eval (Scope.values [.command f]) =
      .ok (.scalar (.str f.returnType)) := eval_field (isWritable rfl) (by simp [Command.fields])
  have hdispatch : (Expr.fieldText "funcDispatchType").eval (Scope.values [.command f]) =
      .ok (.scalar (.str f.dispatch.word)) :=
    eval_field (isWritable rfl) (by simp [Command.fields])
  have htype : (Expr.fieldText "funcType").eval (Scope.values [.command f]) =
      .ok (.scalar (.str f.functionType)) := eval_field (isWritable rfl) (by simp [Command.fields])
  have hvoid : IsWord "void" := .of rfl
  cases loop with
  | named name => exact eval_equals hname (Expr.eval_wordText (hwords name (by simp [words])))
  | ofKind dispatch hasResult isListed names =>
    have hmembership := eval_membership hwords hname
    have hsame := eval_equals hdispatch (Expr.eval_wordText (isWord_word dispatch))
    have hequals := eval_equals hreturn (Expr.eval_wordText hvoid)
    have hdiffers := eval_differs hreturn (Expr.eval_wordText hvoid)
    simp only [word_inj] at hsame
    cases hasResult <;> cases isListed
    · exact (eval_and (eval_and hsame hequals) hmembership.2).trans (by simp [holds, words])
    · exact (eval_and (eval_and hsame hequals) hmembership.1).trans (by simp [holds, words])
    · exact (eval_and (eval_and hsame hdiffers) hmembership.2).trans (by simp [holds, words])
    · exact (eval_and (eval_and hsame hdiffers) hmembership.1).trans (by simp [holds, words])
  | ofType type excepted =>
    obtain ⟨htypeWord, hexcepted⟩ := List.forall_mem_cons.mp hwords
    have hsame := eval_equals htype (Expr.eval_wordText htypeWord)
    cases excepted with
    | nil => exact hsame.trans (by simp [holds])
    | cons name names => exact eval_and hsame (eval_membership hexcepted hname).2

/-- **The condition of a loop** tells which commands the loop selects. -/
theorem Loop.evaluate {loop : Loop} (hwords : AreWords loop.words) (text : List Char) :
    (Condition.mk text loop.expr).evaluate (Scope.values [.command f]) = .ok (loop.holds f) := by
  rw [Condition.evaluate, Loop.eval_expr hwords]
  rfl

end Values

/-! ### Fields that conditions read -/

section Mentions
variable {loop : Loop} {name : String}

theorem Loop.mentions_membership {op : CompareOp} {words : List String} (hwords : AreWords words) :
    (membership op words).Mentions name ↔ name = "funcName" := by
  rw [membership, Expr.mentions_compare, Expr.mentions_fieldText (isWritable rfl)]
  exact or_iff_left (Expr.not_mentions_list hwords)

theorem Loop.mentions_comparison {op : CompareOp} {other word : String}
    (hother : (Segment.field other).IsWritable) (hword : IsWord word) :
    (Expr.compare op (.fieldText other) (.wordText word)).Mentions name ↔ name = other := by
  rw [Expr.mentions_compare, Expr.mentions_fieldText hother]
  exact or_iff_left (Expr.not_mentions_wordText hword)

theorem Loop.mentions_expr (hwords : AreWords loop.words) :
    loop.expr.Mentions name ↔ name ∈ loop.fields := by
  have hvoid : IsWord "void" := .of rfl
  cases loop with
  | named other =>
    have hother : IsWord other := hwords other (by simp [words])
    rw [expr, mentions_comparison (isWritable rfl) hother, fields, List.mem_singleton]
  | ofKind dispatch hasResult isListed names =>
    have hnames : AreWords names := hwords
    rw [expr, Expr.mentions_and, Expr.mentions_and, mentions_membership hnames,
      mentions_comparison (isWritable rfl) (isWord_word dispatch),
      mentions_comparison (isWritable rfl) hvoid]
    simp [fields, or_assoc]
  | ofType type excepted =>
    obtain ⟨htype, hexcepted⟩ := List.forall_mem_cons.mp hwords
    cases excepted with
    | nil => rw [expr, mentions_comparison (isWritable rfl) htype, fields, List.mem_singleton]
    | cons other names =>
      rw [expr, Expr.mentions_and, mentions_membership hexcepted,
        mentions_comparison (isWritable rfl) htype]
      simp [fields]

theorem Loop.mentions_dispatch_iff (hwords : AreWords loop.words) :
    loop.expr.Mentions "funcDispatchType" ↔ loop.isOfKind := by
  rw [mentions_expr hwords]
  rcases loop with _ | _ | ⟨_, _ | _⟩ <;> simp [fields, isOfKind]

theorem Loop.mentions_type_iff (hwords : AreWords loop.words) :
    loop.expr.Mentions "funcType" ↔ loop.isOfType := by
  rw [mentions_expr hwords]
  rcases loop with _ | _ | ⟨_, _ | _⟩ <;> simp [fields, isOfType]

end Mentions

end Layer

end LayerStencil
