import LayerStencil.Condition.Eval
import LayerStencil.Template.Control
import LayerStencil.Template.Scope

/-! # Expansion of templates

Expanding a template visits every control in order, once for each item of its domain that its
condition keeps, and puts the values in scope into the text between the controls. The result is a
sequence of events: texts, the guard lines around items that an extension gates, and a tally for
every visit of a control. The text of an expansion is what its events print.
-/

namespace LayerStencil

/-- Why a template cannot be expanded. -/
inductive ExpandError where
  /-- A field that has no value; the line is the one on which the text around it begins. -/
  | unbound (name : String) (line : Nat)
  /-- A text without segments, with the line on which it begins. -/
  | format (cause : SegmentError) (line : Nat)
  /-- A loop over parts outside any owner of such parts. -/
  | missingOwner (kind : Kind) (line : Nat)
  | condition (text : List Char) (cause : EvalError) (line : Nat)
deriving DecidableEq, Repr

/-- The message of a failed expansion. -/
def ExpandError.message : ExpandError → String
  | unbound name line =>
    "line " ++ Text.decimal line ++ ": placeholder \x7b" ++ name ++
      "\x7d is not bound in this scope"
  | format cause line => "line " ++ Text.decimal line ++ ": " ++ cause.message
  | missingOwner kind line =>
    "line " ++ Text.decimal line ++ ": `@foreach " ++ kind.tag ++ "` must be nested inside a " ++
      kind.owner ++ " loop"
  | condition text cause line =>
    "line " ++ Text.decimal line ++ ": condition `" ++ String.ofList text ++ "` failed: " ++
      cause.message

/-- How many items a control considered and how many it kept. -/
structure Tally where
  /-- The position at which the control's opening marker starts. -/
  start : Nat
  kind : ControlKind
  line : Nat
  visited : Nat
  emitted : Nat
deriving DecidableEq, Repr, Inhabited

/-- What an expansion does, step by step. -/
inductive Event where
  | text (s : List Char)
  | openGuard (macroName : String)
  | closeGuard (macroName : String)
  /-- A control has visited its items. -/
  | tally (t : Tally)
deriving DecidableEq, Repr

/-- The text that an event adds to the output. -/
def Event.printed : Event → List Char
  | text s => s
  | openGuard g => ['#', 'i', 'f', ' '] ++ ['d', 'e', 'f', 'i', 'n', 'e', 'd', '('] ++
      g.toList ++ [')', '\n']
  | closeGuard g => ['#', 'e', 'n', 'd', 'i', 'f', ' ', '/', '/', ' '] ++ g.toList ++ ['\n']
  | tally _ => []

/-- The tally that an event reports. -/
def Event.tally? : Event → Option Tally
  | tally t => some t
  | _ => none

/-- The text that a sequence of events prints. -/
def Event.printAll (events : List Event) : List Char := events.flatMap Event.printed

namespace Template

/-- The text from `start` up to `stop` with the values in scope. -/
def fill (text : List Char) (values : Values) (start stop : Nat) :
    Except ExpandError (List Char) :=
  match Segment.substitute values (Text.slice text start stop) with
  | .ok s => .ok s
  | .error (.unbound name) => .error (.unbound name (Text.lineAt text start))
  | .error (.segment cause) => .error (.format cause (Text.lineAt text start))

/-- Does a control keep the item whose fields are in scope? -/
def keeps (condition : Option Condition) (line : Nat) (values : Values) :
    Except ExpandError Bool :=
  match condition with
  | none => .ok true
  | some c =>
    match c.evaluate values with
    | .ok b => .ok b
    | .error e =>
      match e.unbound? with
      | some name => .error (.unbound name line)
      | none => .error (.condition c.text e line)

/-- The events of an item between the lines of its guard, if it has one. -/
def guarded (guard : Option String) (events : List Event) : List Event :=
  match guard with
  | some g => .openGuard g :: events ++ [.closeGuard g]
  | none => events

/-- What `visit` does with each item in order, where `none` stands for an item that is not kept:
how many items were kept, and all their events. -/
def visitAll (visit : Item → Except ExpandError (Option (List Event))) :
    List Item → Except ExpandError (Nat × List Event)
  | [] => .ok (0, [])
  | item :: items => do
    let here ← visit item
    let (emitted, events) ← visitAll visit items
    match here with
    | some body => return (emitted + 1, body ++ events)
    | none => return (emitted, events)

mutual

/-- The events of a control in a scope. -/
def expandControl (m : Model) (text : List Char) (scope : Scope) :
    Control → Except ExpandError (List Event)
  | .node kind condition opening closing line children =>
    match m.domain scope kind with
    | .error kind => .error (.missingOwner kind line)
    | .ok items => do
      let visit (item : Item) : Except ExpandError (Option (List Event)) := do
        let inner : Scope := item :: scope
        if ← keeps condition line inner.values then
          let body ← expandBody m text inner inner.values opening.stop closing.start children
          return some (guarded (m.guardFor? item) body)
        else
          return none
      let (emitted, events) ← visitAll visit items
      return events ++ [.tally ⟨opening.start, kind, line, items.length, emitted⟩]

/-- The events of the text from `start` up to `stop` with the controls in it. -/
def expandBody (m : Model) (text : List Char) (scope : Scope) (values : Values)
    (start stop : Nat) : List Control → Except ExpandError (List Event)
  | [] => do
    let s ← fill text values start stop
    return [.text s]
  | c :: cs => do
    let s ← fill text values start c.opening.start
    let inner ← expandControl m text scope c
    let rest ← expandBody m text scope values c.closing.stop stop cs
    return .text s :: (inner ++ rest)

end

/-- The events of a whole template. No field is in scope outside its controls. -/
def expand (m : Model) (t : Template) : Except ExpandError (List Event) :=
  expandBody m t.text [] .empty 0 t.text.length t.controls

end Template

end LayerStencil
