import LayerStencil.Pattern.Engine
import LayerStencil.Text.Quoted

/-! # Selections

A selection says which features and extensions of a registry make up the model. Features and
extensions are named by lists of patterns, and a list is one pattern: any of its members, from the
start of the name to its end.
-/

namespace LayerStencil

/-- A pattern with its written form. -/
structure NamePattern where
  text : String
  pattern : Pattern
deriving DecidableEq, Repr

/-- A list of names that together spell no pattern. -/
structure PatternError where
  text : String
deriving DecidableEq, Repr

/-- The message of a list that spells no pattern, without what the engine says of it. -/
def PatternError.message (e : PatternError) : String :=
  "invalid name pattern " ++ Text.quoted e.text

/-- The written form of a list of patterns. -/
def NamePattern.joinedText (names : List String) : String := "^(" ++ Text.joined "|" names ++ ")$"

/-- The pattern that an engine compiles for a list of names or patterns; an empty list has none. -/
def PatternEngine.ofNames (engine : PatternEngine) (names : List String) :
    Except PatternError (Option engine.Compiled) :=
  match names with
  | [] => .ok none
  | names =>
    let text := NamePattern.joinedText names
    match engine.compile? text.toList with
    | some compiled => .ok (some compiled)
    | none => .error ⟨text⟩

namespace NamePattern

/-- The pattern of a list of names or patterns, with its written form. -/
def ofList (names : List String) : Except PatternError (Option NamePattern) :=
  (Pattern.engine.ofNames names).map fun compiled =>
    compiled.map fun pattern => ⟨joinedText names, pattern⟩

/-- Does the pattern match a name? -/
def isMatch (p : NamePattern) (name : String) : Bool :=
  Pattern.engine.isMatch p.pattern name.toList

end NamePattern

/-- Which features and extensions make up a model. -/
structure Selection where
  /-- The features; all without a pattern. -/
  features : Option NamePattern
  /-- The class of extensions that are included. -/
  defaultExtensions : Option String
  /-- Extensions that are included besides. -/
  added : Option NamePattern
  /-- Extensions that are left out. -/
  removed : Option NamePattern
  /-- Included extensions that are emitted; all without a pattern. -/
  emitted : Option NamePattern
deriving DecidableEq, Repr

namespace Selection

/-- All features, and the extensions of the class `vulkan`. -/
def default : Selection := ⟨none, some "vulkan", none, none, none⟩

/-- The selection that lists of names or patterns describe. -/
def ofLists (defaultExtensions : Option String)
    (features extensions removed emitted : List String) : Except PatternError Selection := do
  let added ← NamePattern.ofList extensions
  let removed ← NamePattern.ofList removed
  let emitted ← NamePattern.ofList emitted
  let features ← NamePattern.ofList features
  return ⟨features, defaultExtensions, added, removed, emitted⟩

/-- Is a pattern given that matches the name? -/
def matchedBy (pattern : Option NamePattern) (name : String) : Bool :=
  match pattern with
  | some p => p.isMatch name
  | none => false

/-- Is no pattern given, or one that matches the name? -/
def unlessExcluded (pattern : Option NamePattern) (name : String) : Bool :=
  match pattern with
  | some p => p.isMatch name
  | none => true

/-- Is a feature part of the model? -/
def includesFeature (s : Selection) (name : String) : Bool := unlessExcluded s.features name

/-- Is an extension with a list of supported classes included? -/
def includesExtension (s : Selection) (name : String) (supported : Option String) : Bool :=
  let byClass := match s.defaultExtensions, supported with
    | some cls, some supported => (Text.fields ',' supported).contains cls
    | _, _ => false
  (byClass || matchedBy s.added name) && !matchedBy s.removed name

/-- Is an included extension emitted? -/
def emitsExtension (s : Selection) (name : String) : Bool := unlessExcluded s.emitted name

end Selection

end LayerStencil
