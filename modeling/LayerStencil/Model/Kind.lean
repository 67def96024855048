/-! # Kinds of items

The kinds of items that a model lists and that stencils loop over, each with the tag that stands in
markers and listings. Main statements: `Kind.ofTag?_tag` and `ControlKind.ofTag?_eq_some_iff`, what
a tag stands for is found again by it, and by nothing else.
-/

namespace LayerStencil

/-- What an item of a model is. -/
inductive Kind where
  | command
  | parameter
  | struct
  | member
  | union
  | choice
  | enum
  | bitmask
  | option
  | flag
  | handle
  | baseType
  | functionPointer
  | externalType
  | extension
  | systemType
deriving DecidableEq, Repr, Inhabited

namespace Kind

/-- All kinds, in the order of listings. -/
def all : List Kind :=
  [command, parameter, struct, member, union, choice, enum, bitmask, option, flag, handle,
    baseType, functionPointer, externalType, extension, systemType]

/-- The tag of a kind in markers, listings and messages. -/
def tag : Kind → String
  | command => "function"
  | parameter => "parameter"
  | struct => "struct"
  | member => "member"
  | union => "union"
  | choice => "choice"
  | enum => "enum"
  | bitmask => "bitmask"
  | option => "option"
  | flag => "flag"
  | handle => "handle"
  | baseType => "basetype"
  | functionPointer => "funcpointer"
  | externalType => "type"
  | extension => "extension"
  | systemType => "systype"

/-- The kind with a given tag. -/
def ofTag? (t : String) : Option Kind := all.find? fun kind => kind.tag = t

/-- Is the kind a part of another item, so that a loop over it needs an enclosing owner? -/
def isScoped : Kind → Bool
  | parameter | member | choice | option => true
  | _ => false

/-- The kinds whose items a model lists itself. -/
def topLevel : List Kind := all.filter fun kind => !kind.isScoped

theorem mem_all (kind : Kind) : kind ∈ all := by cases kind <;> decide

theorem ofTag?_tag (kind : Kind) : ofTag? kind.tag = some kind := by cases kind <;> decide

theorem tag_eq_of_ofTag? {t : String} {kind : Kind} (h : ofTag? t = some kind) : kind.tag = t := by
  simpa using List.find?_some h

end Kind

/-- What a directive does: it keeps its body under a condition, or repeats it for every item of a
kind. -/
inductive ControlKind where
  | cond
  | each (kind : Kind)
deriving DecidableEq, Repr, Inhabited

namespace ControlKind

/-- The word that closes a directive. -/
def tag : ControlKind → String
  | cond => "if"
  | each kind => kind.tag

/-- The directive that a word closes. -/
def ofTag? (t : String) : Option ControlKind :=
  if t = "if" then some cond else (Kind.ofTag? t).map each

theorem ofTag?_eq_some_iff {t : String} {control : ControlKind} :
    ofTag? t = some control ↔ control.tag = t := by
  constructor
  · intro h
    unfold ofTag? at h
    split at h
    · rename_i ht; cases h; exact ht.symm
    · obtain ⟨kind, hkind, rfl⟩ := Option.map_eq_some_iff.mp h
      exact Kind.tag_eq_of_ofTag? hkind
  · rintro rfl
    cases control with
    | cond => rfl
    | each kind => cases kind <;> decide

end ControlKind

end LayerStencil
