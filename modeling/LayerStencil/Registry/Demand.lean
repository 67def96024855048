import LayerStencil.Registry.Index
import LayerStencil.Selection

/-! # Demands of a selection

A selection chooses features and extensions of a registry. Their requirements demand types, commands
and values, features before extensions and each in document order, and a chosen extension gates the
types and commands that it lists, unless an earlier one does.
-/

namespace LayerStencil

/-- The items of all requirements that apply to the API. -/
def Requirement.itemsFor (c : Convention) (rs : List Requirement) : List RequiredItem :=
  (rs.filter fun r => c.applies r.apis).flatMap Requirement.items

/-- A demanded item with the number of the extension that lists it. -/
structure Demand where
  item : RequiredItem
  number : Option Int
deriving DecidableEq, Repr

/-- The features of a registry that a selection chooses. -/
def Registry.chosenFeatures (c : Convention) (s : Selection) (r : Registry) : List Feature :=
  r.features.filter fun f => c.isListed f.apis && s.includesFeature f.name

/-- Does a list of supported classes contain a class? -/
def ExtensionEntry.supports (e : ExtensionEntry) (cls : String) : Bool :=
  match e.supported with
  | some classes => (Text.fields ',' classes).contains cls
  | none => false

/-- Does a selection choose an extension? A disabled one is never chosen. -/
def ExtensionEntry.isChosen (s : Selection) (e : ExtensionEntry) : Bool :=
  !e.supports "disabled" && s.includesExtension e.name e.supported && s.emitsExtension e.name

/-- What a feature demands. -/
def Feature.demands (c : Convention) (f : Feature) : List Demand :=
  (Requirement.itemsFor c f.requirements).map fun item => ⟨item, none⟩

/-- What an extension demands. -/
def ExtensionEntry.demands (c : Convention) (e : ExtensionEntry) : List Demand :=
  (Requirement.itemsFor c e.requirements).map fun item => ⟨item, e.number⟩

/-- The type that an item names. -/
def RequiredItem.type? : RequiredItem → Option String
  | type name => some name
  | _ => none

/-- The command that an item names. -/
def RequiredItem.command? : RequiredItem → Option String
  | command name => some name
  | _ => none

/-- The chosen extension as it stands in the model. -/
def ExtensionEntry.toExtension (c : Convention) (e : ExtensionEntry) : Extension where
  name := e.name
  type := e.type.getD ""
  number := e.number.getD 0
  guard := e.protect
  types := .ofList ((Requirement.itemsFor c e.requirements).filterMap RequiredItem.type?)
  commands := .ofList ((Requirement.itemsFor c e.requirements).filterMap RequiredItem.command?)

namespace Demand

/-- The demanded types. -/
def types (ds : List Demand) : OrderedSet String :=
  .ofList (ds.filterMap fun d => d.item.type?)

/-- The demanded commands. -/
def commands (ds : List Demand) : OrderedSet String :=
  .ofList (ds.filterMap fun d => d.item.command?)

/-- The option that a demanded value adds to an enum or bitmask of a given name. -/
def option? (c : Convention) (x : RegistryIndex) (name : String) (d : Demand) : Option EnumOption :=
  match d.item with
  | .value v =>
    if c.applies v.apis && v.extended? d.number = some name then
      EnumOption.ofEntry? (x.isBitmask name) d.number v
    else none
  | _ => none

/-- The options that demanded values add to an enum or bitmask of a given name. -/
def options (c : Convention) (x : RegistryIndex) (name : String) (ds : List Demand) :
    List EnumOption :=
  ds.filterMap (option? c x name)

end Demand

/-- The position of the first extension that lists a name, for all names that some extension
lists. -/
def Extension.positions (names : Extension → OrderedSet String) (es : List Extension) : Dict Nat :=
  es.zipIdx.foldl (fun d e => d.extendNew ((names e.1).toList.map fun name => (name, e.2))) .empty

end LayerStencil
