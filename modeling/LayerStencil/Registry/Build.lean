import LayerStencil.Registry.Closure
import LayerStencil.Registry.Entity

/-! # Building a model

A model is built from a registry and a selection: the registry is indexed, the selection turned into
demands, and every demanded command and every type required for the demands becomes an entity, in
the order of the registry. A name is built once; names of types come first.
-/

namespace LayerStencil

/-! ### Types -/

namespace RegistryIndex

/-- The entries of the required types, with their names. -/
def selectedTypes (c : Convention) (x : RegistryIndex) (ds : List Demand) :
    List (String × TypeEntry) :=
  let required := x.requiredTypes c ds
  x.types.entries.filter fun e => required.contains e.1

/-- What the required types become, with their names. -/
def builtTypes (c : Convention) (x : RegistryIndex) (ds : List Demand) :
    Except RegistryError (List (String × BuiltType)) :=
  (x.selectedTypes c ds).mapM fun e =>
    (BuiltType.ofEntry c x ds e.1 e.2).map fun built => (e.1, built)

end RegistryIndex

namespace BuiltType

/-- The target of an alias. -/
def aliasTarget? : BuiltType → Option String
  | aliasOf target => some target
  | _ => none

/-- The names that aliases stand for. -/
def aliasesOf (ts : List (String × BuiltType)) : List (String × String) :=
  ts.filterMap fun e => e.2.aliasTarget?.map fun target => (e.1, target)

/-- The names of all types that are no aliases. -/
def ownNames (ts : List (String × BuiltType)) : List String :=
  ts.filterMap fun e => if e.2.aliasTarget?.isSome then none else some e.1

end BuiltType

/-! ### Commands -/

/-- The definition of a command, and the command that it is another name for. -/
def CommandEntry.resolve (x : RegistryIndex) :
    CommandEntry → Except RegistryError (CommandDefinition × Option String)
  | definition d => .ok (d, none)
  | aliasOf name target =>
    match x.definitions.get? target with
    | some d => .ok (d, some target)
    | none => .error (.danglingAlias name target)

/-- The commands of a list that are demanded, not left out and not built before. -/
def buildCommands (c : Convention) (x : RegistryIndex) (demanded : OrderedSet String)
    (extensions : List Extension) (positions : Dict Nat) :
    (built : List String) → List CommandEntry → Except RegistryError (List Command)
  | _, [] => .ok []
  | built, entry :: rest =>
    if entry.name ∉ demanded then buildCommands c x demanded extensions positions built rest
    else do
      let (d, aliasOf) ← entry.resolve x
      if c.isExcluded entry.name || built.contains entry.name then
        buildCommands c x demanded extensions positions built rest
      else
        let command ← Command.ofDefinition c extensions positions entry.name aliasOf d
        let commands ←
          buildCommands c x demanded extensions positions (entry.name :: built) rest
        return command :: commands

/-! ### System types -/

/-- Does a declaration use a platform type as it is or behind one pointer? -/
def Declaration.usesPlatformType (d : Declaration) (name : String) : Bool :=
  d.baseType = name && d.pointerLevel ≤ 1

namespace RegistryIndex

/-- May a type be a system type? It is one that a header other than the platform header declares, or
a macro. -/
def isPlatformType (c : Convention) (x : RegistryIndex) (name : String) (t : TypeEntry) : Bool :=
  let fromHeader := match t.category, t.requires with
    | none, some header => header ≠ c.platformHeader && x.includes.contains header
    | _, _ => false
  fromHeader || c.isDefineType name

/-- The names of the types that may be system types. -/
def platformTypes (c : Convention) (x : RegistryIndex) : List String :=
  (x.types.entries.filter fun e => x.isPlatformType c e.1 e.2).map Prod.fst

end RegistryIndex

namespace Model

/-- Does some struct or command of the model that an extension lists use a platform type? -/
def extensionUses (m : Model) (e : Extension) (name : String) : Bool :=
  ((e.types.toList.filterMap m.struct?).any fun s =>
      s.members.any fun mem => mem.declaration.usesPlatformType name) ||
    (e.commands.toList.filterMap m.command?).any fun cmd =>
      cmd.parameters.any fun p => p.declaration.usesPlatformType name

/-- The platform types that the extensions of the model use, by type and then by extension. -/
def systemTypesOf (m : Model) (names : List String) : List SystemType :=
  (OrderedSet.ofList (names.flatMap fun name =>
    (m.extensions.filter fun e => m.extensionUses e name).map fun e =>
      ⟨name, e.name, e.guard⟩)).toList

end Model

/-! ### The whole model -/

/-- The model of the part of a registry that a selection chooses. -/
def Registry.build (c : Convention) (s : Selection) (r : Registry) :
    Except RegistryError Model := do
  let x := r.index c
  let entries ← match r.extensions? with
    | some entries => .ok (entries.filter (·.isChosen s))
    | none => .error .noExtensions
  let demands :=
    (r.chosenFeatures c s).flatMap (·.demands c) ++ entries.flatMap (·.demands c)
  let extensions := entries.map (·.toExtension c)
  let positions := Extension.positions Extension.commands extensions
  let types ← x.builtTypes c demands
  let commands ← buildCommands c x (Demand.commands demands) extensions positions
    (BuiltType.ownNames types) r.commands
  let built := types.map Prod.snd
  let m : Model := {
    commands
    structs := built.filterMap fun | .struct s => some s | _ => none
    unions := built.filterMap fun | .union u => some u | _ => none
    enums := built.filterMap fun | .enum e => some e | _ => none
    bitmasks := built.filterMap fun | .bitmask b => some b | _ => none
    flags := built.filterMap fun | .flag f => some f | _ => none
    handles := built.filterMap fun | .handle h => some h | _ => none
    baseTypes := built.filterMap fun | .baseType b => some b | _ => none
    functionPointers := built.filterMap fun | .functionPointer p => some p | _ => none
    externalTypes := built.filterMap fun | .externalType t => some t | _ => none
    extensions
    systemTypes := []
    commandExtensions := positions
    typeExtensions := Extension.positions Extension.types extensions
    aliases := (Dict.ofList (BuiltType.aliasesOf types)).extend
      (commands.filterMap fun cmd => cmd.aliasOf.map fun target => (cmd.name, target))
    constants := x.constants c }
  return { m with systemTypes := m.systemTypesOf (x.platformTypes c) }

end LayerStencil
