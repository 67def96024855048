import LayerStencil.CommandLine.Host
import LayerStencil.Convention.Vulkan
import LayerStencil.Generation
import LayerStencil.Model.Listing
import LayerStencil.Model.Reference
import LayerStencil.Registry.Build
import LayerStencil.Registry.OfXml
import LayerStencil.Target.Shipped
import LayerStencil.Text.Quoted

/-! # Runs

A run reads the registry, builds the model that the arguments select, and writes the file of one
target. Names of targets are listed without a registry, and a name that no target has is reported
without failure. A command line that cannot be read has the exit code 2, a run that fails 1, and all
else 0. How the text of a registry file is read is left to a reader.
-/

namespace LayerStencil.CommandLine

/-- Why a run fails. -/
inductive RunError where
  | pattern (cause : PatternError)
  /-- There is no registry at a path. -/
  | unreadable (path : String)
  /-- The outermost element of the registry file is no registry. -/
  | notARegistry
  | registry (cause : RegistryError)
  | generation (cause : GenerationError)
  /-- A file or directory cannot be written. -/
  | unwritable (path : String)
deriving DecidableEq, Repr

/-- The message of a run that fails. -/
def RunError.message : RunError → String
  | pattern cause => cause.message
  | unreadable path => path ++ ": entity not found"
  | notARegistry => "error parsing registry: MissingRegistryElement"
  | registry cause => "registry: " ++ cause.message
  | generation cause => cause.message
  | unwritable path => path ++ ": cannot be written"

namespace Arguments

/-- The file with the registry. -/
def registry (a : Arguments) : String :=
  (a.setting? .registry).getD Vulkan.convention.registryFile

/-- The selection that the arguments describe. -/
def selection (a : Arguments) : Except PatternError Selection :=
  Selection.ofLists (some a.defaultExtensions) (a.list .features) (a.list .added)
    (a.list .removed) (a.list .emitted)

/-- The path of a file in the directory of the arguments. -/
def pathOf (a : Arguments) (filename : String) : String := a.directory ++ "/" ++ filename

/-- Does a message of a level get into the log? -/
def logs (a : Arguments) (level : Level) : Bool := !a.has .quiet || level ≠ .info

end Arguments

/-! ### Registry files -/

/-- What a reader finds in the text of a registry file: the registry, with a message for everything
that is wrong with the text, or no registry at all. -/
abbrev RegistryReader := List Char → Option (Registry × List String)

/-- Reads XML, and passes over what is wrong with it. -/
def RegistryReader.ofXml : RegistryReader := fun text =>
  (Registry.ofXml? text).map fun registry => (registry, [])

/-- Is the block of constants missing in a registry that has extensions? -/
def lacksConstants (r : Registry) : Bool :=
  r.extensions?.isSome &&
    ((r.index Vulkan.convention).blocks.get? Vulkan.convention.constantsBlock).isNone

/-! ### Log messages -/

/-- A number with spaces before it that make up the width. -/
def aligned (width n : Nat) : String :=
  let digits := Text.decimal n
  String.ofList (List.replicate (width - digits.length) ' ') ++ digits

/-- The log message of the statistics of a control, without the time that it took. -/
def tallyMessage (t : Tally) : String :=
  "line " ++ aligned 4 t.line ++ " @" ++ t.kind.tag ++ " visited " ++ aligned 5 t.visited ++
    " emitted " ++ aligned 5 t.emitted

/-- The log message on a model: how many items of each kind it has. -/
def modelMessage (model : Model) : String :=
  "model: " ++ String.intercalate ", "
    (model.summary.map fun (kind, count) => Text.decimal count ++ " " ++ kind.tag)

/-- The log message of the end of a phase that took some milliseconds. -/
def phaseMessage (name : String) (elapsed : Nat) : String :=
  let fraction := Text.decimal (elapsed % 1000 : Nat)
  name ++ ": " ++ Text.decimal (elapsed / 1000 : Nat) ++ "." ++
    String.ofList (List.replicate (3 - fraction.length) '0') ++ fraction ++ "s"

/-- How the program is used. -/
def usage : String :=
  "Usage: generator [OPTIONS] [TARGET]\n\nOptions:\n" ++
    String.join (CommandOption.byName.map fun e => "  --" ++ e.1 ++ "\n")

section Run

variable {m : Type → Type} [Monad m] [Host m]

/-- Puts a message into the log of the arguments. -/
def say (a : Arguments) (level : Level) (message : String) : m Unit :=
  if a.logs level then Host.log (a.setting? .errfile) (level.line message) else pure ()

/-- Takes note that a phase of the run is over. -/
def endPhase (a : Arguments) (name : String) : m Unit := do
  let elapsed ← Host.lap
  if a.has .time then say a .info (phaseMessage name elapsed)

/-- Goes on with a result, or fails with its cause. -/
def orFail {ε α : Type} (failure : ε → RunError) (result : Except ε α) : ExceptT RunError m α :=
  ExceptT.mk (pure (result.mapError failure))

/-- Writes a file into the directory of the arguments, which is made if need be. -/
def writeInto (a : Arguments) (filename : String) (text : List Char) : ExceptT RunError m Unit := do
  if !(← Host.makeDirectory a.directory) then throw (.unwritable a.directory)
  if !(← Host.write (a.pathOf filename) text) then throw (.unwritable (a.pathOf filename))

/-- Reads the registry. -/
def loadRegistry (reader : RegistryReader) (a : Arguments) : ExceptT RunError m Registry := do
  let some text ← Host.read? a.registry | throw (.unreadable a.registry)
  let some (registry, problems) := reader text | throw .notARegistry
  for problem in problems do
    say a .warning ("warning parsing registry: " ++ problem)
  return registry

/-- Builds the model of a selection. -/
def buildModel (a : Arguments) (registry : Registry) (selection : Selection) :
    ExceptT RunError m Model := do
  if lacksConstants registry then
    say a .warning ("registry has no `" ++ Vulkan.convention.constantsBlock ++ "` block")
  let model ← orFail .registry (registry.build Vulkan.convention selection)
  say a .info (modelMessage model)
  return model

/-- Reads the registry and builds the model that the arguments select. -/
def loadModel (reader : RegistryReader) (a : Arguments) : ExceptT RunError m Model := do
  let selection ← orFail .pattern a.selection
  let registry ← loadRegistry reader a
  endPhase a "load registry"
  let model ← buildModel a registry selection
  endPhase a "build model"
  return model

/-- Reports the references of a model that dangle. -/
def reportDangling (a : Arguments) (model : Model) : ExceptT RunError m Unit := do
  for reference in model.danglingReferences do
    say a .warning reference
  say a .info
    ("validation found " ++ Text.decimal model.danglingReferences.length ++ " problems")

/-- Writes the listing of a model into the directory of the arguments. -/
def writeListing (a : Arguments) (model : Model) : ExceptT RunError m Unit := do
  writeInto a "regdump.txt" model.listing.toList
  say a .info ("dumped model to " ++ a.pathOf "regdump.txt")

/-- Writes a generated file into the directory of the arguments. -/
def writeGenerated (a : Arguments) (generated : Generated) : ExceptT RunError m Unit := do
  writeInto a generated.filename generated.text
  say a .info ("wrote " ++ a.pathOf generated.filename ++ " (" ++
    Text.decimal (Text.byteLength generated.text) ++ " bytes)")

/-- Generates a target as the arguments ask for. -/
def generate (reader : RegistryReader) (a : Arguments) (target : Target) :
    ExceptT RunError m Unit := do
  let model ← loadModel reader a
  if a.has .validate then reportDangling a model
  if a.has .dump then writeListing a model
  let generated ← orFail .generation (target.generate model (!a.has .noProtect))
  endPhase a "generate"
  if a.has .profile then
    for tally in generated.statistics do
      say a .info (tallyMessage tally)
  writeGenerated a generated
  endPhase a "write"

/-- How a program ends: with an exit code, and with what it prints. -/
structure Outcome where
  exitCode : Nat
  output : String
  /-- What is printed to the user apart from the output. -/
  complaint : String
deriving DecidableEq, Repr

/-- The end of a program that prints nothing. -/
def Outcome.silent (exitCode : Nat) : Outcome := ⟨exitCode, "", ""⟩

/-- Carries out what the arguments ask for. -/
def runTarget (reader : RegistryReader) (a : Arguments) (name : String) : m Outcome :=
  match Target.find? name with
  | none => do
    say a .error ("unknown target " ++ Text.quoted name ++ ", see --list")
    return .silent 0
  | some target => do
    match ← (generate reader a target).run with
    | .ok () => return .silent 0
    | .error e =>
      say a .error (target.name ++ ": " ++ e.message)
      return .silent 1

/-- Carries out what the arguments ask for, once there is a log. -/
def runArguments (reader : RegistryReader) (a : Arguments) : m Outcome := do
  if !(← Host.openLog (a.setting? .errfile)) then return ⟨1, "", "failed to open log file\n"⟩
  else if a.has .list then
    return ⟨0, String.join (Target.names.map fun name => name ++ "\n"), ""⟩
  else
    match a.target with
    | some name => runTarget reader a name
    | none => return .silent 0

/-- Carries out a command line, with a registry file in XML. -/
def runCommandLine (arguments : List String) : m Outcome :=
  match Request.parse arguments with
  | .error e => return ⟨2, "", "error: " ++ e.message ++ "\n"⟩
  | .ok .help => return ⟨0, usage, ""⟩
  | .ok (.run a) => runArguments .ofXml a

end Run

end LayerStencil.CommandLine
