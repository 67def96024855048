import LayerStencil.Text.Basic

/-! # Command line arguments

A command line names a target and sets options. An argument that begins with a hyphen, other than a
hyphen alone, sets options: a long one by its name, with a value after an equals sign, or a cluster
of short ones, of which the last may take the rest of the argument as its value. A value that is not
part of its option follows it. After two hyphens alone every argument is a name.

Options for one value and switches are given at most once. Options for lists may be given again, and
take all values that follow.
-/

namespace LayerStencil.CommandLine

/-! ### Options -/

/-- Options without a value. -/
inductive Switch where
  /-- Do not guard headers. -/
  | noProtect
  /-- Look for references that dangle. -/
  | validate
  /-- Write a listing of the model. -/
  | dump
  /-- Tell the statistics of the expansion. -/
  | profile
  /-- Tell how long each phase takes. -/
  | time
  /-- Tell warnings and errors only. -/
  | quiet
  /-- List the targets instead of generating one. -/
  | list
deriving DecidableEq, Repr

/-- Options with one value. -/
inductive Setting where
  /-- The directory in which files are written. -/
  | directory
  /-- The file with the registry. -/
  | registry
  /-- The class of extensions that are included. -/
  | defaultExtensions
  /-- The file for log messages. -/
  | errfile
deriving DecidableEq, Repr

/-- Options with one or more values. -/
inductive ListOption where
  /-- Extensions to include besides. -/
  | added
  /-- Extensions to leave out. -/
  | removed
  /-- Extensions to emit. -/
  | emitted
  /-- Features to include. -/
  | features
deriving DecidableEq, Repr

/-- All options. -/
inductive CommandOption where
  | help
  | switch (s : Switch)
  | setting (s : Setting)
  | list (l : ListOption)
deriving DecidableEq, Repr

namespace CommandOption

/-- The options by their long names. -/
def byName : List (String × CommandOption) := [
  ("help", help), ("noprotect", switch .noProtect), ("validate", switch .validate),
  ("dump", switch .dump), ("profile", switch .profile), ("time", switch .time),
  ("quiet", switch .quiet), ("list", switch .list), ("directory", setting .directory),
  ("registry", setting .registry),
  ("default-extensions", setting .defaultExtensions), ("errfile", setting .errfile),
  ("extension", list .added), ("remove-extensions", list .removed),
  ("emit-extensions", list .emitted), ("feature", list .features)]

/-- The option with a given long name. -/
def ofName? (name : String) : Option CommandOption := byName.lookup name

/-- The option with a given letter. -/
def ofLetter? : Char → Option CommandOption
  | 'h' => some help
  | 'q' => some (switch .quiet)
  | 'o' => some (setting .directory)
  | _ => none

/-- Does the option take values? -/
def takesValue : CommandOption → Bool
  | setting _ | list _ => true
  | help | switch _ => false

end CommandOption

/-! ### Words -/

/-- A piece of a command line. -/
inductive Word where
  /-- An option, with the value that is part of the same argument. -/
  | option (o : CommandOption) (attached : Option String)
  /-- A text that names no option. -/
  | unknown (text : String)
  /-- A value of an option, or a name. -/
  | value (text : String)
  /-- A name. -/
  | name (text : String)
deriving DecidableEq, Repr

namespace Word

/-- The options of a cluster of letters. -/
def cluster : List Char → List Word
  | [] => []
  | c :: r =>
    match CommandOption.ofLetter? c with
    | none => [.unknown (String.ofList (c :: r))]
    | some o =>
      if o.takesValue then
        match r with
        | [] => [.option o none]
        | '=' :: rest => [.option o (some (String.ofList rest))]
        | rest => [.option o (some (String.ofList rest))]
      else .option o none :: cluster r

/-- The long option that an argument without its hyphens names. -/
def long (cs : List Char) : Word :=
  match CommandOption.ofName? (String.ofList (cs.takeWhile (· ≠ '='))) with
  | none => .unknown (String.ofList cs)
  | some o =>
    match cs.dropWhile (· ≠ '=') with
    | [] => .option o none
    | _ :: rest => .option o (some (String.ofList rest))

/-- The words of an argument. -/
def ofArgument (argument : String) : List Word :=
  match argument.toList with
  | ['-'] => [.value argument]
  | '-' :: '-' :: cs => [long cs]
  | '-' :: cs => cluster cs
  | _ => [.value argument]

/-- The words of a command line. -/
def ofArguments : List String → List Word
  | [] => []
  | argument :: rest =>
    if argument = "--" then rest.map .name else ofArgument argument ++ ofArguments rest

end Word

/-! ### Arguments -/

/-- What a command line asks for. -/
structure Arguments where
  target : Option String
  switches : List Switch
  settings : List (Setting × String)
  lists : List (ListOption × List String)
deriving DecidableEq, Repr

/-- Why a command line cannot be read. -/
inductive UsageError where
  | unknownOption (text : String)
  | missingValue (o : CommandOption)
  | emptyValue (s : Setting)
  | unexpectedValue (o : CommandOption)
  | repeated (o : CommandOption)
  | unexpectedName (text : String)
  | missingTarget
deriving DecidableEq, Repr

/-- The long name of an option, after two hyphens. -/
def CommandOption.written (o : CommandOption) : String :=
  match byName.find? (·.2 = o) with
  | some (name, _) => "--" ++ name
  | none => ""

/-- The message of a command line that cannot be read. -/
def UsageError.message : UsageError → String
  | unknownOption text => "unknown option in " ++ text
  | missingValue o => "a value is required for " ++ o.written
  | emptyValue s => "the value of " ++ (CommandOption.setting s).written ++ " is empty"
  | unexpectedValue o => o.written ++ " takes no value"
  | repeated o => o.written ++ " is given twice"
  | unexpectedName text => "unexpected argument " ++ text
  | missingTarget => "a target is required"

namespace Arguments

/-- The arguments before anything is read. -/
def empty : Arguments := ⟨none, [], [], []⟩

/-- Is a switch set? -/
def has (a : Arguments) (s : Switch) : Bool := a.switches.contains s

/-- The value of a setting, if it is given. -/
def setting? (a : Arguments) (s : Setting) : Option String := a.settings.lookup s

/-- All values of an option for lists. -/
def list (a : Arguments) (l : ListOption) : List String :=
  a.lists.flatMap fun e => if e.1 = l then e.2 else []

/-- The directory in which files are written. -/
def directory (a : Arguments) : String := (a.setting? .directory).getD "."

/-- The class of extensions that are included. -/
def defaultExtensions (a : Arguments) : String := (a.setting? .defaultExtensions).getD "vulkan"

/-! ### Reading -/

/-- The arguments with a switch. -/
def setSwitch (a : Arguments) (s : Switch) : Except UsageError Arguments :=
  if a.has s then .error (.repeated (.switch s)) else .ok { a with switches := s :: a.switches }

/-- The arguments with a setting; a path must not be empty. -/
def setSetting (a : Arguments) (s : Setting) (value : String) : Except UsageError Arguments :=
  if (a.setting? s).isSome then .error (.repeated (.setting s))
  else if value = "" ∧ s ≠ .defaultExtensions then .error (.emptyValue s)
  else .ok { a with settings := (s, value) :: a.settings }

/-- The arguments with more values of an option for lists. -/
def addList (a : Arguments) (l : ListOption) (values : List String) : Arguments :=
  { a with lists := a.lists ++ [(l, values)] }

/-- The arguments with a name that belongs to no option. -/
def setTarget (a : Arguments) (name : String) : Except UsageError Arguments :=
  if a.target.isSome then .error (.unexpectedName name) else .ok { a with target := some name }

end Arguments

/-- The option to which the next value belongs. -/
inductive Pending where
  | nothing
  | setting (s : Setting)
  /-- An option for lists, with the values that it has already, newest first. -/
  | list (l : ListOption) (values : List String)
deriving DecidableEq, Repr

namespace Arguments

/-- The arguments when no more value belongs to an option. -/
def settle (a : Arguments) : Pending → Except UsageError Arguments
  | .nothing => .ok a
  | .setting s => .error (.missingValue (.setting s))
  | .list l [] => .error (.missingValue (.list l))
  | .list l values => .ok (a.addList l values.reverse)

/-- The arguments with one more value or name, and the option to which the next value belongs. -/
def addValue (a : Arguments) (value : String) : Pending → Except UsageError (Arguments × Pending)
  | .nothing => (a.setTarget value).map (·, .nothing)
  | .setting s => (a.setSetting s value).map (·, .nothing)
  | .list l values => .ok (a, .list l (value :: values))

/-- The arguments with one more option, and the option to which the next value belongs. -/
def addOption (a : Arguments) :
    CommandOption → (attached : Option String) → Except UsageError (Arguments × Pending)
  | .help, _ => .ok (a, .nothing)
  | .switch s, none => (a.setSwitch s).map (·, .nothing)
  | .switch s, some _ => .error (.unexpectedValue (.switch s))
  | .setting s, none => .ok (a, .setting s)
  | .setting s, some value => (a.setSetting s value).map (·, .nothing)
  | .list l, none => .ok (a, .list l [])
  | .list l, some value => .ok (a.addList l [value], .nothing)

end Arguments

/-- What a command line that can be read asks for. -/
inductive Request where
  | help
  | run (a : Arguments)
deriving DecidableEq, Repr

namespace Request

/-- The request that the words of a command line make, given the arguments read before them; help
that is asked for hides what follows it. -/
def ofWords (a : Arguments) (pending : Pending) : List Word → Except UsageError Request
  | [] => do
    let a ← a.settle pending
    if a.target.isSome || a.has .list then return .run a else .error .missingTarget
  | .unknown text :: _ => .error (.unknownOption text)
  | .value text :: words => do
    let (a, pending) ← a.addValue text pending
    ofWords a pending words
  | .name text :: words => do
    let a ← a.settle pending
    let a ← a.setTarget text
    ofWords a .nothing words
  | .option .help attached :: _ => do
    let _ ← a.settle pending
    if attached.isSome then .error (.unexpectedValue .help) else return .help
  | .option o attached :: words => do
    let a ← a.settle pending
    let (a, pending) ← a.addOption o attached
    ofWords a pending words

/-- The request that a command line makes. -/
def parse (arguments : List String) : Except UsageError Request :=
  ofWords .empty .nothing (Word.ofArguments arguments)

end Request

end LayerStencil.CommandLine
