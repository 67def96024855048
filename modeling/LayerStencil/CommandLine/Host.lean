import LayerStencil.CommandLine.Arguments

/-! # Hosts

What a run asks of the world around it: to read and write files, to make directories, to take the
lines of a log, and to measure time. A run is written over any host, so that it can be carried out
on the files of a machine as well as on a tree of files that is a value.
-/

namespace LayerStencil.CommandLine

/-- How much a log message matters. -/
inductive Level where
  | info
  | warning
  | error
deriving DecidableEq, Repr

/-- The line of a log for a message. -/
def Level.line (level : Level) (message : String) : String :=
  match level with
  | info => "info: " ++ message
  | warning => "warning: " ++ message
  | error => "error: " ++ message

/-- The world around a run. -/
class Host (m : Type → Type) where
  /-- Begins a log, in an empty file if the path of a file is given, if that can be done. -/
  openLog : (file : Option String) → m Bool
  /-- Adds a line to the log, which is in a file if the path of one is given. -/
  log : (file : Option String) → (line : String) → m Unit
  /-- How many milliseconds went by since this was asked before. -/
  lap : m Nat
  /-- The text of the file that a path leads to, if there is one. -/
  read? : String → m (Option (List Char))
  /-- Makes sure that a directory is there, with all directories that lead to it, if that can be
  done. -/
  makeDirectory : String → m Bool
  /-- Puts a text into the file that a path leads to, if that can be done. -/
  write : String → List Char → m Bool

/-- A host stays one for a run that can fail. -/
instance {ε : Type} {m : Type → Type} [Monad m] [Host m] : Host (ExceptT ε m) where
  openLog file := ExceptT.lift (Host.openLog file)
  log file line := ExceptT.lift (Host.log file line)
  lap := ExceptT.lift Host.lap
  read? path := ExceptT.lift (Host.read? path)
  makeDirectory path := ExceptT.lift (Host.makeDirectory path)
  write path text := ExceptT.lift (Host.write path text)

end LayerStencil.CommandLine
