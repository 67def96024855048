import LayerStencil.CommandLine.Run

/-! # The program

Carries out a command line on the files of the machine.
-/

namespace LayerStencil.CommandLine

/-- Where the log goes. -/
structure Log where
  stream : IO.FS.Stream
  /-- When the current phase began, in milliseconds. -/
  started : Nat

/-- Actions on the machine that write a log. -/
abbrev Machine := StateT Log IO

/-- Carries out an action, if that can be done. -/
def attempt {α : Type} (action : IO α) : Machine (Option α) :=
  StateT.lift (try some <$> action catch _ => pure none)

instance : Host Machine where
  openLog
    | none => return true
    | some path => do
      match ← attempt (IO.FS.Handle.mk path .write) with
      | some handle =>
        modify fun log => { log with stream := .ofHandle handle }
        return true
      | none => return false
  log _ line := do
    let log ← get
    log.stream.putStrLn line
    log.stream.flush
  lap := do
    let log ← get
    let now ← IO.monoMsNow
    set { log with started := now }
    return now - log.started
  read? path := do
    let text ← attempt (IO.FS.readFile path)
    return text.map String.toList
  makeDirectory path := do
    let made ← attempt (IO.FS.createDirAll path)
    return made.isSome
  write path text := do
    let written ← attempt (IO.FS.writeFile path (String.ofList text))
    return written.isSome

end LayerStencil.CommandLine

open LayerStencil.CommandLine

/-- Carries out the command line of the program. -/
def main (arguments : List String) : IO UInt32 := do
  let log : Log := ⟨← IO.getStderr, ← IO.monoMsNow⟩
  let (outcome, _) ← (runCommandLine arguments : Machine Outcome).run log
  IO.print outcome.output
  IO.eprint outcome.complaint
  return outcome.exitCode.toUInt32
