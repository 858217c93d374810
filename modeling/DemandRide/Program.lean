import DemandRide.CommandLine

/-! The program: its arguments are looked at, the command they ask for is performed on the one
file it reads, and what came of it is written. The program is written for any tools, and for any
host that can read and create files, print and keep a log. A file that is created loses what it
held, so none is created before there is something to write. -/
namespace DemandRide.CommandLine

/-- What a program runs on. -/
structure Host (m : Type → Type) where
  /-- The content of a file if it can be read as text. -/
  read? : String → m (Option String)
  /-- Open a file for writing, which empties it; what writes to it then, if it can be opened. -/
  create? : String → m (Option (String → m Unit))
  /-- Write to the standard output. -/
  print : String → m Unit
  /-- Put an entry into the log. Which entries a reader is shown is up to the host. -/
  log : LogEntry → m Unit

/-- The file a command reads. -/
def Command.input : Command → String
  | .route scenario _ => scenario
  | .check plans => plans

def usage : String := "usage: route --scenario FILE [--output FILE] | check --plans FILE"

namespace Host

variable {m : Type → Type} [Monad m] (host : Host m) (tools : Tools)

/-- Say why a command failed, and fail. -/
def fail (failure : Failure) : m UInt32 := do
  host.log failure.entry
  return 1

/-- Write what a command came to. -/
def finish : Except Failure Output → m UInt32
  | .error failure => host.fail failure
  | .ok .nothing => return 0
  | .ok (.standard text) => do
    host.print text
    return 0
  | .ok (.file path text) => do
    match ← host.create? path with
    | some write =>
      write text
      return 0
    | none => host.fail (.unwritable path)

/-- Perform a command. Whether its output can be written is seen when it is to be written. -/
def perform (command : Command) : m UInt32 := do
  let content ← host.read? command.input
  let reached := (tools.perform ⟨fun _ => content, fun _ => true⟩ command).run ()
  reached.notices.forM fun notice => host.log notice.entry
  host.finish reached.result

/-- The program on its arguments, with the exit code it ends with. -/
def program (arguments : List String) : m UInt32 :=
  match tools.command? arguments with
  | none => do
    host.log ⟨.error, usage, []⟩
    return 2
  | some command => host.perform tools command

end Host

end DemandRide.CommandLine
