import DemandRide.Program

/-! The program on the files and streams of the system, with the tools of this library. The level
of the log is taken from the environment. -/
namespace DemandRide.CommandLine

/-- The content of a file if it can be read. -/
def contentOf (path : String) : IO (Option String) := do
  try
    return some (← IO.FS.readFile path)
  catch _ => return none

/-- Open a file for writing if that can be done. -/
def create (path : String) : IO (Option (String → IO Unit)) := do
  try
    let handle ← IO.FS.Handle.mk path .write
    return some fun text => do
      handle.putStr text
      handle.flush
  catch _ => return none

/-- The files, the standard output and the standard error of the system. Entries of the log are
shown from the given level on. -/
def Host.system (level : LogLevel) : Host IO where
  read? := contentOf
  create? := create
  print := IO.print
  log entry := do
    if level.shows entry.level then IO.eprintln entry.line

end DemandRide.CommandLine

open DemandRide CommandLine in
def main (arguments : List String) : IO UInt32 := do
  let level := ((← IO.getEnv "LOG_LEVEL").bind LogLevel.ofWord?).getD .error
  (Host.system level).program .own arguments
