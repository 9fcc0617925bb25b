import AluBench.Program

/-!
# The command line

Carries out what `Program` decides: creates and fills the log file, waits for the wire to settle,
prints, and ends with the exit code.
-/

namespace AluBench.CommandLine

/-- The environment variable that sets the log filter. -/
def filterVariable : String := "RUST_LOG"

/-- Creates an empty file, or says why it cannot be. -/
def createFile (path : String) : IO (Except String Unit) := do
  try
    IO.FS.writeFile path ""
    return .ok ()
  catch
    | .noFileOrDirectory _ code details => return .error s!"{details} (os error {code})"
    | .permissionDenied _ code details => return .error s!"{details} (os error {code})"
    | .inappropriateType _ code details => return .error s!"{details} (os error {code})"
    | .invalidArgument _ code details => return .error s!"{details} (os error {code})"
    | e => return .error (toString e)

/-- Prints what the program says and gives its exit code. -/
def finish (exit : Exit) : IO UInt32 := do
  IO.sleep (min (exit.settled / 1000000) 0xFFFF_FFFF).toUInt32
  (← IO.getStderr).putStr exit.stderr
  (← IO.getStdout).putStr exit.stdout
  return exit.code

/-- The program in the process that runs it. -/
def run (arguments : List String) : IO UInt32 := do
  match parse arguments with
  | .error stop => finish (Program.ofStop stop)
  | .ok o =>
    let (filter, warnings) := Log.Filter.ofSetting (← IO.getEnv filterVariable)
    let exit := Program.ofOptions o filter.admits warnings
    match o.logPath with
    | none => finish (exit (.ok .errors))
    | some path =>
      let created ← createFile path
      let exit := exit (created.map fun _ => .file)
      if created.toBool then IO.FS.writeFile path exit.logFile
      finish exit

end AluBench.CommandLine

def main (arguments : List String) : IO UInt32 := AluBench.CommandLine.run arguments
