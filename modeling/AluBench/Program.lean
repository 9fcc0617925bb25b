import AluBench.CommandLine.Help
import AluBench.CommandLine.Parser
import AluBench.Directory.Path
import AluBench.Log.Filter
import AluBench.Program.Exit

/-!
# The program

From arguments, a setting of the log filter and the creation of the log file to what is printed and
the exit code, which is 2 if the arguments cannot be read. `runIn` is the whole program in a
directory of files.
-/

namespace AluBench.Program

open CommandLine

/-- What the program says when the arguments lead to no run. -/
def ofStop : Stop → Exit
  | .help => { code := 0, stdout := helpText }
  | .version => { code := 0, stdout := versionText }
  | .refused error =>
    { code := 2
      stderr := error.message ++ "\n\n" ++ usageText
        ++ "\n\nFor more information, try '--help'.\n" }

/-- Where the log lines go that are written at a place. -/
def LogTarget.ofPlace : Directory.Place → LogTarget
  | .stream .errors => .errors
  | .stream .output => .output
  | .file _ | .outside => .file

/-- The program in a working directory, with what the environment sets the log filter to, and the
directory after it. -/
def runIn (d : Directory) (setting : Option String) (arguments : List String) : Exit × Directory :=
  match parse arguments with
  | .error stop => (ofStop stop, d)
  | .ok o =>
    let (filter, warnings) := Log.Filter.ofSetting setting
    let exit := ofOptions o filter.admits warnings
    match o.logPath.map d.locate with
    | none => (exit (.ok .errors), d)
    | some (.error e) => (exit (.error e.text), d)
    | some (.ok place) =>
      let exit := exit (.ok (.ofPlace place))
      (exit, d.writeAt place exit.logFile)

end AluBench.Program
