import AluBench.Bench

/-!
# How the program ends

What is printed and the exit code once the options are read: 0 if every vector matched, 1 if the
bench failed or a vector did. Which lines of the log are kept, and what is warned of for how that
was asked for, comes from outside.
-/

namespace AluBench

structure Exit where
  code : UInt32
  stdout : String := ""
  stderr : String := ""
  /-- The text of the log file, if there is to be one. -/
  logFile : String := ""
  /-- The nanoseconds spent settling. -/
  settled : Nat := 0

namespace Program

/-- A line of the log file, the level as wide as the longest. -/
def logLine (e : Log.Event) : String :=
  String.ofList (e.level.name.toList.rightpad 5 ' ') ++ " " ++ e.text ++ "\n"

/-- Where log lines go. -/
inductive LogTarget where
  | errors | output | file
  deriving DecidableEq, Repr, Inhabited

/-- What the program does with options, once it is known where its log lines go or why no log file
could be created. -/
def ofOptions (o : Options) (kept : Log.Event → Bool) (warnings : List String)
    (target : Except String LogTarget) : Exit :=
  let outcome := Bench.execute ⟨false, fun _ => target.map fun _ => ()⟩ o
  let warned := String.join (warnings.map fun w => "warning: " ++ w ++ ", ignoring it\n")
  let logged := String.join ((outcome.log.filter kept).map logLine)
  let sent (t : LogTarget) : String := if target.toOption = some t then logged else ""
  let stderr := warned ++ sent .errors
  match outcome.result with
  | .ok report =>
    { code := if report.isSuccess then 0 else 1
      stdout := sent .output ++ report.render o.json ++ "\n"
      stderr, logFile := sent .file, settled := outcome.settled }
  | .error failure =>
    { code := 1
      stdout := sent .output
      stderr := stderr ++ "Error: " ++ failure.message ++ "\n", logFile := sent .file }

end Program

end AluBench
