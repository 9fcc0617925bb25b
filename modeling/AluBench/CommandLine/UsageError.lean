import AluBench.CommandLine.Argument
import AluBench.CommandLine.Number
import AluBench.Text.Terminal

/-!
# Usage errors

Why a command line cannot be read. A message shows of an argument what a terminal would show of it:
control sequences and control characters are left out (`Text.Terminal.visible`).
-/

namespace AluBench.CommandLine

inductive UsageError where
  | unexpected (argument : String)
  | missingValue (setting : Setting)
  | repeatedSwitch (switch : Switch)
  | repeatedSetting (setting : Setting)
  | unwantedValue (switch : Switch) (value : String)
  | invalidValue (setting : Setting) (value : String) (fault : NumberFault)
  deriving DecidableEq, Repr, Inhabited

namespace UsageError

/-- What a message shows of an argument. -/
def shown (argument : String) : String :=
  String.ofList (Text.Terminal.visible argument.toList)

def cause : UsageError → String
  | unexpected argument => "unexpected argument '" ++ shown argument ++ "' found"
  | missingValue setting =>
    "a value is required for '" ++ setting.shown ++ "' but none was supplied"
  | repeatedSwitch switch =>
    "the argument '" ++ switch.shown ++ "' cannot be used multiple times"
  | repeatedSetting setting =>
    "the argument '" ++ setting.shown ++ "' cannot be used multiple times"
  | unwantedValue switch value =>
    "unexpected value '" ++ shown value ++ "' for '" ++ switch.shown
      ++ "' found; no more were expected"
  | invalidValue setting value fault =>
    "invalid value '" ++ shown value ++ "' for '" ++ setting.shown ++ "': " ++ fault.text

def message (e : UsageError) : String := "error: " ++ e.cause

end UsageError

/-- Why a command line leads to no run. -/
inductive Stop where
  | help
  | version
  | refused (error : UsageError)
  deriving DecidableEq, Repr, Inhabited

end AluBench.CommandLine
