/-!
# Failures

What can go wrong around a run. A device that fails its vectors is no failure: that is what the
report says.
-/

namespace AluBench

inductive Failure where
  /-- The log file could not be created. -/
  | io (cause : String)
  /-- The report could not be written as JSON. -/
  | encoding (cause : String)
  /-- A name that is no mnemonic, as it was given. -/
  | unknownOperation (name : String)
  deriving DecidableEq, Repr, Inhabited

def Failure.message : Failure → String
  | io cause => "I/O error: " ++ cause
  | encoding cause => "Failed to encode report: " ++ cause
  | unknownOperation name =>
    "Unknown operation '" ++ name ++ "': expected one of add, sub, and, or, xor, eq"

end AluBench
