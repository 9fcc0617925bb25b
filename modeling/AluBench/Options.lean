import AluBench.Report
import AluBench.TestVector.Sweep
import AluBench.TestVector.Table

/-!
# Options of a bench run

Which vectors to run, how to print what came of them, and where the log goes.
-/

namespace AluBench

structure Options where
  /-- Sweep all operands instead of running the table. -/
  sweep : Bool := false
  /-- Report every mismatch instead of stopping at the first failing vector. -/
  collectAll : Bool := false
  /-- Print the report as JSON. -/
  json : Bool := false
  /-- Mnemonics of the operations to run, all of them if there are none. -/
  operations : List String := []
  /-- The log file, standard error if there is none. -/
  logPath : Option String := none
  /-- Nanoseconds between driving the inputs and sampling the outputs. -/
  settleTime : Option Nat := none
  deriving DecidableEq, Repr, Inhabited

namespace Options

def policy (o : Options) : Policy := if o.collectAll then .collectAll else .failFast

/-- The vectors to run for a list of operations. A sweep runs an operation as often as it is listed;
the table has each of its vectors once. -/
def vectors (o : Options) (ops : List Operation) : List TestVector :=
  if o.sweep then TestVector.sweep ops else TestVector.tableOf ops

end Options

end AluBench
