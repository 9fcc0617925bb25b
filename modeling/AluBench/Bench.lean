import AluBench.Device.ModelWire
import AluBench.Failure
import AluBench.Options
import AluBench.Run

/-!
# The bench

Runs the vectors that the options ask for on the wire of the golden model. The log file is created
before anything else is looked at, so if that fails no operation name is read and nothing is logged.
-/

namespace AluBench

/-- What a bench needs of the process it runs in. -/
structure Host where
  /-- Another part of the process has a logger, which the bench leaves in place. -/
  loggerInstalled : Bool
  /-- Creates the log file at a path, or says why it cannot. -/
  createLog : String → Except String Unit

structure Outcome where
  result : Except Failure Report
  log : List Log.Event
  /-- The nanoseconds spent settling. -/
  settled : Nat

namespace Bench

/-- Creates the log file if there is to be one. -/
def openLog (host : Host) (o : Options) : Except String Unit :=
  match o.logPath with
  | some path => host.createLog path
  | none => .ok ()

/-- Runs the vectors for a list of operations. -/
def runOperations (o : Options) (ops : List Operation) : Run ModelWire :=
  let vectors := o.vectors ops
  let settleTime := o.settleTime.getD ModelWire.usualSettleTime
  let r := ModelWire.device.run o.policy vectors { settleTime := some settleTime }
  { r with log := .started vectors.length o.policy settleTime :: r.log }

def execute (host : Host) (o : Options) : Outcome :=
  match openLog host o with
  | .error cause => ⟨.error (.io cause), [], 0⟩
  | .ok () =>
    let kept := if host.loggerInstalled then [.loggerKept] else []
    match Operation.ofNames o.operations with
    | .error name => ⟨.error (.unknownOperation name), kept, 0⟩
    | .ok ops =>
      let r := runOperations o ops
      ⟨.ok r.report, kept ++ r.log, r.state.settled⟩

end Bench

end AluBench
