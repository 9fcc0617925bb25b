import AluBench.Device.Wire

/-!
# The model behind the buses

A stand-in for the hardware: the golden model, seen through the packed buses. The output byte is
computed when the inputs are driven and stays until the next drive. `settleTime` is how long a
settle waits; it changes no output.
-/

namespace AluBench

structure ModelWire where
  operands : UInt8 := 0
  selector : UInt8 := 0
  /-- The byte on the output bus. -/
  shown : UInt8 := 0
  /-- In nanoseconds. -/
  settleTime : Option Nat := none
  /-- How often the wire was driven. -/
  steps : Nat := 0
  deriving DecidableEq, Repr, Inhabited

namespace ModelWire

/-- How long a settle waits if nothing else is asked for. -/
def usualSettleTime : Nat := 10

/-- The output byte of the model for two input bytes. -/
def respond (operands selector : UInt8) : UInt8 :=
  let (a, b) := Bus.unpackOperands operands
  Bus.packOutput (Model.evaluate a b selector)

/-- Only the low nibble of the selector byte is connected. -/
def drive (w : ModelWire) (operands selector : UInt8) : ModelWire :=
  let selector := selector &&& nibbleMask
  { w with operands, selector, shown := respond operands selector, steps := w.steps + 1 }

def wire : Wire ModelWire where
  drive := drive
  sample w := (w.shown, w)

/-- The wire as a device. -/
def device : Device ModelWire := wire.toDevice

/-- The nanoseconds that a wire has spent settling, one settle per step. -/
def settled (w : ModelWire) : Nat := w.steps * w.settleTime.getD 0

end ModelWire

end AluBench
