import AluBench.Bus
import AluBench.Device

/-!
# Wire-level devices

A wire takes the packed input buses and shows the packed output bus. `Wire.toDevice` asks it in one
step per evaluation: drive, settle, sample. No high nibble of an operand or a selector reaches the
wire.
-/

namespace AluBench

structure Wire (ω : Type) where
  /-- Puts the operand byte and the selector byte on the input buses. -/
  drive : ω → (operands selector : UInt8) → ω
  /-- Waits for the outputs to become valid. -/
  settle : ω → ω := id
  /-- Reads the output bus, which may itself leave a trace in the wire. -/
  sample : ω → UInt8 × ω

namespace Wire

variable {ω : Type}

/-- The byte shown after a drive, and the wire's state once it is read. -/
def step (w : Wire ω) (state : ω) (operands selector : UInt8) : UInt8 × ω :=
  w.sample (w.settle (w.drive state operands selector))

def toDevice (w : Wire ω) : Device ω where
  evaluate state a b sel :=
    let operands := Bus.packOperands a b
    let selector := sel &&& nibbleMask
    let shown := w.step state operands selector
    ⟨Bus.unpackOutput shown.1, shown.2, [.wireStep operands selector shown.1]⟩

end Wire

end AluBench
