import AluBench.Log

/-!
# Devices under test

A device is a state machine that is asked for the output of two operands and a selector. The bytes
it is asked with are not masked: what to make of a high nibble is the device's concern.
-/

namespace AluBench

/-- What one evaluation gives: the output, the state after it, and what it logged. -/
structure Response (σ : Type) where
  output : Output
  state : σ
  log : List Log.Event

structure Device (σ : Type) where
  evaluate : (state : σ) → (a b sel : UInt8) → Response σ

namespace Device

/-- A device that logs nothing and whose state is the number of its evaluations, on which its
answer may depend. -/
def counting (answer : (calls : Nat) → (a b sel : UInt8) → Output) : Device Nat where
  evaluate calls a b sel := ⟨answer calls a b sel, calls + 1, []⟩

/-- A device whose answer depends on nothing but what it is asked. -/
def ofFunction (answer : (a b sel : UInt8) → Output) : Device Nat := counting fun _ => answer

/-- The golden model as a device. -/
def model : Device Nat := ofFunction Model.evaluate

end Device

end AluBench
