import AluBench.Device.Trace

/-!
# Devices without a history

A device may answer from its state. One that does not is known by a function of the three bytes it
is asked with, and a wire by a function of the two bytes it is driven with.
-/

namespace AluBench

/-- Whatever its state, the device answers `answer`. -/
def Device.Answers {σ : Type} (d : Device σ) (answer : (a b sel : UInt8) → Output) : Prop :=
  ∀ state a b sel, (d.evaluate state a b sel).output = answer a b sel

/-- Whatever its state, the wire shows `bus` once it is driven. -/
def Wire.Shows {ω : Type} (w : Wire ω) (bus : (operands selector : UInt8) → UInt8) : Prop :=
  ∀ state operands selector, (w.step state operands selector).1 = bus operands selector

/-! ## Lemmas -/

theorem Device.answers_ofFunction (answer : (a b sel : UInt8) → Output) :
    (ofFunction answer).Answers answer := by
  intro state a b sel
  rfl

theorem Device.outputs_of_answers {σ : Type} {d : Device σ}
    {answer : (a b sel : UInt8) → Output} (h : d.Answers answer) (vectors : List TestVector)
    (state : σ) : d.outputs vectors state = vectors.map fun v => answer v.a v.b v.sel := by
  induction vectors generalizing state with
  | nil => rfl
  | cons v vectors ih => rw [outputs, ih, h, List.map_cons]

theorem Wire.answers_of_shows {ω : Type} {w : Wire ω} {bus : (operands selector : UInt8) → UInt8}
    (h : w.Shows bus) :
    w.toDevice.Answers fun a b sel =>
      Bus.unpackOutput (bus (Bus.packOperands a b) (sel &&& nibbleMask)) := by
  intro state a b sel
  show Bus.unpackOutput (w.step state (Bus.packOperands a b) (sel &&& nibbleMask)).1 = _
  rw [h]

end AluBench
