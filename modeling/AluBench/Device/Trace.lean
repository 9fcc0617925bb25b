import AluBench.Device.Wire

/-!
# What a device answers to a list of vectors

The outputs of a device that is asked vector after vector, and the state it ends in, whatever the
outputs are compared with.

    d.after (xs ++ ys) s = d.after ys (d.after xs s)                              (after_append)
    w.toDevice.outputs xs s = (w.samples xs s).map Bus.unpackOutput           (outputs_toDevice)
-/

namespace AluBench

namespace Device

variable {σ : Type}

/-- The outputs for the vectors in turn. -/
def outputs (d : Device σ) : List TestVector → σ → List Output
  | [], _ => []
  | v :: vectors, state =>
    let response := d.evaluate state v.a v.b v.sel
    response.output :: d.outputs vectors response.state

/-- The state after the vectors. -/
def after (d : Device σ) : List TestVector → σ → σ
  | [], state => state
  | v :: vectors, state => d.after vectors (d.evaluate state v.a v.b v.sel).state

@[simp] theorem length_outputs (d : Device σ) (vectors : List TestVector) (state : σ) :
    (d.outputs vectors state).length = vectors.length := by
  induction vectors generalizing state with
  | nil => rfl
  | cons v vectors ih => simp [outputs, ih]

theorem after_append (d : Device σ) (xs ys : List TestVector) (state : σ) :
    d.after (xs ++ ys) state = d.after ys (d.after xs state) := by
  induction xs generalizing state with
  | nil => rfl
  | cons v xs ih => exact ih _

end Device

namespace Wire

variable {ω : Type}

/-- The bytes that the wire shows for the vectors in turn. -/
def samples (w : Wire ω) : List TestVector → ω → List UInt8
  | [], _ => []
  | v :: vectors, state =>
    let shown := w.step state (Bus.packOperands v.a v.b) (v.sel &&& nibbleMask)
    shown.1 :: w.samples vectors shown.2

@[simp] theorem length_samples (w : Wire ω) (vectors : List TestVector) (state : ω) :
    (w.samples vectors state).length = vectors.length := by
  induction vectors generalizing state with
  | nil => rfl
  | cons v vectors ih => simp [samples, ih]

/-- A wire's device answers what the wire shows. -/
theorem outputs_toDevice (w : Wire ω) (vectors : List TestVector) (state : ω) :
    w.toDevice.outputs vectors state = (w.samples vectors state).map Bus.unpackOutput := by
  induction vectors generalizing state with
  | nil => rfl
  | cons v vectors ih => simp [Device.outputs, samples, toDevice, ← ih]

end Wire

end AluBench
