import AluBench.Device.Wire

/-!
# Recorded devices and wires

A device or a wire behind a recorder that keeps every call that reaches it, in order, and changes
nothing else.
-/

namespace AluBench

namespace Device

/-- The bytes that a device is asked with. -/
structure Call where
  a : UInt8
  b : UInt8
  sel : UInt8
  deriving DecidableEq, Repr, Inhabited

/-- The state of a recorded device: the device's own, and the calls so far. -/
structure Recorded (σ : Type) where
  inner : σ
  calls : List Call := []

def recorded {σ : Type} (d : Device σ) : Device (Recorded σ) where
  evaluate state a b sel :=
    let response := d.evaluate state.inner a b sel
    ⟨response.output, ⟨response.state, state.calls ++ [⟨a, b, sel⟩]⟩, response.log⟩

end Device

namespace Wire

inductive Call where
  | drive (operands selector : UInt8)
  | settle
  | sample
  deriving DecidableEq, Repr, Inhabited

/-- The state of a recorded wire: the wire's own, and the calls so far. -/
structure Recorded (ω : Type) where
  inner : ω
  calls : List Call := []

variable {ω : Type}

def recorded (w : Wire ω) : Wire (Recorded ω) where
  drive state operands selector :=
    ⟨w.drive state.inner operands selector, state.calls ++ [.drive operands selector]⟩
  settle state := ⟨w.settle state.inner, state.calls ++ [.settle]⟩
  sample state :=
    let shown := w.sample state.inner
    (shown.1, ⟨shown.2, state.calls ++ [.sample]⟩)

/-- A step is one drive, one settle and one sample. -/
theorem step_recorded (w : Wire ω) (state : Recorded ω) (operands selector : UInt8) :
    w.recorded.step state operands selector =
      ((w.step state.inner operands selector).1,
        ⟨(w.step state.inner operands selector).2,
          state.calls ++ [.drive operands selector, .settle, .sample]⟩) := by
  simp [recorded, step]

end Wire

end AluBench
