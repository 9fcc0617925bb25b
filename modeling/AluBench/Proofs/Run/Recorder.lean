import AluBench.Device.Recorder
import AluBench.Proofs.Run.Outputs
import AluBench.Session

/-!
# What a recorder sees of a run

A recorder in front of a wire changes no reply, and of a run it keeps one step for each vector that
was executed: drive, settle, sample.

    (w.recorded.toDevice.run policy vectors state).state.calls =
      state.calls ++ (vectors.take executed).flatMap stepCalls              (state_run_recorded)
-/

namespace AluBench.Wire

variable {ω : Type}

/-- The calls that a wire gets for one vector. -/
def stepCalls (v : TestVector) : List Call :=
  [.drive (Bus.packOperands v.a v.b) (v.sel &&& nibbleMask), .settle, .sample]

theorem evaluate_recorded (w : Wire ω) (state : Recorded ω) (v : TestVector) :
    w.recorded.toDevice.evaluate state v.a v.b v.sel =
      let response := w.toDevice.evaluate state.inner v.a v.b v.sel
      ⟨response.output, ⟨response.state, state.calls ++ stepCalls v⟩, response.log⟩ := by
  simp only [toDevice, step_recorded, stepCalls]

theorem outputs_recorded (w : Wire ω) (vectors : List TestVector) (state : Recorded ω) :
    w.recorded.toDevice.outputs vectors state = w.toDevice.outputs vectors state.inner := by
  induction vectors generalizing state with
  | nil => rfl
  | cons v vectors ih => simp only [Device.outputs, evaluate_recorded, ih]

theorem after_recorded (w : Wire ω) (vectors : List TestVector) (state : Recorded ω) :
    w.recorded.toDevice.after vectors state =
      ⟨w.toDevice.after vectors state.inner, state.calls ++ vectors.flatMap stepCalls⟩ := by
  induction vectors generalizing state with
  | nil => simp [Device.after]
  | cons v vectors ih => simp [Device.after, evaluate_recorded, ih]

theorem report_run_recorded (w : Wire ω) (policy : Policy) (vectors : List TestVector)
    (state : Recorded ω) :
    (w.recorded.toDevice.run policy vectors state).report =
      (w.toDevice.run policy vectors state.inner).report :=
  Device.report_run_congr (outputs_recorded w vectors state) policy

/-- A run drives, settles and samples once for each vector that it executes. -/
theorem state_run_recorded (w : Wire ω) (policy : Policy) (vectors : List TestVector)
    (state : Recorded ω) :
    let r := w.toDevice.run policy vectors state.inner
    (w.recorded.toDevice.run policy vectors state).state =
      ⟨r.state, state.calls ++ (vectors.take r.report.executed).flatMap stepCalls⟩ := by
  intro r
  rw [Device.state_run, report_run_recorded, after_recorded]
  congr 1
  exact (Device.state_run policy).symm

/-- A recorder is not seen from outside. -/
theorem serve_recorded (w : Wire ω) (state : Recorded ω) (request : Request) :
    (w.recorded.serve state request).reply = (w.serve state.inner request).reply ∧
      (w.recorded.serve state request).state.inner = (w.serve state.inner request).state := by
  cases request with
  | drive | settle | sample => exact ⟨rfl, rfl⟩
  | device request =>
    cases request with
    | evaluate a b sel =>
      have h := evaluate_recorded w state ⟨a, b, sel, 0⟩
      dsimp only at h
      simp only [serve, Device.serve, h, and_self]
    | run policy vectors | check vectors =>
      simp only [serve, Device.serve, report_run_recorded, state_run_recorded, and_self]

end AluBench.Wire
