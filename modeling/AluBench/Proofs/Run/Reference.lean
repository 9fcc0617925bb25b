import AluBench.Device.Recorder
import AluBench.Proofs.Run.Trials

/-!
# The report of a full run

A run that stops nowhere asks the device for every vector once, in order, and its report follows
from the vectors and the answers alone.

    (d.run .collectAll vectors state).report =
      Report.reference vectors (d.outputs vectors state)         (report_run_collectAll)
-/

namespace AluBench

variable {σ : Type}

/-- What is to be reported of vectors and the outputs that answer them. -/
def Report.reference (vectors : List TestVector) (outputs : List Output) : Report where
  policy := .collectAll
  total := vectors.length
  executed := vectors.length
  passed := (vectors.zip outputs).countP fun (v, out) => out = v.expectedOutput
  mismatches := (vectors.zip outputs).zipIdx.flatMap fun ((v, out), index) => v.entries index out
  halted := false

/-! ## Lemmas -/

namespace Device

theorem outputs_recorded (d : Device σ) (vectors : List TestVector) (state : Recorded σ) :
    d.recorded.outputs vectors state = d.outputs vectors state.inner := by
  induction vectors generalizing state with
  | nil => rfl
  | cons v vectors ih =>
    simp only [outputs, ih]
    rfl

/-- The recorder has one call for each vector, with its bytes as they stand. -/
theorem after_recorded (d : Device σ) (vectors : List TestVector) (state : Recorded σ) :
    d.recorded.after vectors state =
      ⟨d.after vectors state.inner,
        state.calls ++ vectors.map fun v => ⟨v.a, v.b, v.sel⟩⟩ := by
  induction vectors generalizing state with
  | nil => simp [after]
  | cons v vectors ih =>
    rw [after, ih, after, List.map_cons]
    simp [recorded]

theorem countP_passes_trials (d : Device σ) (index : Nat) (vectors : List TestVector)
    (state : σ) :
    (d.trials index vectors state).countP Trial.passes =
      (vectors.zip (d.outputs vectors state)).countP fun (v, out) => out = v.expectedOutput := by
  rw [← map_trials_eq_zip d index, List.countP_map]
  rfl

theorem flatMap_mismatches_trials (d : Device σ) (index : Nat) (vectors : List TestVector)
    (state : σ) :
    (d.trials index vectors state).flatMap Trial.mismatches =
      ((vectors.zip (d.outputs vectors state)).zipIdx index).flatMap
        fun ((v, out), index) => v.entries index out := by
  rw [← map_trials_eq_zipIdx, List.flatMap_map]
  congr 1
  funext t
  exact TestVector.mismatches_eq_entries

theorem report_run_collectAll (d : Device σ) (vectors : List TestVector) (state : σ) :
    (d.run .collectAll vectors state).report =
      .reference vectors (d.outputs vectors state) := by
  rw [run_eq]
  simp only [Trial.carriedOut, length_trials, countP_passes_trials, flatMap_mismatches_trials]
  simp [Report.reference]

/-! ## The full run -/

theorem run_collectAll_eq_reference (d : Device σ) (vectors : List TestVector) (state : σ) :
    (d.run .collectAll vectors state).report =
        .reference vectors (d.outputs vectors state) ∧
      (d.run .collectAll vectors state).state = d.after vectors state ∧
      (d.recorded.run .collectAll vectors ⟨state, []⟩).report =
        (d.run .collectAll vectors state).report ∧
      (d.recorded.run .collectAll vectors ⟨state, []⟩).state =
        ⟨d.after vectors state, vectors.map fun v => ⟨v.a, v.b, v.sel⟩⟩ := by
  refine ⟨report_run_collectAll d vectors state, state_run_collectAll d vectors state, ?_, ?_⟩
  · rw [report_run_collectAll, report_run_collectAll, outputs_recorded]
  · rw [state_run_collectAll, after_recorded]
    rfl

end Device

end AluBench
