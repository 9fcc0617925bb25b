import AluBench.Proofs.Run.ModelWire
import AluBench.Proofs.Run.Recorder
import Mathlib.Algebra.Ring.Nat

/-!
# The wire of the model through a session

Whatever a session asks of a wire comes down to drives, settles and samples, so what each of these
three keeps, every session keeps (`Keeps.stateAfter`). For the wire of the model that is the state
which the drives alone lead to: it counts them, holds the inputs of the last one, and shows what the
model answers to these.
-/

namespace AluBench

/-- The state after requests were served one after the other. -/
def stateAfter {ι ρ σ : Type} (serve : σ → ι → Served ρ σ) : σ → List ι → σ
  | state, [] => state
  | state, request :: requests => stateAfter serve (serve state request).state requests

/-- The input bytes of a drive. -/
def Wire.Call.inputs? : Call → Option (UInt8 × UInt8)
  | .drive operands selector => some (operands, selector)
  | .settle | .sample => none

/-- The inputs that a recorded wire was driven with. -/
def Wire.Recorded.driven {ω : Type} (state : Recorded ω) : List (UInt8 × UInt8) :=
  state.calls.filterMap Call.inputs?

/-- How often the wire of the model is driven to serve a request. A check ends with the first vector
that the model does not answer as expected. -/
def ModelWire.drives : Wire.Request → Wire.Reply → Nat
  | .drive .., _ => 1
  | .device (.evaluate ..), _ => 1
  | .device (.run ..), .device (.report r) => r.executed
  | .device (.check vectors), _ =>
    (vectors.take
      (vectors.findIdx (fun v => Model.evaluate v.a v.b v.sel ≠ v.expectedOutput) + 1)).length
  | _, _ => 0

/-! ## Sessions -/

section Sessions

variable {ι ρ σ : Type} (serve : σ → ι → Served ρ σ)

/-- The last reply comes with the state after all requests. -/
theorem getLast?_serveAll (state : σ) (requests : List ι) :
    ((serveAll serve state requests).getLast?.map Served.state).getD state =
      stateAfter serve state requests := by
  induction requests generalizing state with
  | nil => rfl
  | cons request requests ih =>
    rw [serveAll, stateAfter, ← ih, List.getLast?_cons]
    cases (serveAll serve (serve state request).state requests).getLast? <;> rfl

end Sessions

namespace Wire

variable {ω : Type} {w : Wire ω} {p : ω → Prop}

/-- Nothing that is done to the wire leads out of `p`. -/
structure Keeps (w : Wire ω) (p : ω → Prop) : Prop where
  drive : ∀ state operands selector, p state → p (w.drive state operands selector)
  settle : ∀ state, p state → p (w.settle state)
  sample : ∀ state, p state → p (w.sample state).2

theorem Keeps.evaluate (h : w.Keeps p) {state : ω} (hp : p state) (a b sel : UInt8) :
    p (w.toDevice.evaluate state a b sel).state :=
  h.sample _ (h.settle _ (h.drive _ _ _ hp))

theorem Keeps.after (h : w.Keeps p) {state : ω} (hp : p state) (vectors : List TestVector) :
    p (w.toDevice.after vectors state) := by
  induction vectors generalizing state with
  | nil => exact hp
  | cons v vectors ih => exact ih (h.evaluate hp v.a v.b v.sel)

theorem Keeps.run (h : w.Keeps p) {state : ω} (hp : p state) (policy : Policy)
    (vectors : List TestVector) : p (w.toDevice.run policy vectors state).state := by
  rw [Device.state_run]
  exact h.after hp _

theorem Keeps.serve (h : w.Keeps p) {state : ω} (hp : p state) (request : Request) :
    p (w.serve state request).state := by
  cases request with
  | drive operands selector => exact h.drive state operands selector hp
  | settle => exact h.settle state hp
  | sample => exact h.sample state hp
  | device request =>
    cases request with
    | evaluate a b sel => exact h.evaluate hp a b sel
    | run policy vectors => exact h.run hp policy vectors
    | check vectors => exact h.run hp .failFast vectors

theorem Keeps.stateAfter (h : w.Keeps p) {state : ω} (hp : p state) (requests : List Request) :
    p (stateAfter w.serve state requests) := by
  induction requests generalizing state with
  | nil => exact hp
  | cons request requests ih => exact ih (h.serve hp request)

theorem inner_stateAfter_recorded (w : Wire ω) (state : Recorded ω) (requests : List Request) :
    (AluBench.stateAfter w.recorded.serve state requests).inner =
      AluBench.stateAfter w.serve state.inner requests := by
  induction requests generalizing state with
  | nil => rfl
  | cons request requests ih =>
    rw [AluBench.stateAfter, ih, (serve_recorded w state request).2]
    rfl

end Wire

namespace Wire

variable {ω : Type} (w : Wire ω) (state : Recorded ω)

@[simp] theorem driven_drive (operands selector : UInt8) :
    (w.recorded.drive state operands selector).driven = state.driven ++ [(operands, selector)] :=
  List.filterMap_append

@[simp] theorem driven_settle : (w.recorded.settle state).driven = state.driven := by
  show (state.calls ++ [Call.settle]).filterMap Call.inputs? = _
  rw [List.filterMap_append]
  exact List.append_nil _

@[simp] theorem driven_sample : (w.recorded.sample state).2.driven = state.driven := by
  show (state.calls ++ [Call.sample]).filterMap Call.inputs? = _
  rw [List.filterMap_append]
  exact List.append_nil _

end Wire

/-! ## The wire of the model -/

/-- A run that stops executes the vectors up to the first that fails. -/
theorem Device.length_upToFailure_trials {σ : Type} {d : Device σ}
    {answer : (a b sel : UInt8) → Output} (h : d.Answers answer) (index : Nat)
    (vectors : List TestVector) (state : σ) :
    (Trial.upToFailure (d.trials index vectors state)).length =
      (vectors.take
        (vectors.findIdx (fun v => answer v.a v.b v.sel ≠ v.expectedOutput) + 1)).length := by
  induction vectors generalizing index state with
  | nil => rfl
  | cons v vectors ih =>
    rw [trials, Trial.upToFailure, List.findIdx_cons, Trial.passes, h]
    by_cases hv : answer v.a v.b v.sel = v.expectedOutput
    · simp [hv, ih]
    · simp [hv]

namespace ModelWire

/-- The recorded drives account for the whole state of the wire. -/
theorem keeps_driveAll (start : ModelWire) :
    wire.recorded.Keeps fun state => state.inner = start.driveAll state.driven := by
  constructor
  · intro state operands selector h
    rw [Wire.driven_drive, driveAll_concat, ← h]
    rfl
  · intro state h
    rw [Wire.driven_settle, ← h]
    rfl
  · intro state h
    rw [Wire.driven_sample, ← h]
    rfl

theorem stateAfter_eq_driveAll (start : ModelWire) (requests : List Wire.Request) :
    stateAfter wire.serve start requests =
      start.driveAll (stateAfter wire.recorded.serve ⟨start, []⟩ requests).driven := by
  rw [← (keeps_driveAll start).stateAfter rfl requests, Wire.inner_stateAfter_recorded]

/-! ### Counting drives -/

theorem steps_run (w : ModelWire) (policy : Policy) (vectors : List TestVector) :
    (device.run policy vectors w).state.steps =
      w.steps + (device.run policy vectors w).report.executed := by
  rw [Device.state_run, steps_after_device, List.length_take,
    Nat.min_eq_left (Device.executed_run_le device policy vectors w)]

theorem steps_serve (w : ModelWire) (request : Wire.Request) :
    (wire.serve w request).state.steps = w.steps + drives request (wire.serve w request).reply := by
  cases request with
  | drive | settle | sample => rfl
  | device request =>
    cases request with
    | evaluate a b sel => rfl
    | run policy vectors => exact steps_run w policy vectors
    | check vectors =>
      show (device.run .failFast vectors w).state.steps = _
      rw [steps_run, Device.report_run]
      exact congrArg (w.steps + ·) (Device.length_upToFailure_trials answers_device 0 vectors w)

theorem steps_stateAfter (w : ModelWire) (requests : List Wire.Request) :
    (stateAfter wire.serve w requests).steps =
      w.steps + ((requests.zip (serveAll wire.serve w requests)).map
        fun (request, served) => drives request served.reply).sum := by
  induction requests generalizing w with
  | nil => rfl
  | cons request requests ih =>
    rw [stateAfter, ih, steps_serve, serveAll, List.zip_cons_cons, List.map_cons, List.sum_cons,
      Nat.add_assoc]

/-! ### The session -/

/-- **The wire of the model counts its drives, holds the last one and shows the answer to it**,
whatever a session asks of it. At power-up it shows zero, which is no answer of the model. -/
theorem session_keeps_bus (settleTime : Option Nat) (requests : List Wire.Request) :
    let start : ModelWire := { settleTime }
    let served := serveAll wire.serve start requests
    let w := stateAfter wire.serve start requests
    let recorded := stateAfter wire.recorded.serve ⟨start, []⟩ requests
    let shown := (wire.sample w).1
    (served.getLast?.map Served.state).getD start = w ∧
      recorded.inner = w ∧
      w.steps = recorded.driven.length ∧
      w.steps = ((requests.zip served).map fun (request, s) => drives request s.reply).sum ∧
      (w.steps = 0 → (w.operands, w.selector) = (0, 0) ∧ shown = 0) ∧
      (0 < w.steps → ∃ operands selector,
        recorded.driven.getLast? = some (operands, selector) ∧
          (w.operands, w.selector) = (operands, selector &&& nibbleMask) ∧
          shown = Bus.packOutput (Model.evaluate (operands &&& nibbleMask)
            (operands >>> Bus.operandShift) selector) ∧
          (shown &&& Bus.zeroBit ≠ 0 ↔ shown &&& nibbleMask = 0) ∧
          (shown &&& Bus.negativeBit ≠ 0 ↔ shown &&& signBit ≠ 0)) ∧
      (wire.settle w = w ∧ (wire.sample w).2 = w) ∧ w.settleTime = settleTime := by
  intro start served w recorded shown
  have hw : w = start.driveAll recorded.driven := stateAfter_eq_driveAll start requests
  have hsteps : w.steps = recorded.driven.length := by
    rw [hw, steps_driveAll]
    exact Nat.zero_add _
  refine ⟨getLast?_serveAll _ _ _, Wire.inner_stateAfter_recorded _ _ _, hsteps, ?_, ?_, ?_,
    ⟨rfl, rfl⟩, ?_⟩
  · exact (steps_stateAfter start requests).trans (Nat.zero_add _)
  · intro h
    rw [hsteps, List.length_eq_zero_iff] at h
    rw [h] at hw
    show (w.operands, w.selector) = (0, 0) ∧ w.shown = 0
    rw [hw]
    exact ⟨rfl, rfl⟩
  · intro h
    rcases List.eq_nil_or_concat recorded.driven with hnil | ⟨before, ⟨operands, selector⟩, hlast⟩
    · rw [hsteps, hnil] at h
      exact absurd h (Nat.lt_irrefl 0)
    · rw [List.concat_eq_append] at hlast
      rw [hlast, driveAll_concat] at hw
      have hshown : shown = Bus.packOutput (Model.evaluate (operands &&& nibbleMask)
          (operands >>> Bus.operandShift) selector) := by
        show w.shown = _
        rw [hw]
        exact respond_eq operands selector
      refine ⟨operands, selector, ?_, ?_, hshown, ?_⟩
      · rw [hlast, List.getLast?_concat]
      · rw [hw]
        rfl
      · rw [hshown]
        exact Bus.flags_packOutput_evaluate _ _ _
  · rw [hw, settleTime_driveAll]

/-- A direct drive with high nibbles, an evaluation, a check that stops at its second vector and a
run through three: seven drives, of which the last was 15 + 1. -/
theorem session_keeps_bus_of_seven :
    let vectors : List TestVector := [⟨2, 4, 0, 6⟩, ⟨2, 4, 1, 0⟩, ⟨0x1F, 0x21, 0xF0, 0⟩]
    let requests : List Wire.Request :=
      [.drive 0x24 0xF1, .settle, .device (.evaluate 3 1 0), .sample, .device (.check vectors),
        .device (.run .collectAll vectors)]
    let w := stateAfter wire.serve { settleTime := some 10 } requests
    w.steps = 7 ∧ (w.operands, w.selector) = (0x1F, 0) ∧
      (wire.sample w).1 = Bus.carryBit ||| Bus.zeroBit ∧
      (stateAfter wire.serve {} [.settle, .sample]).shown = 0 := by
  intro vectors requests w
  have h := session_keeps_bus (some 10) requests
  have hidle := session_keeps_bus none [.settle, .sample]
  have hsteps : w.steps = 7 := h.2.2.2.1.trans (by decide +kernel)
  have hlast : (stateAfter wire.recorded.serve ⟨{ settleTime := some 10 }, []⟩
      requests).driven.getLast? = some (0x1F, 0) := by
    decide +kernel
  obtain ⟨operands, selector, hdriven, hinputs, hshown, -⟩ :=
    h.2.2.2.2.2.1 (show 0 < w.steps by rw [hsteps]; decide)
  obtain ⟨rfl, rfl⟩ := Prod.mk.inj (Option.some.inj (hdriven.symm.trans hlast))
  refine ⟨hsteps, hinputs, hshown.trans (by decide), ?_⟩
  exact (hidle.2.2.2.2.1 rfl).2

end ModelWire

end AluBench
