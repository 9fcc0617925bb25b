import AluBench.Proofs.Device.ModelWire
import AluBench.Proofs.Run.Literals

/-!
# Running the wire of the model

Whatever the wire of the model was driven with before, a run on it gets the report of the model. It
leaves the wire driven as often as vectors were executed, with the last of them on the input buses.

`steps` has no bound here. At most `vectors.length` are executed, so it stays below `2 ^ 64`, and a
counter of 64 bits holds it, wherever `w.steps + vectors.length` does.
-/

namespace AluBench.ModelWire

/-! ## The wire after some vectors -/

theorem steps_after_device (w : ModelWire) (vectors : List TestVector) :
    (device.after vectors w).steps = w.steps + vectors.length := by
  rw [after_device_eq_driveAll, steps_driveAll, List.length_map]

theorem settleTime_after_device (w : ModelWire) (vectors : List TestVector) :
    (device.after vectors w).settleTime = w.settleTime := by
  rw [after_device_eq_driveAll, settleTime_driveAll]

/-- The input buses hold what the last vector put there. -/
theorem inputs_after_device (w : ModelWire) (vectors : List TestVector) :
    ((device.after vectors w).operands, (device.after vectors w).selector) =
      match vectors.getLast? with
      | none => (w.operands, w.selector)
      | some v => (Bus.packOperands v.a v.b, v.sel &&& nibbleMask) := by
  rw [after_device_eq_driveAll, inputs_driveAll, List.getLast?_map]
  cases vectors.getLast? with
  | none => rfl
  | some v =>
    dsimp only [Option.map_some]
    rw [and_nibbleMask_self]

/-! ## The run -/

/-- **The wire of the model gets the model's report**, and is left as the vectors that were
executed drove it. -/
theorem run_device_eq_run_model (policy : Policy) (vectors : List TestVector) (w : ModelWire)
    (calls : Nat) :
    let r := device.run policy vectors w
    let full := (device.run .collectAll vectors w).report
    r.report = (Device.model.run policy vectors calls).report ∧
      (∀ m ∈ r.report.mismatches, m.field = .result) ∧
      full.mismatches = wrongLiterals Model.evaluate vectors ∧
      (∀ (index : Nat) (v : TestVector), vectors[index]? = some v → 15 < v.expected →
        ⟨index, v, .result, (Model.evaluate v.a v.b v.sel).value, v.expected⟩ ∈
          full.mismatches) ∧
      r.state.steps = w.steps + r.report.executed ∧
      r.report.executed ≤ vectors.length ∧
      (r.state.operands, r.state.selector) =
        (match (vectors.take r.report.executed).getLast? with
          | none => (w.operands, w.selector)
          | some v => (Bus.packOperands v.a v.b, v.sel &&& nibbleMask)) ∧
      r.state.settleTime = w.settleTime := by
  intro r full
  have hexecuted : r.report.executed ≤ vectors.length :=
    Device.executed_run_le device policy vectors w
  have hstate : r.state = device.after (vectors.take r.report.executed) w := Device.state_run policy
  have hfull : full.mismatches = wrongLiterals Model.evaluate vectors :=
    Device.mismatches_run_collectAll_of_answers answers_device vectors w
  refine ⟨?_, ?_, hfull, ?_, ?_, hexecuted, ?_, ?_⟩
  · exact Device.report_run_of_answers answers_device (Device.answers_ofFunction Model.evaluate)
      policy vectors w calls
  · intro m hm
    exact Device.field_of_mem_mismatches answers_device hm
  · intro index v hv hlt
    rw [hfull, mem_wrongLiterals_iff]
    refine ⟨v, hv, ?_, rfl⟩
    intro heq
    have hle := Model.value_evaluate_le v.a v.b v.sel
    rw [heq] at hle
    exact absurd hlt (UInt8.not_lt.2 hle)
  · rw [hstate, steps_after_device, List.length_take, Nat.min_eq_left hexecuted]
  · rw [hstate, inputs_after_device]
  · rw [hstate, settleTime_after_device]

/-- A wire that was last driven to a carry is as good as new, and 200 fits into no nibble. -/
theorem run_device_finds_wrong_literal :
    let w : ModelWire := ⟨0xFF, 3, 0x80, some 10, 41⟩
    let vectors : List TestVector := [⟨0x13, 0x21, 0xF0, 4⟩, ⟨2, 4, 0x11, 200⟩]
    let r := device.run .failFast vectors w
    let m : Mismatch := ⟨1, ⟨2, 4, 0x11, 200⟩, .result, 14, 200⟩
    (m ∈ r.report.mismatches ∧ m.field = .result) ∧
      (vectors[1]? = some ⟨2, 4, 0x11, 200⟩ ∧
        m ∈ (device.run .collectAll vectors w).report.mismatches) ∧
      r.state.steps = 43 ∧ (r.state.operands, r.state.selector) = (0x42, 1) := by
  intro w vectors r m
  have h := run_device_eq_run_model .failFast vectors w 0
  have hm : m ∈ r.report.mismatches := by decide
  refine ⟨⟨hm, h.2.1 m hm⟩, ⟨rfl, ?_⟩, ?_, ?_⟩
  · exact h.2.2.2.1 1 ⟨2, 4, 0x11, 200⟩ rfl (by decide)
  · exact h.2.2.2.2.1.trans (by decide)
  · exact h.2.2.2.2.2.2.1.trans (by decide)

end AluBench.ModelWire
