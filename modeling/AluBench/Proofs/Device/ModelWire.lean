import AluBench.Device.ModelWire
import AluBench.Proofs.Bus.Layout
import AluBench.Proofs.Device.HistoryFree
import AluBench.Proofs.Model.Masking

/-!
# The wire of the model

Masking, packing and unpacking on the way to the wire and back change nothing that the model looks
at and nothing that it answers, so behind the buses the model is still the model.

    ModelWire.device.Answers Model.evaluate                       (answers_device)
-/

namespace AluBench

/-! ## Operands -/

theorem Bus.unpackOperands_packOperands_of_le : ∀ a : UInt8, a ≤ 15 → ∀ b : UInt8, b ≤ 15 →
    unpackOperands (packOperands a b) = (a, b) := by
  have all : ∀ n, n < 16 → ∀ k, k < 16 →
      unpackOperands (packOperands n.toUInt8 k.toUInt8) = (n.toUInt8, k.toUInt8) := by
    decide +kernel
  exact forall_nibble fun n hn => forall_nibble fun k hk => all n hn k hk

theorem Bus.unpackOperands_packOperands (a b : UInt8) :
    unpackOperands (packOperands a b) = (a &&& nibbleMask, b &&& nibbleMask) := by
  rw [← packOperands_and_nibbleMask]
  exact unpackOperands_packOperands_of_le _ (and_nibbleMask_le a) _ (and_nibbleMask_le b)

/-! ## Results -/

theorem Output.value_ofResult_le (result : UInt8) (carry overflow : Bool) :
    (ofResult result carry overflow).value ≤ 15 :=
  and_nibbleMask_le result

theorem Model.value_evaluate_le (a b sel : UInt8) : (evaluate a b sel).value ≤ 15 := by
  unfold evaluate
  split
  · next op _ => cases op <;> exact Output.value_ofResult_le _ _ _
  · exact Output.value_ofResult_le _ _ _

/-- The flags for zero and negative say what the result is. -/
theorem Model.flags_evaluate (a b sel : UInt8) :
    (evaluate a b sel).zero = ((evaluate a b sel).value == 0) ∧
      (evaluate a b sel).negative = ((evaluate a b sel).value &&& signBit != 0) := by
  unfold evaluate
  split
  · next op _ => cases op <;> exact ⟨rfl, rfl⟩
  · exact ⟨rfl, rfl⟩

/-- So do their bits on the bus. -/
theorem Bus.flags_packOutput_evaluate (a b sel : UInt8) :
    let shown := packOutput (Model.evaluate a b sel)
    (shown &&& zeroBit ≠ 0 ↔ shown &&& nibbleMask = 0) ∧
      (shown &&& negativeBit ≠ 0 ↔ shown &&& signBit ≠ 0) := by
  intro shown
  have hout : unpackOutput shown = Model.evaluate a b sel :=
    unpackOutput_packOutput (Model.value_evaluate_le a b sel)
  have hsign : shown &&& nibbleMask &&& signBit = shown &&& signBit := by
    rw [UInt8.and_assoc]
    rfl
  obtain ⟨hzero, hnegative⟩ := Model.flags_evaluate a b sel
  rw [← hout] at hzero hnegative
  constructor
  · exact bne_iff_ne.symm.trans ((Bool.eq_iff_iff.1 hzero).trans beq_iff_eq)
  · rw [← hsign]
    exact bne_iff_ne.symm.trans ((Bool.eq_iff_iff.1 hnegative).trans bne_iff_ne)

/-! ## The wire -/

namespace ModelWire

/-- The wire remembers what it was driven with, but does not answer from it. -/
theorem shows_wire :
    wire.Shows fun operands selector => respond operands (selector &&& nibbleMask) := by
  intro state operands selector
  rfl

theorem respond_eq (operands selector : UInt8) :
    respond operands (selector &&& nibbleMask) =
      Bus.packOutput
        (Model.evaluate (operands &&& nibbleMask) (operands >>> Bus.operandShift) selector) := by
  unfold respond Bus.unpackOperands
  dsimp only
  rw [← Model.evaluate_and_nibbleMask, and_nibbleMask_self, and_nibbleMask_self,
    and_nibbleMask_self, ← Model.evaluate_and_nibbleMask _ _ selector, and_nibbleMask_self]

theorem respond_packOperands (a b sel : UInt8) :
    respond (Bus.packOperands a b) (sel &&& nibbleMask) =
      Bus.packOutput (Model.evaluate a b sel) := by
  unfold respond
  rw [Bus.unpackOperands_packOperands]
  show Bus.packOutput
    (Model.evaluate (a &&& nibbleMask) (b &&& nibbleMask) (sel &&& nibbleMask)) = _
  rw [Model.evaluate_and_nibbleMask]

theorem answers_device : device.Answers Model.evaluate := by
  intro state a b sel
  rw [device, Wire.answers_of_shows shows_wire]
  simp only [and_nibbleMask_self, respond_packOperands]
  exact Bus.unpackOutput_packOutput (Model.value_evaluate_le a b sel)

/-! ### Many drives -/

/-- The wire after it was driven with all of these inputs. -/
def driveAll (w : ModelWire) (driven : List (UInt8 × UInt8)) : ModelWire :=
  driven.foldl (fun w inputs => w.drive inputs.1 inputs.2) w

/-- The last drive decides all but what is counted. -/
theorem driveAll_concat (w : ModelWire) (driven : List (UInt8 × UInt8))
    (operands selector : UInt8) :
    w.driveAll (driven ++ [(operands, selector)]) =
      (w.driveAll driven).drive operands selector := by
  simp [driveAll]

theorem steps_driveAll (w : ModelWire) (driven : List (UInt8 × UInt8)) :
    (w.driveAll driven).steps = w.steps + driven.length := by
  induction driven generalizing w with
  | nil => rfl
  | cons inputs driven ih =>
    show (driveAll (w.drive inputs.1 inputs.2) driven).steps = _
    rw [ih, List.length_cons]
    show w.steps + 1 + driven.length = _
    omega

theorem settleTime_driveAll (w : ModelWire) (driven : List (UInt8 × UInt8)) :
    (w.driveAll driven).settleTime = w.settleTime := by
  induction driven generalizing w with
  | nil => rfl
  | cons inputs driven ih => exact ih (w.drive inputs.1 inputs.2)

/-- The input buses hold what was driven last. -/
theorem inputs_driveAll (w : ModelWire) (driven : List (UInt8 × UInt8)) :
    ((w.driveAll driven).operands, (w.driveAll driven).selector) =
      match driven.getLast? with
      | none => (w.operands, w.selector)
      | some (operands, selector) => (operands, selector &&& nibbleMask) := by
  -- earlier drives leave no trace on the input buses
  rcases List.eq_nil_or_concat driven with rfl | ⟨before, ⟨operands, selector⟩, rfl⟩
  · rfl
  · rw [List.concat_eq_append, driveAll_concat, List.getLast?_concat]
    rfl

/-- Evaluations drive the wire once for each vector. -/
theorem after_device_eq_driveAll (w : ModelWire) (vectors : List TestVector) :
    device.after vectors w =
      w.driveAll (vectors.map fun v => (Bus.packOperands v.a v.b, v.sel &&& nibbleMask)) := by
  induction vectors generalizing w with
  | nil => rfl
  | cons v vectors ih => exact ih _

end ModelWire

end AluBench
