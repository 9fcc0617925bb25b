import AluBench.Device.Fault
import AluBench.Proofs.Device.ModelWire
import AluBench.Proofs.Run.Trials
import AluBench.TestVector.Sweep
import Mathlib.Algebra.BigOperators.Fin

/-!
# Passing a sweep

A device without a history passes the sweep of some operations exactly if it agrees with the model
on all operands below 16 of these operations, and the failing vectors of a full run are the triples
where it does not. A wire that passes agrees with the model on all bytes, because the nibbles that
the sweep leaves out reach neither the wire nor the model.
-/

namespace AluBench

open TestVector

/-! ## The vectors of a sweep -/

theorem TestVector.mem_sweep_iff {ops : List Operation} {v : TestVector} :
    v ∈ sweep ops ↔ ∃ op ∈ ops, ∃ a b : UInt8, a ≤ 15 ∧ b ≤ 15 ∧ ofModel op a b = v := by
  unfold sweep
  simp only [List.mem_flatMap, List.mem_map, mem_nibbles_iff]
  constructor
  · rintro ⟨op, hop, a, ha, b, hb, rfl⟩
    exact ⟨op, hop, a, b, ha, hb, rfl⟩
  · rintro ⟨op, hop, a, b, ha, hb, rfl⟩
    exact ⟨op, hop, a, ha, b, hb, rfl⟩

/-- A vector of a sweep expects what the model answers. -/
theorem TestVector.expectedOutput_ofModel (op : Operation) {a b : UInt8} (ha : a ≤ 15)
    (hb : b ≤ 15) : (ofModel op a b).expectedOutput = Model.evaluate a b op.selector := by
  unfold ofModel expectedOutput
  rw [← Model.evaluate_selector op ha hb]

theorem TestVector.length_sweep (ops : List Operation) :
    (sweep ops).length = 256 * ops.length := by
  have hop : ∀ op, (nibbles.flatMap fun a => nibbles.map fun b => ofModel op a b).length = 256 := by
    intro op
    rw [List.length_flatMap]
    simp only [List.length_map]
    rfl
  unfold sweep
  rw [List.length_flatMap]
  simp only [hop, List.map_const', List.sum_replicate_nat, Nat.mul_comm]

/-! ## Counting -/

theorem countP_eq_sum_map {α : Type} (p : α → Bool) (l : List α) :
    l.countP p = (l.map fun x => if p x = true then 1 else 0).sum := by
  induction l with
  | nil => rfl
  | cons x l ih => rw [List.countP_cons, ih, List.map_cons, List.sum_cons, Nat.add_comm]

theorem sum_map_nibbles (f : UInt8 → Nat) :
    (nibbles.map f).sum = ∑ n : Fin 16, f (.ofNat n) := by
  have h : nibbles = (List.finRange 16).map fun n => .ofNat n := by decide
  rw [h, List.map_map, Fin.sum_univ_def]
  rfl

/-- The vectors of a sweep that have a property are counted by position of the operation and by
operands. -/
theorem TestVector.countP_sweep (ops : List Operation) (p : TestVector → Bool) :
    (sweep ops).countP p =
      (Finset.univ.filter fun i : Fin ops.length × Fin 16 × Fin 16 =>
        p (ofModel ops[i.1] (.ofNat i.2.1) (.ofNat i.2.2)) = true).card := by
  have inner : ∀ op a, (nibbles.map fun b => ofModel op a b).countP p =
      ∑ n : Fin 16, if p (ofModel op a (.ofNat n)) = true then 1 else 0 := by
    intro op a
    rw [List.countP_map, countP_eq_sum_map, sum_map_nibbles]
    rfl
  have middle : ∀ op, (nibbles.flatMap fun a => nibbles.map fun b => ofModel op a b).countP p =
      ∑ i : Fin 16 × Fin 16,
        if p (ofModel op (.ofNat i.1) (.ofNat i.2)) = true then 1 else 0 := by
    intro op
    rw [List.countP_flatMap, Fintype.sum_prod_type]
    simp only [Function.comp_def, inner, sum_map_nibbles]
  rw [Finset.card_filter, Fintype.sum_prod_type]
  unfold sweep
  rw [List.countP_flatMap]
  simp only [Function.comp_def, middle]
  exact (Fin.sum_univ_fun_getElem ops _).symm

/-! ## Devices without a history -/

section Answers

variable {σ : Type} {d : Device σ} {answer : (a b sel : UInt8) → Output}

/-- A device that answers what the vectors expect passes all of them. -/
theorem Device.report_run_of_expected (h : d.Answers answer) {vectors : List TestVector}
    (hvectors : ∀ v ∈ vectors, answer v.a v.b v.sel = v.expectedOutput) (policy : Policy)
    (state : σ) :
    (d.run policy vectors state).report =
      ⟨policy, vectors.length, vectors.length, vectors.length, [], false⟩ := by
  apply report_run_of_outputs
  rw [outputs_of_answers h]
  exact List.map_congr_left hvectors

theorem Device.isSuccess_run_sweep_iff (h : d.Answers answer) (policy : Policy)
    (ops : List Operation) (state : σ) :
    (d.run policy (sweep ops) state).report.isSuccess = true ↔
      ∀ op ∈ ops, ∀ a b : UInt8, a ≤ 15 → b ≤ 15 →
        answer a b op.selector = Model.evaluate a b op.selector := by
  rw [isSuccess_run_iff, outputs_of_answers h, List.map_inj_left]
  constructor
  · intro hall op hop a b ha hb
    rw [← expectedOutput_ofModel op ha hb]
    exact hall (ofModel op a b) (mem_sweep_iff.2 ⟨op, hop, a, b, ha, hb, rfl⟩)
  · intro hall v hv
    obtain ⟨op, hop, a, b, ha, hb, rfl⟩ := mem_sweep_iff.1 hv
    rw [expectedOutput_ofModel op ha hb]
    exact hall op hop a b ha hb

theorem Device.countP_fails_of_answers (h : d.Answers answer) (index : Nat)
    (vectors : List TestVector) (state : σ) :
    (d.trials index vectors state).countP (fun t => !t.passes) =
      vectors.countP fun v => answer v.a v.b v.sel ≠ v.expectedOutput := by
  induction vectors generalizing index state with
  | nil => rfl
  | cons v vectors ih =>
    rw [trials, List.countP_cons, List.countP_cons, ih]
    simp [Trial.passes, h state v.a v.b v.sel]

theorem Device.failed_run_sweep (h : d.Answers answer) (ops : List Operation) (state : σ) :
    (d.run .collectAll (sweep ops) state).report.failed? =
      some (Finset.univ.filter fun i : Fin ops.length × Fin 16 × Fin 16 =>
        answer (.ofNat i.2.1) (.ofNat i.2.2) ops[i.1].selector ≠
          Model.evaluate (.ofNat i.2.1) (.ofNat i.2.2) ops[i.1].selector).card := by
  have small : ∀ n : Fin 16, UInt8.ofNat n ≤ 15 := by decide
  rw [failed_run_collectAll, countP_fails_of_answers h, countP_sweep]
  congr 2
  apply Finset.filter_congr
  intro i _
  rw [decide_eq_true_eq, expectedOutput_ofModel _ (small i.2.1) (small i.2.2)]
  rfl

end Answers

/-- Agreement below 16 is agreement on all bytes, for a wire sees nothing else. -/
theorem Wire.agrees_of_shows {ω : Type} {w : Wire ω}
    {bus : (operands selector : UInt8) → UInt8} (h : w.Shows bus) {op : Operation}
    (hop : ∀ a b : UInt8, a ≤ 15 → b ≤ 15 →
      Bus.unpackOutput (bus (Bus.packOperands a b) (op.selector &&& nibbleMask)) =
        Model.evaluate a b op.selector)
    (state : ω) {a b sel : UInt8} (hsel : sel &&& nibbleMask = op.selector) :
    (w.toDevice.evaluate state a b sel).output = Model.evaluate a b sel := by
  have hs : op.selector &&& nibbleMask = op.selector := and_nibbleMask_of_le op.selector_le
  calc (w.toDevice.evaluate state a b sel).output
      = Bus.unpackOutput (bus (Bus.packOperands a b) (sel &&& nibbleMask)) :=
        answers_of_shows h state a b sel
    _ = Bus.unpackOutput (bus (Bus.packOperands (a &&& nibbleMask) (b &&& nibbleMask))
          (op.selector &&& nibbleMask)) := by
        rw [Bus.packOperands_and_nibbleMask, hs, hsel]
    _ = Model.evaluate (a &&& nibbleMask) (b &&& nibbleMask) op.selector :=
        hop _ _ (and_nibbleMask_le a) (and_nibbleMask_le b)
    _ = Model.evaluate a b sel := by
        rw [← hsel, Model.evaluate_and_nibbleMask]

/-! ## The sweep -/

theorem run_sweep_iff_agrees {σ ω : Type} (ops : List Operation) (policy : Policy)
    (d : Device σ) (answer : (a b sel : UInt8) → Output) (hd : d.Answers answer) (state : σ)
    (w : Wire ω) (bus : (operands selector : UInt8) → UInt8) (hw : w.Shows bus) (start : ω) :
    ((d.run policy (sweep ops) state).report.isSuccess = true ↔
        ∀ op ∈ ops, ∀ a b : UInt8, a ≤ 15 → b ≤ 15 →
          answer a b op.selector = Model.evaluate a b op.selector) ∧
      (d.run .collectAll (sweep ops) state).report.failed? =
        some (Finset.univ.filter fun i : Fin ops.length × Fin 16 × Fin 16 =>
          answer (.ofNat i.2.1) (.ofNat i.2.2) ops[i.1].selector ≠
            Model.evaluate (.ofNat i.2.1) (.ofNat i.2.2) ops[i.1].selector).card ∧
      ((w.toDevice.run policy (sweep ops) start).report.isSuccess = true →
        ∀ op ∈ ops, ∀ (later : ω) (a b sel : UInt8), sel &&& nibbleMask = op.selector →
          (w.toDevice.evaluate later a b sel).output = Model.evaluate a b sel) := by
  refine ⟨Device.isSuccess_run_sweep_iff hd policy ops state,
    Device.failed_run_sweep hd ops state, ?_⟩
  intro hsuccess op hop later a b sel hsel
  have hall := (Device.isSuccess_run_sweep_iff (Wire.answers_of_shows hw) policy ops start).1
    hsuccess
  exact Wire.agrees_of_shows hw (hall op hop) later hsel

/-- The inverted borrow fails on every difference, the wire of the model on none. -/
theorem run_sweep_sub_iff_agrees :
    Device.invertedBorrow.Answers (fun a b sel =>
        let out := Model.evaluate a b sel
        if sel == Operation.sub.selector then { out with carry := !out.carry } else out) ∧
      ModelWire.wire.Shows (fun operands selector =>
        ModelWire.respond operands (selector &&& nibbleMask)) ∧
      (Device.invertedBorrow.run .collectAll (sweep [.sub]) 0).report.failed? = some 256 ∧
      (ModelWire.device.run .failFast (sweep [.sub]) {}).report.isSuccess = true ∧
      (ModelWire.device.evaluate {} 0x12 0x34 0xF1).output = Model.evaluate 0x12 0x34 0xF1 := by
  have hd := Device.answers_ofFunction fun a b sel =>
    let out := Model.evaluate a b sel
    if sel == Operation.sub.selector then { out with carry := !out.carry } else out
  have h := run_sweep_iff_agrees [.sub] .failFast Device.invertedBorrow _ hd 0 ModelWire.wire _
    ModelWire.shows_wire {}
  have hsuccess : (ModelWire.device.run .failFast (sweep [.sub]) {}).report.isSuccess = true := by
    rw [Device.isSuccess_run_sweep_iff ModelWire.answers_device]
    intro _ _ _ _ _ _
    rfl
  refine ⟨hd, ModelWire.shows_wire, ?_, hsuccess, ?_⟩
  · rw [h.2.1]
    decide +kernel
  · exact h.2.2 hsuccess .sub List.mem_cons_self {} 0x12 0x34 0xF1 (by decide)

end AluBench
