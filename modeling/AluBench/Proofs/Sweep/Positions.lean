import AluBench.Proofs.Sweep

/-!
# Where a sweep has its vectors

Every operation of the list has a block of 256 vectors and every `a` in it a block of 16. So the
position of a vector is written in the digits `i`, `a` and `b`, and each of them is there once for
every position of an operation:

    (sweep ops)[256 * i + 16 * a + b]? = some (ofModel ops[i] a b)          (getElem?_sweep)

The literals come from the operation and the expected flags from the selector, yet a vector of a
sweep expects nothing but the model's answer. So the model passes, and the wire of the model.
-/

namespace AluBench

open TestVector

/-! ## Lists of blocks -/

/-- Where all blocks have the same length, the block and the place in it make the position. -/
theorem getElem?_flatMap_of_length {α β : Type} {f : α → List β} {size : Nat}
    (hf : ∀ x, (f x).length = size) (xs : List α) (i : Nat) {j : Nat} (hj : j < size) :
    (xs.flatMap f)[size * i + j]? = xs[i]?.bind fun x => (f x)[j]? := by
  induction xs generalizing i with
  | nil => rfl
  | cons x xs ih =>
    have hx : (f x).length = size := hf x
    rw [List.flatMap_cons]
    cases i with
    | zero =>
      rw [Nat.mul_zero, Nat.zero_add, List.getElem?_append_left (by omega)]
      rfl
    | succ i =>
      have hsucc : size * (i + 1) + j = (f x).length + (size * i + j) := by
        rw [hx, Nat.mul_succ]
        omega
      rw [hsucc, List.getElem?_append_right (Nat.le_add_right _ _), Nat.add_sub_cancel_left, ih,
        List.getElem?_cons_succ]

theorem getElem?_nibbles {byte : UInt8} (h : byte ≤ 15) : nibbles[byte.toNat]? = some byte := by
  have hlt : byte.toNat < 16 := Nat.lt_succ_of_le (UInt8.le_iff_toNat_le.1 h)
  unfold nibbles
  rw [List.getElem?_map, List.getElem?_range hlt]
  simp

/-! ## Positions -/

namespace TestVector

theorem sweep_append (ops more : List Operation) :
    sweep (ops ++ more) = sweep ops ++ sweep more := by
  unfold sweep
  exact List.flatMap_append

theorem sweep_eq_flatMap (ops : List Operation) : sweep ops = ops.flatMap fun op => sweep [op] := by
  unfold sweep
  simp only [List.flatMap_singleton]

theorem getElem?_sweep_singleton (op : Operation) {a b : UInt8} (ha : a ≤ 15) (hb : b ≤ 15) :
    (sweep [op])[16 * a.toNat + b.toNat]? = some (ofModel op a b) := by
  have hrow : ∀ a, (nibbles.map fun b => ofModel op a b).length = 16 := by
    intro a
    rw [List.length_map]
    rfl
  have hb' : b.toNat < 16 := Nat.lt_succ_of_le (UInt8.le_iff_toNat_le.1 hb)
  unfold sweep
  rw [List.flatMap_singleton, getElem?_flatMap_of_length hrow nibbles a.toNat hb',
    getElem?_nibbles ha, Option.bind_some, List.getElem?_map, getElem?_nibbles hb, Option.map_some]

theorem getElem?_sweep {ops : List Operation} {i : Nat} {op : Operation} (hop : ops[i]? = some op)
    {a b : UInt8} (ha : a ≤ 15) (hb : b ≤ 15) :
    (sweep ops)[256 * i + 16 * a.toNat + b.toNat]? = some (ofModel op a b) := by
  have hblock : ∀ op, (sweep [op]).length = 256 := fun op => length_sweep [op]
  have ha' : a.toNat ≤ 15 := UInt8.le_iff_toNat_le.1 ha
  have hb' : b.toNat ≤ 15 := UInt8.le_iff_toNat_le.1 hb
  have hj : 16 * a.toNat + b.toNat < 256 := by omega
  rw [sweep_eq_flatMap, Nat.add_assoc, getElem?_flatMap_of_length hblock ops i hj, hop,
    Option.bind_some]
  exact getElem?_sweep_singleton op ha hb

end TestVector

/-! ## Passing -/

/-- A device that answers as the model passes every vector of a sweep. -/
theorem Device.report_run_sweep {σ : Type} {d : Device σ} (h : d.Answers Model.evaluate)
    (policy : Policy) (ops : List Operation) (state : σ) :
    (d.run policy (sweep ops) state).report =
      ⟨policy, 256 * ops.length, 256 * ops.length, 256 * ops.length, [], false⟩ := by
  rw [← length_sweep ops]
  apply report_run_of_expected h
  intro v hv
  obtain ⟨op, -, a, b, ha, hb, rfl⟩ := mem_sweep_iff.1 hv
  exact (expectedOutput_ofModel op ha hb).symm

/-- **A sweep has every vector in its place**, each expects what the model answers, and neither the
model nor the wire of the model fails one. -/
theorem TestVector.sweep_in_order (ops : List Operation) :
    (sweep ops).length = 256 * ops.length ∧
      (∀ (i : Nat) (hi : i < ops.length) (a b : UInt8), a ≤ 15 → b ≤ 15 →
        let due := Model.evaluate a b ops[i].selector
        let v : TestVector := ⟨a, b, ops[i].selector, due.value⟩
        (sweep ops)[256 * i + 16 * a.toNat + b.toNat]? = some v ∧ v.operation? = some ops[i] ∧
          v.expectedOutput = due) ∧
      (∀ more, sweep (ops ++ more) = sweep ops ++ sweep more) ∧
      ∀ (policy : Policy) (calls : Nat) (w : ModelWire),
        let full : Report :=
          ⟨policy, 256 * ops.length, 256 * ops.length, 256 * ops.length, [], false⟩
        (Device.model.run policy (sweep ops) calls).report = full ∧
          (ModelWire.device.run policy (sweep ops) w).report = full ∧ full.isSuccess = true := by
  refine ⟨length_sweep ops, ?_, sweep_append ops, ?_⟩
  · intro i hi a b ha hb due v
    have hv : v = ofModel ops[i] a b := by
      show (⟨a, b, ops[i].selector, (Model.evaluate a b ops[i].selector).value⟩ : TestVector) = _
      rw [Model.evaluate_selector ops[i] ha hb]
      rfl
    refine ⟨?_, Operation.ofSelector?_selector ops[i], ?_⟩
    · rw [hv]
      exact getElem?_sweep (List.getElem?_eq_getElem hi) ha hb
    · rw [hv]
      exact expectedOutput_ofModel ops[i] ha hb
  · intro policy calls w full
    refine ⟨?_, ?_, ?_⟩
    · exact Device.report_run_sweep (Device.answers_ofFunction Model.evaluate) policy ops calls
    · exact Device.report_run_sweep ModelWire.answers_device policy ops w
    · simp [full, Report.isSuccess]

/-- The third block is the second of the sums, and there 9 and 8 carry and overflow. -/
theorem TestVector.sweep_in_order_of_repeated :
    let ops : List Operation := [.add, .sub, .add]
    let v : TestVector := ⟨9, 8, 0, 1⟩
    (2 < ops.length ∧ (9 : UInt8) ≤ 15 ∧ (8 : UInt8) ≤ 15) ∧
      (sweep ops)[256 * 2 + 16 * 9 + 8]? = some v ∧ v.operation? = some .add ∧
      v.expectedOutput = ⟨1, true, false, false, true⟩ := by
  intro ops v
  have hdue : Model.evaluate 9 8 ops[2].selector = ⟨1, true, false, false, true⟩ := by decide
  have h := (sweep_in_order ops).2.1 2 (by decide) 9 8 (by decide) (by decide)
  rw [hdue] at h
  exact ⟨by decide, h⟩

end AluBench
