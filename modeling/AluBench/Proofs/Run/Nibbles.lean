import AluBench.Device.Fault
import AluBench.Proofs.Model.Masking
import AluBench.Proofs.Run.Recorder
import Mathlib.Data.List.Forall2

/-!
# A wire sees nothing but low nibbles

For each vector that is executed, a run drives a wire once with the low nibbles of the vector, lets
it settle and samples it. The expected flags have no more to go by, so masking the vectors
beforehand changes nothing but the vectors that the entries carry, and vectors that agree in their
low nibbles and literals cannot be told apart by a run.

    (Bus.packOperands a b).toNat = 16 * (b.toNat % 16) + a.toNat % 16      (toNat_packOperands)
    (w.toDevice.run policy (vectors.map TestVector.masked) state).report =
      (w.toDevice.run policy vectors state).report.masked                  (report_run_masked)
-/

namespace AluBench

/-! ## Masked vectors -/

/-- The vector with its high nibbles cleared, the literal apart. -/
def TestVector.masked (v : TestVector) : TestVector :=
  ⟨v.a &&& nibbleMask, v.b &&& nibbleMask, v.sel &&& nibbleMask, v.expected⟩

def Mismatch.masked (m : Mismatch) : Mismatch := { m with vector := m.vector.masked }

def Report.masked (r : Report) : Report := { r with mismatches := r.mismatches.map .masked }

/-- Vectors with the same literal whose bytes have the same low nibbles. -/
structure TestVector.SameNibbles (v w : TestVector) : Prop where
  a_eq : v.a.toNat % 16 = w.a.toNat % 16
  b_eq : v.b.toNat % 16 = w.b.toNat % 16
  sel_eq : v.sel.toNat % 16 = w.sel.toNat % 16
  expected_eq : v.expected = w.expected

/-- Entries that are the same but for the high nibbles of their vectors. -/
structure Mismatch.SameNibbles (m n : Mismatch) : Prop where
  index_eq : m.index = n.index
  vector : m.vector.SameNibbles n.vector
  field_eq : m.field = n.field
  actual_eq : m.actual = n.actual
  expected_eq : m.expected = n.expected

/-- What a wire is asked for a vector, in numbers: one step, of which no high nibble is part. -/
def TestVector.nibbleStep (v : TestVector) : List Wire.Call :=
  [.drive (.ofNat (16 * (v.b.toNat % 16) + v.a.toNat % 16)) (.ofNat (v.sel.toNat % 16)), .settle,
    .sample]

/-! ## Lemmas -/

theorem and_nibbleMask_eq_iff {x y : UInt8} :
    x &&& nibbleMask = y &&& nibbleMask ↔ x.toNat % 16 = y.toNat % 16 := by
  rw [← UInt8.toNat_inj, toNat_and_nibbleMask, toNat_and_nibbleMask]

theorem TestVector.masked_eq_masked_iff {v w : TestVector} :
    v.masked = w.masked ↔ v.SameNibbles w := by
  unfold masked
  rw [TestVector.mk.injEq, and_nibbleMask_eq_iff, and_nibbleMask_eq_iff, and_nibbleMask_eq_iff]
  constructor
  · rintro ⟨ha, hb, hsel, hexpected⟩
    exact ⟨ha, hb, hsel, hexpected⟩
  · rintro ⟨ha, hb, hsel, hexpected⟩
    exact ⟨ha, hb, hsel, hexpected⟩

theorem Mismatch.sameNibbles_of_masked_eq {m n : Mismatch} (h : m.masked = n.masked) :
    m.SameNibbles n := by
  unfold masked at h
  obtain ⟨hindex, hvector, hfield, hactual, hexpected⟩ := Mismatch.mk.inj h
  exact ⟨hindex, TestVector.masked_eq_masked_iff.1 hvector, hfield, hactual, hexpected⟩

/-- Two lists have the same images exactly if they do entry by entry. -/
theorem map_eq_map_iff_forall₂ {α β : Type} {f : α → β} {xs ys : List α} :
    xs.map f = ys.map f ↔ List.Forall₂ (fun x y => f x = f y) xs ys := by
  rw [← List.forall₂_eq_eq_eq, List.forall₂_map_left_iff, List.forall₂_map_right_iff]

theorem Bus.toNat_packOperands (a b : UInt8) :
    (packOperands a b).toNat = 16 * (b.toNat % 16) + a.toNat % 16 := by
  have ha := and_nibbleMask_lt a
  have hb := and_nibbleMask_lt b
  rw [toNat_and_nibbleMask] at ha hb
  have hshift : (b.toNat % 16) <<< 4 < 256 := by
    rw [Nat.shiftLeft_eq]
    omega
  calc (packOperands a b).toNat
      = (b.toNat % 16) <<< 4 % 256 ||| a.toNat % 16 := by
        unfold packOperands
        rw [UInt8.toNat_or, UInt8.toNat_shiftLeft, toNat_and_nibbleMask, toNat_and_nibbleMask]
        rfl
    _ = (b.toNat % 16) <<< 4 + a.toNat % 16 := by
        rw [Nat.mod_eq_of_lt hshift, Nat.shiftLeft_add_eq_or_of_lt ha]
    _ = 16 * (b.toNat % 16) + a.toNat % 16 := by
        rw [Nat.shiftLeft_eq, Nat.mul_comm]

theorem Wire.stepCalls_eq_nibbleStep : stepCalls = TestVector.nibbleStep := by
  funext v
  unfold stepCalls TestVector.nibbleStep
  rw [← Bus.toNat_packOperands, ← toNat_and_nibbleMask, UInt8.ofNat_toNat, UInt8.ofNat_toNat]

theorem TestVector.expectedOutput_masked (v : TestVector) :
    v.masked.expectedOutput = v.expectedOutput := by
  unfold expectedOutput masked
  rw [Model.evaluate_and_nibbleMask]

namespace Trial

variable {σ : Type}

/-- The trial of the masked vector with the same response. -/
def masked (t : Trial σ) : Trial σ := { t with vector := t.vector.masked }

theorem passes_masked (t : Trial σ) : t.masked.passes = t.passes := by
  unfold passes masked
  rw [TestVector.expectedOutput_masked]

theorem mismatches_masked (t : Trial σ) : t.masked.mismatches = t.mismatches.map .masked := by
  unfold mismatches TestVector.mismatches Mismatch.compare masked
  rw [List.map_filterMap, TestVector.expectedOutput_masked]
  congr 1
  funext field
  by_cases h : field.get t.response.output = field.get t.vector.expectedOutput <;>
    simp [Mismatch.masked, h]

end Trial

theorem Report.ofTrials_map_masked {σ : Type} (policy : Policy) (total : Nat)
    (trials : List (Trial σ)) :
    ofTrials policy total (trials.map .masked) = (ofTrials policy total trials).masked := by
  unfold ofTrials masked
  simp only [List.length_map, List.countP_map, List.flatMap_map, List.map_flatMap,
    Trial.mismatches_masked, Function.comp_def, Trial.passes_masked]

/-! ## Runs on a wire -/

namespace Wire

variable {ω : Type} (w : Wire ω)

theorem evaluate_masked (v : TestVector) (state : ω) :
    w.toDevice.evaluate state v.masked.a v.masked.b v.masked.sel =
      w.toDevice.evaluate state v.a v.b v.sel := by
  simp only [toDevice, TestVector.masked, Bus.packOperands_and_nibbleMask, and_nibbleMask_self]

theorem trials_masked (index : Nat) (vectors : List TestVector) (state : ω) :
    w.toDevice.trials index (vectors.map .masked) state =
      (w.toDevice.trials index vectors state).map .masked := by
  induction vectors generalizing index state with
  | nil => rfl
  | cons v vectors ih =>
    simp only [List.map_cons, Device.trials, evaluate_masked, ih]
    rfl

theorem after_masked (vectors : List TestVector) (state : ω) :
    w.toDevice.after (vectors.map .masked) state = w.toDevice.after vectors state := by
  induction vectors generalizing state with
  | nil => rfl
  | cons v vectors ih => simp only [List.map_cons, Device.after, evaluate_masked, ih]

theorem report_run_masked (policy : Policy) (vectors : List TestVector) (state : ω) :
    (w.toDevice.run policy (vectors.map .masked) state).report =
      (w.toDevice.run policy vectors state).report.masked := by
  rw [Device.report_run, Device.report_run, trials_masked,
    Trial.carriedOut_map Trial.passes_masked, Report.ofTrials_map_masked, List.length_map]

theorem state_run_masked (policy : Policy) (vectors : List TestVector) (state : ω) :
    (w.toDevice.run policy (vectors.map .masked) state).state =
      (w.toDevice.run policy vectors state).state := by
  rw [Device.state_run, Device.state_run, report_run_masked, ← List.map_take, after_masked]
  rfl

/-- The calls of a run, one step for each vector that was executed. -/
theorem calls_run_recorded (policy : Policy) (vectors : List TestVector) (state : ω) :
    (w.recorded.toDevice.run policy vectors ⟨state, []⟩).state =
      ⟨(w.toDevice.run policy vectors state).state,
        (vectors.take (w.toDevice.run policy vectors state).report.executed).flatMap
          TestVector.nibbleStep⟩ := by
  rw [state_run_recorded, stepCalls_eq_nibbleStep]
  rfl

/-! ## What a wire sees -/

/-- **A wire sees one step per vector and no high nibble**, so vectors that agree in their low
nibbles and literals lead to the same state and, but for the vectors themselves, the same report. -/
theorem run_sees_nibbles (policy : Policy) (xs ys : List TestVector) (state : ω) :
    let r := w.toDevice.run policy xs state
    let q := w.toDevice.run policy ys state
    let recorded := w.recorded.toDevice.run policy xs ⟨state, []⟩
    recorded.report = r.report ∧ recorded.state.inner = r.state ∧
      recorded.state.calls = (xs.take r.report.executed).flatMap TestVector.nibbleStep ∧
      (List.Forall₂ TestVector.SameNibbles xs ys →
        r.state = q.state ∧ r.report.total = q.report.total ∧
          r.report.executed = q.report.executed ∧ r.report.passed = q.report.passed ∧
          r.report.halted = q.report.halted ∧
          List.Forall₂ Mismatch.SameNibbles r.report.mismatches q.report.mismatches) := by
  intro r q recorded
  have hrecorded : recorded.state = _ := calls_run_recorded w policy xs state
  refine ⟨report_run_recorded w policy xs ⟨state, []⟩, by rw [hrecorded], by rw [hrecorded], ?_⟩
  intro hsame
  have hmasked : xs.map TestVector.masked = ys.map TestVector.masked :=
    map_eq_map_iff_forall₂.2 (hsame.imp fun _ _ => TestVector.masked_eq_masked_iff.2)
  have hstate : r.state = q.state := by
    rw [← state_run_masked w policy xs state, hmasked, state_run_masked]
  have hreport : r.report.masked = q.report.masked := by
    rw [← report_run_masked w policy xs state, hmasked, report_run_masked]
  obtain ⟨-, htotal, hexecuted, hpassed, hmismatches, hhalted⟩ := Report.mk.inj hreport
  refine ⟨hstate, htotal, hexecuted, hpassed, hhalted, ?_⟩
  exact (map_eq_map_iff_forall₂.1 hmismatches).imp fun _ _ => Mismatch.sameNibbles_of_masked_eq

/-- With high nibbles or without, the first vector passes, the second fails, and the third does not
reach the wire. -/
theorem run_sees_nibbles_scripted :
    let w := Wire.scripted [0x04, 0xAE]
    let xs : List TestVector := [⟨0x13, 0x21, 0xF0, 4⟩, ⟨2, 4, 0x11, 200⟩, ⟨1, 1, 0, 2⟩]
    let ys : List TestVector := [⟨3, 1, 0, 4⟩, ⟨0xA2, 0x54, 1, 200⟩, ⟨1, 1, 0, 2⟩]
    let r := w.toDevice.run .failFast xs {}
    let q := w.toDevice.run .failFast ys {}
    List.Forall₂ TestVector.SameNibbles xs ys ∧ r.state = q.state ∧ r.report.executed = 2 ∧
      q.report.executed = 2 ∧ List.Forall₂ Mismatch.SameNibbles r.report.mismatches
        q.report.mismatches ∧
      (w.recorded.toDevice.run .failFast xs ⟨{}, []⟩).state.calls =
        [.drive 0x13 0, .settle, .sample, .drive 0x42 1, .settle, .sample] := by
  intro w xs ys r q
  have hsame : List.Forall₂ TestVector.SameNibbles xs ys :=
    .cons ⟨rfl, rfl, rfl, rfl⟩ (.cons ⟨rfl, rfl, rfl, rfl⟩ (.cons ⟨rfl, rfl, rfl, rfl⟩ .nil))
  obtain ⟨-, -, hcalls, h⟩ := run_sees_nibbles w .failFast xs ys {}
  obtain ⟨hstate, -, hexecuted, -, -, hmismatches⟩ := h hsame
  have htwo : r.report.executed = 2 := by decide
  refine ⟨hsame, hstate, htwo, hexecuted.symm.trans htwo, hmismatches, hcalls.trans ?_⟩
  rw [htwo]
  rfl

end Wire

end AluBench
