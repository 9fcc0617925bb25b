import AluBench.Device.Fault
import AluBench.Proofs.Device.ModelWire
import AluBench.Proofs.Run.Trials

/-!
# The order of the vectors

A device without a history gives a vector the same output wherever it stands. So in another order
the trials have the same outcomes, each as often as before, and all that a full report says apart
from positions is a matter of these:

    xs.Perm ys →
      ((d.trials i xs s).map Trial.outcome).Perm ((d.trials j ys t).map Trial.outcome)
                                                                             (perm_outcomes)

A run that stops early finds less, but it fails in either order or in none, and what it stops at is
among the findings of the full run in the other order.
-/

namespace AluBench

/-- An entry without its position. -/
def Mismatch.unplaced (m : Mismatch) : TestVector × OutputField × UInt8 × UInt8 :=
  (m.vector, m.field, m.actual, m.expected)

/-- Reports that say the same of the same vectors, at whatever positions. -/
structure Report.SameFindings (r q : Report) : Prop where
  total_eq : r.total = q.total
  executed_eq : r.executed = q.executed
  passed_eq : r.passed = q.passed
  failed_eq : r.failed? = q.failed?
  perm_unplaced : (r.mismatches.map Mismatch.unplaced).Perm (q.mismatches.map Mismatch.unplaced)

/-- The report has a first entry, and the other report has it too, at whatever position. -/
def Report.FirstIn (r q : Report) : Prop :=
  ∃ m, r.firstMismatch? = some m ∧ ∃ n ∈ q.mismatches, n.unplaced = m.unplaced

/-- Runs of two lists of vectors agree on what is wrong with the device. -/
structure Device.SameVerdict {σ : Type} (d : Device σ) (xs ys : List TestVector) (s t : σ) :
    Prop where
  full : (d.run .collectAll xs s).report.SameFindings (d.run .collectAll ys t).report
  success_eq :
    (d.run .failFast xs s).report.isSuccess = (d.run .failFast ys t).report.isSuccess
  first_left : (d.run .failFast xs s).report.isSuccess = false →
    (d.run .failFast xs s).report.FirstIn (d.run .collectAll ys t).report
  first_right : (d.run .failFast ys t).report.isSuccess = false →
    (d.run .failFast ys t).report.FirstIn (d.run .collectAll xs s).report

variable {σ : Type}

/-! ## Outcomes -/

/-- What became of a vector, wherever it stood. -/
def Trial.outcome (t : Trial σ) : TestVector × Output := (t.vector, t.response.output)

theorem Mismatch.map_unplaced_compare (i j : Nat) (v : TestVector) (x y : Output) :
    (compare i v x y).map unplaced = (compare j v x y).map unplaced := by
  unfold compare
  rw [List.map_filterMap, List.map_filterMap]
  congr 1
  funext field
  by_cases h : field.get x = field.get y <;> simp [unplaced, h]

theorem Trial.countP_passes_eq (trials : List (Trial σ)) :
    trials.countP passes = (trials.map outcome).countP fun (v, out) => out == v.expectedOutput := by
  rw [List.countP_map]
  rfl

theorem Trial.map_unplaced_flatMap_mismatches (trials : List (Trial σ)) :
    (trials.flatMap mismatches).map Mismatch.unplaced =
      (trials.map outcome).flatMap fun (v, out) => (v.mismatches 0 out).map Mismatch.unplaced := by
  rw [List.map_flatMap, List.flatMap_map]
  congr 1
  funext t
  exact Mismatch.map_unplaced_compare t.index 0 _ _ _

theorem Trial.all_pass_iff (trials : List (Trial σ)) :
    (∀ t ∈ trials, t.passes = true) ↔
      ∀ o ∈ trials.map outcome, o.2 = o.1.expectedOutput := by
  simp only [List.forall_mem_map, passes_iff, outcome]

/-- All that is said apart from positions follows from the outcomes in any order. -/
theorem Report.sameFindings_ofTrials (policy : Policy) (total : Nat) {xs ys : List (Trial σ)}
    (hp : (xs.map Trial.outcome).Perm (ys.map Trial.outcome)) :
    (ofTrials policy total xs).SameFindings (ofTrials policy total ys) := by
  have hexecuted : xs.length = ys.length := by simpa using hp.length_eq
  have hpassed : xs.countP Trial.passes = ys.countP Trial.passes := by
    rw [Trial.countP_passes_eq, Trial.countP_passes_eq]
    exact hp.countP_eq _
  constructor
  case total_eq => rfl
  case executed_eq => exact hexecuted
  case passed_eq => exact hpassed
  case failed_eq =>
    rw [failed?_ofTrials, failed?_ofTrials, ← failed_ofTrials policy total,
      ← failed_ofTrials policy total]
    show some (xs.length - xs.countP Trial.passes) = some (ys.length - ys.countP Trial.passes)
    rw [hexecuted, hpassed]
  case perm_unplaced =>
    show ((xs.flatMap _).map _).Perm ((ys.flatMap _).map _)
    rw [Trial.map_unplaced_flatMap_mismatches, Trial.map_unplaced_flatMap_mismatches]
    exact hp.flatMap_right _

/-! ## Runs in another order -/

namespace Device

variable {d : Device σ} {answer : (a b sel : UInt8) → Output} {xs ys : List TestVector} {s t : σ}

theorem map_outcome_trials (h : d.Answers answer) (index : Nat) (vectors : List TestVector)
    (state : σ) :
    (d.trials index vectors state).map Trial.outcome =
      vectors.map fun v => (v, answer v.a v.b v.sel) := by
  induction vectors generalizing index state with
  | nil => rfl
  | cons v vectors ih =>
    rw [trials, List.map_cons, ih, List.map_cons, Trial.outcome, h]

theorem perm_outcomes (h : d.Answers answer) (hp : xs.Perm ys) (i j : Nat) :
    ((d.trials i xs s).map Trial.outcome).Perm ((d.trials j ys t).map Trial.outcome) := by
  rw [map_outcome_trials h, map_outcome_trials h]
  exact hp.map _

theorem sameFindings_of_perm (h : d.Answers answer) (hp : xs.Perm ys) :
    (d.run .collectAll xs s).report.SameFindings (d.run .collectAll ys t).report := by
  rw [report_run, report_run, hp.length_eq]
  exact Report.sameFindings_ofTrials _ _ (perm_outcomes h hp 0 0)

/-- Whether a run succeeds is no matter of order, under either policy. -/
theorem isSuccess_run_perm (h : d.Answers answer) (hp : xs.Perm ys) (policy : Policy) :
    (d.run policy xs s).report.isSuccess = (d.run policy ys t).report.isSuccess := by
  have houtcomes := perm_outcomes (s := s) (t := t) h hp 0 0
  rw [Bool.eq_iff_iff, isSuccess_run_iff, isSuccess_run_iff, ← trials_pass_iff 0,
    ← trials_pass_iff 0, Trial.all_pass_iff, Trial.all_pass_iff]
  simp only [houtcomes.mem_iff]

/-- What a run stops at is found by the full run in the other order. -/
theorem firstIn_of_perm (h : d.Answers answer) (hp : xs.Perm ys)
    (hfail : (d.run .failFast xs s).report.isSuccess = false) :
    (d.run .failFast xs s).report.FirstIn (d.run .collectAll ys t).report := by
  cases hm : (d.run .failFast xs s).report.mismatches with
  | nil =>
    have hsuccess : (d.run .failFast xs s).report.isSuccess = true := by
      rwa [isSuccess_run_iff, ← trials_pass_iff 0, ← mismatches_run_eq_nil_iff d .failFast]
    rw [hsuccess] at hfail
    cases hfail
  | cons m found =>
    have hmem : m ∈ (d.run .collectAll xs s).report.mismatches :=
      (isPrefix_mismatches_run d .failFast xs s).subset (by rw [hm]; exact List.mem_cons_self)
    have hunplaced := (sameFindings_of_perm (s := s) (t := t) h hp).perm_unplaced.subset
      (List.mem_map_of_mem hmem)
    refine ⟨m, by rw [Report.firstMismatch?, hm]; rfl, ?_⟩
    exact List.mem_map.1 hunplaced

theorem sameVerdict_of_perm (h : d.Answers answer) (hp : xs.Perm ys) (s t : σ) :
    d.SameVerdict xs ys s t where
  full := sameFindings_of_perm h hp
  success_eq := isSuccess_run_perm h hp .failFast
  first_left := firstIn_of_perm h hp
  first_right := firstIn_of_perm h hp.symm

/-! ## The order does not matter -/

/-- **The order of the vectors does not matter** to a device without a history, nor to the wire of
the model, which remembers what it was driven with. -/
theorem run_in_any_order (d : Device σ) (answer : (a b sel : UInt8) → Output)
    (h : d.Answers answer) (xs ys : List TestVector) (hp : xs.Perm ys) (s t : σ)
    (w z : ModelWire) :
    d.SameVerdict xs ys s t ∧ ModelWire.device.SameVerdict xs ys w z :=
  ⟨sameVerdict_of_perm h hp s t, sameVerdict_of_perm ModelWire.answers_device hp w z⟩

/-- The swapped operands fail the difference twice, wherever it stands. -/
theorem run_in_any_order_swapped :
    let xs : List TestVector := [⟨3, 1, 0, 4⟩, ⟨2, 4, 1, 14⟩, ⟨1, 1, 0, 9⟩, ⟨2, 4, 1, 14⟩]
    let ys : List TestVector := [⟨2, 4, 1, 14⟩, ⟨2, 4, 1, 14⟩, ⟨1, 1, 0, 9⟩, ⟨3, 1, 0, 4⟩]
    let w : ModelWire := ⟨0xFF, 3, 0x80, some 10, 41⟩
    let r := (swapped.run .failFast xs 0).report
    let q := (swapped.run .collectAll ys 7).report
    xs.Perm ys ∧ swapped.Answers (fun a b sel => Model.evaluate b a sel) ∧
      (swapped.run .collectAll xs 0).report.failed? = some 3 ∧ q.failed? = some 3 ∧
      (r.isSuccess = false ∧ r.FirstIn q) ∧
      (ModelWire.device.run .failFast xs w).report.isSuccess = false ∧
      (ModelWire.device.run .failFast ys {}).report.isSuccess = false := by
  intro xs ys w r q
  have hp : xs.Perm ys := by decide
  have hd : swapped.Answers fun a b sel => Model.evaluate b a sel := answers_ofFunction _
  obtain ⟨hswapped, hwire⟩ := run_in_any_order swapped _ hd xs ys hp 0 7 w {}
  have hfailed : (swapped.run .collectAll xs 0).report.failed? = some 3 := by decide
  have hr : r.isSuccess = false := by decide
  have hw : (ModelWire.device.run .failFast xs w).report.isSuccess = false := by decide
  exact ⟨hp, hd, hfailed, hswapped.full.failed_eq.symm.trans hfailed, ⟨hr, hswapped.first_left hr⟩,
    hw, hwire.success_eq.symm.trans hw⟩

end Device

end AluBench
