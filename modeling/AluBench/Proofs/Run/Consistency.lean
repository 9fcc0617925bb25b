import AluBench.Device.Fault
import AluBench.Proofs.Run.Trials
import Mathlib.Data.Finset.Card
import Mathlib.Tactic.TFAE

/-!
# Reports agree with themselves

The counters and the list of a report are filled on different ways through a run, and still say the
same. `Report.Consistent` is what a report keeps to, whatever the device: the counters are in order,
the entries rise by vector and field and fit the vectors, and failed vectors are counted as often as
the entries name different positions. What a run may be asked for afterwards follows from that:

    r.isSuccess ↔ r.passed = r.total ↔ r.firstMismatch? = none ↔ r.verdict is ok  (Consistent.tfae)
-/

namespace AluBench

/-- The place of a field in the order of comparison. -/
def OutputField.rank (field : OutputField) : Nat := all.idxOf field

/-- An entry for an earlier vector, or for an earlier field of the same vector. -/
def Mismatch.Precedes (m n : Mismatch) : Prop :=
  m.index < n.index ∨ m.index = n.index ∧ m.field.rank < n.field.rank

/-- An entry that can come from a run that executed so many of the vectors. -/
structure Mismatch.Fits (vectors : List TestVector) (executed : Nat) (m : Mismatch) : Prop where
  index_lt : m.index < executed
  vector_eq : vectors[m.index]? = some m.vector
  actual_ne : m.actual ≠ m.expected
  /-- A flag is reported as 0 or 1. -/
  flag : m.field ≠ .result →
    (m.actual = 0 ∨ m.actual = 1) ∧ (m.expected = 0 ∨ m.expected = 1)

/-- A report that can come from a run of the vectors under a policy. -/
structure Report.Consistent (policy : Policy) (vectors : List TestVector) (r : Report) : Prop where
  policy_eq : r.policy = policy
  passed_le : r.passed ≤ r.executed
  executed_le : r.executed ≤ r.total
  total_eq : r.total = vectors.length
  /-- There are as many failed vectors as different positions among the entries. -/
  failed_eq : r.failed? = some (r.mismatches.map Mismatch.index).toFinset.card
  failed_le_one : policy = .failFast → r.failed ≤ 1
  pairwise_precedes : r.mismatches.Pairwise Mismatch.Precedes
  fits : ∀ m ∈ r.mismatches, m.Fits vectors r.executed
  halted_iff : r.halted = true ↔ r.executed < r.total
  of_executed_lt : r.executed < r.total → policy = .failFast ∧ r.mismatches ≠ []

/-! ## What follows for a report -/

theorem Mismatch.Precedes.ne {m n : Mismatch} (h : m.Precedes n) : m ≠ n := by
  rintro rfl
  rcases h with h | ⟨-, h⟩ <;> exact absurd h (Nat.lt_irrefl _)

namespace Report.Consistent

variable {policy : Policy} {vectors : List TestVector} {r : Report}

theorem nodup (h : r.Consistent policy vectors) : r.mismatches.Nodup :=
  h.pairwise_precedes.imp Mismatch.Precedes.ne

theorem failed_add_passed (h : r.Consistent policy vectors) : r.failed + r.passed = r.executed :=
  Nat.sub_add_cancel h.passed_le

theorem card_eq_failed (h : r.Consistent policy vectors) :
    (r.mismatches.map Mismatch.index).toFinset.card = r.failed := by
  have := h.failed_eq
  rw [failed?, if_pos h.passed_le] at this
  exact (Option.some.inj this).symm

theorem mismatches_eq_nil_iff (h : r.Consistent policy vectors) :
    r.mismatches = [] ↔ r.failed = 0 := by
  rw [← h.card_eq_failed, Finset.card_eq_zero, List.toFinset_eq_empty_iff, List.map_eq_nil_iff]

/-- Without an entry a run has come to its end. -/
theorem executed_eq (h : r.Consistent policy vectors) (hnil : r.mismatches = []) :
    r.executed = r.total := by
  have hle := h.executed_le
  by_contra hne
  exact (h.of_executed_lt (by omega)).2 hnil

theorem tfae (h : r.Consistent policy vectors) :
    [r.isSuccess = true, r.passed = r.total, r.firstMismatch? = none,
      ∃ kept, r.verdict = .ok kept].TFAE := by
  have hsum := h.failed_add_passed
  have hle := h.executed_le
  tfae_have 1 → 2 := by
    intro hs
    rw [isSuccess, Bool.and_eq_true, List.isEmpty_iff, beq_iff_eq] at hs
    have := h.mismatches_eq_nil_iff.1 hs.1
    omega
  tfae_have 2 → 3 := by
    intro hp
    rw [firstMismatch?, List.head?_eq_none_iff, h.mismatches_eq_nil_iff]
    omega
  tfae_have 3 → 4 := by
    intro hnone
    exact ⟨r, verdict_of_nil (List.head?_eq_none_iff.1 hnone)⟩
  tfae_have 4 → 1 := by
    rintro ⟨kept, hkept⟩
    cases hm : r.mismatches with
    | nil => simp [isSuccess, hm, h.executed_eq hm]
    | cons m rest =>
      rw [verdict_of_cons hm] at hkept
      cases hkept
  tfae_finish

/-- The first entry comes before all others. -/
theorem precedes_of_first (h : r.Consistent policy vectors) {m : Mismatch}
    (hm : r.firstMismatch? = some m) :
    m ∈ r.mismatches ∧ ∀ n ∈ r.mismatches, n = m ∨ m.Precedes n := by
  obtain ⟨rest, hrest⟩ := List.head?_eq_some_iff.1 hm
  have hp := h.pairwise_precedes
  rw [hrest, List.pairwise_cons] at hp
  rw [hrest]
  refine ⟨List.mem_cons_self, ?_⟩
  intro n hn
  rcases List.mem_cons.1 hn with rfl | hn
  · exact Or.inl rfl
  · exact Or.inr (hp.1 n hn)

end Report.Consistent

/-! ## Entries of the trials -/

variable {σ : Type}

theorem OutputField.pairwise_rank : all.Pairwise fun f g => f.rank < g.rank := by
  decide

namespace Trial

/-- The entries of one vector rise by field. -/
theorem pairwise_mismatches (t : Trial σ) : t.mismatches.Pairwise Mismatch.Precedes := by
  unfold mismatches TestVector.mismatches Mismatch.compare
  rw [List.pairwise_filterMap]
  apply OutputField.pairwise_rank.imp
  intro f g hfg m hm n hn
  split at hm
  · cases hm
  · split at hn
    · cases hn
    · obtain rfl := Option.some.inj hm
      obtain rfl := Option.some.inj hn
      exact Or.inr ⟨rfl, hfg⟩

/-- Where positions rise, so do all entries. -/
theorem pairwise_flatMap_mismatches {trials : List (Trial σ)}
    (hp : trials.Pairwise fun x y => x.index < y.index) :
    (trials.flatMap mismatches).Pairwise Mismatch.Precedes := by
  rw [List.pairwise_flatMap]
  refine ⟨fun t _ => t.pairwise_mismatches, hp.imp ?_⟩
  intro x y hxy m hm n hn
  left
  rwa [index_of_mem_mismatches hm, index_of_mem_mismatches hn]

theorem exists_mem_mismatches_iff (t : Trial σ) :
    (∃ m, m ∈ t.mismatches) ↔ ¬ t.passes = true := by
  rw [← mismatches_eq_nil_iff]
  constructor
  · rintro ⟨m, hm⟩ hnil
    rw [hnil] at hm
    cases hm
  · exact List.exists_mem_of_ne_nil _

/-- The positions that entries name are those of the trials that fail. -/
theorem toFinset_index_mismatches (trials : List (Trial σ)) :
    ((trials.flatMap mismatches).map Mismatch.index).toFinset =
      ((trials.filter fun t => !t.passes).map index).toFinset := by
  ext k
  simp only [List.mem_toFinset, List.mem_map, List.mem_flatMap, List.mem_filter, Bool.not_eq_true',
    ← Bool.not_eq_true]
  constructor
  · rintro ⟨m, ⟨t, ht, hm⟩, rfl⟩
    exact ⟨t, ⟨ht, t.exists_mem_mismatches_iff.1 ⟨m, hm⟩⟩, (index_of_mem_mismatches hm).symm⟩
  · rintro ⟨t, ⟨ht, hfail⟩, rfl⟩
    obtain ⟨m, hm⟩ := t.exists_mem_mismatches_iff.2 hfail
    exact ⟨m, ⟨t, ht, hm⟩, index_of_mem_mismatches hm⟩

theorem card_index_mismatches {trials : List (Trial σ)}
    (hp : trials.Pairwise fun x y => x.index < y.index) :
    ((trials.flatMap mismatches).map Mismatch.index).toFinset.card =
      trials.countP fun t => !t.passes := by
  have hnodup : ((trials.filter fun t => !t.passes).map index).Nodup := by
    rw [List.nodup_iff_pairwise_ne, List.pairwise_map]
    exact (hp.filter _).imp Nat.ne_of_lt
  rw [toFinset_index_mismatches, List.toFinset_card_of_nodup hnodup, List.length_map,
    List.countP_eq_length_filter]

theorem countP_fails_upToFailure_le (trials : List (Trial σ)) :
    (upToFailure trials).countP (fun t => !t.passes) ≤ 1 := by
  induction trials with
  | nil => exact Nat.zero_le 1
  | cons t trials ih =>
    unfold upToFailure
    split
    · next ht => rwa [List.countP_cons_of_neg (by simp [ht])]
    · exact List.countP_le_length

end Trial

/-! ## Entries of a run -/

namespace Device

variable {d : Device σ} {policy : Policy} {vectors : List TestVector} {state : σ} {t : Trial σ}

theorem getElem?_of_mem_trials (h : t ∈ d.trials 0 vectors state) :
    vectors[t.index]? = some t.vector := by
  have hmem := List.mem_map_of_mem (f := fun t => ((t.vector, t.response.output), t.index)) h
  rw [map_trials_eq_zipIdx, List.mem_zipIdx_iff_getElem?, List.getElem?_zip_eq_some] at hmem
  exact hmem.1

/-- The trials that take place have the positions below their number. -/
theorem index_lt_of_mem_carriedOut (h : t ∈ Trial.carriedOut policy (d.trials 0 vectors state)) :
    t.index < (Trial.carriedOut policy (d.trials 0 vectors state)).length := by
  obtain ⟨rest, hrest⟩ := Trial.isPrefix_carriedOut policy (d.trials 0 vectors state)
  obtain ⟨before, after, hsplit⟩ := List.append_of_mem h
  rw [hsplit, List.append_assoc, List.cons_append] at hrest
  rw [index_of_trials_eq hrest.symm, hsplit, List.length_append, List.length_cons]
  omega

theorem fits_of_mem_mismatches {m : Mismatch}
    (h : t ∈ Trial.carriedOut policy (d.trials 0 vectors state)) (hm : m ∈ t.mismatches) :
    m.Fits vectors (Trial.carriedOut policy (d.trials 0 vectors state)).length := by
  have flag : ∀ p : Bool, p.toUInt8 = 0 ∨ p.toUInt8 = 1 := by decide
  have hindex := Trial.index_of_mem_mismatches hm
  obtain ⟨hne, heq⟩ := TestVector.mem_mismatches_iff.1 hm
  have hactual : m.actual = m.field.get t.response.output := by rw [heq]
  have hexpected : m.expected = m.field.get t.vector.expectedOutput := by rw [heq]
  have hvector : m.vector = t.vector := by rw [heq]
  constructor
  · rw [hindex]
    exact index_lt_of_mem_carriedOut h
  · rw [hindex, hvector]
    exact getElem?_of_mem_trials ((Trial.isPrefix_carriedOut policy _).subset h)
  · rwa [hactual, hexpected]
  · intro hfield
    rw [hactual, hexpected]
    cases hf : m.field with
    | result => exact absurd hf hfield
    | carry | zero | negative | overflow => exact ⟨flag _, flag _⟩

/-! ## Consistency -/

theorem consistent_report_run (d : Device σ) (policy : Policy) (vectors : List TestVector)
    (state : σ) : (d.run policy vectors state).report.Consistent policy vectors := by
  have hlen := length_trials d 0 vectors state
  have hpairwise := (pairwise_trials d 0 vectors state).sublist
    (Trial.isPrefix_carriedOut policy _).sublist
  have hle := executed_run_le d policy vectors state
  have hnil := mismatches_run_eq_nil_iff d policy vectors state
  rw [report_run] at hle hnil ⊢
  constructor
  case policy_eq | total_eq => rfl
  case passed_le => exact List.countP_le_length
  case executed_le => exact hle
  case failed_eq =>
    rw [Report.failed?_ofTrials, ← Trial.card_index_mismatches hpairwise]
    rfl
  case failed_le_one =>
    rintro rfl
    rw [Report.failed_ofTrials]
    exact Trial.countP_fails_upToFailure_le _
  case pairwise_precedes => exact Trial.pairwise_flatMap_mismatches hpairwise
  case fits =>
    intro m hm
    obtain ⟨t, ht, hm⟩ := List.mem_flatMap.1 hm
    exact fits_of_mem_mismatches ht hm
  case halted_iff => exact decide_eq_true_iff
  case of_executed_lt =>
    intro hlt
    -- if every trial passed, or the policy did not stop, all of them would have taken place
    have hstop : Trial.carriedOut policy (d.trials 0 vectors state) ≠ d.trials 0 vectors state := by
      intro hall
      rw [hall] at hlt
      exact Nat.ne_of_lt hlt hlen
    constructor
    · cases policy with
      | failFast => rfl
      | collectAll => exact absurd rfl hstop
    · intro hm
      exact hstop (Trial.carriedOut_of_passes policy (hnil.1 hm))

/-- **Every report of a run agrees with itself**, and all that it can be asked for agrees. -/
theorem report_run_agrees (d : Device σ) (policy : Policy) (vectors : List TestVector)
    (state : σ) :
    let r := (d.run policy vectors state).report
    r.Consistent policy vectors ∧ r.failed + r.passed = r.executed ∧ r.mismatches.Nodup ∧
      [r.isSuccess = true, r.passed = r.total, r.firstMismatch? = none,
        ∃ kept, r.verdict = .ok kept].TFAE ∧
      ∀ m, r.firstMismatch? = some m →
        m ∈ r.mismatches ∧ ∀ n ∈ r.mismatches, n = m ∨ m.Precedes n := by
  intro r
  have h : r.Consistent policy vectors := consistent_report_run d policy vectors state
  exact ⟨h, h.failed_add_passed, h.nodup, h.tfae, fun m => h.precedes_of_first⟩

/-- An output that is wrong in three fields is one failed vector with three entries. -/
theorem report_run_agrees_scripted :
    let vectors : List TestVector := [⟨2, 4, 0, 6⟩, ⟨2, 4, 1, 14⟩, ⟨1, 1, 0, 2⟩]
    let d := Device.scripted [⟨6, false, false, false, false⟩, ⟨0, false, true, true, false⟩]
    let r := (d.run .failFast vectors 0).report
    let m : Mismatch := ⟨1, ⟨2, 4, 1, 14⟩, .result, 0, 14⟩
    r.failed = 1 ∧ r.mismatches.length = 3 ∧
      (r.firstMismatch? = some m ∧ m.Fits vectors r.executed ∧
        ∀ n ∈ r.mismatches, n = m ∨ m.Precedes n) ∧
      (r.executed < r.total ∧ r.halted = true) := by
  intro vectors d r m
  have h := report_run_agrees d .failFast vectors 0
  have hm : r.firstMismatch? = some m := by decide
  have hlt : r.executed < r.total := by decide
  have hfirst := h.2.2.2.2 m hm
  refine ⟨by decide, by decide, ⟨hm, h.1.fits m hfirst.1, hfirst.2⟩, hlt, h.1.halted_iff.2 hlt⟩

end Device

end AluBench
