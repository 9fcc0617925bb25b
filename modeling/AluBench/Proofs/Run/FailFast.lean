import AluBench.Device.Fault
import AluBench.Proofs.Run.Trials

/-!
# Stopping at the first failing vector

A run that stops at the first failing vector is the run that does not, cut behind that vector: the
counters follow from the position of the first mismatch, the mismatches are those at that position,
and the device is left where the longer run had it after that vector.

The longer run is taken apart at its first failing trial (`all_pass_or_first_failure`). Positions
rise from trial to trial, so the position alone tells that trial's mismatches from the later ones.
-/

namespace AluBench

variable {σ : Type} {d : Device σ} {vectors : List TestVector} {state : σ}
  {before after : List (Trial σ)} {t : Trial σ}

/-! ## No failing trial -/

theorem Device.run_failFast_report_of_passes
    (h : ∀ t ∈ d.trials 0 vectors state, t.passes = true) :
    (d.run .failFast vectors state).report =
      { (d.run .collectAll vectors state).report with policy := .failFast } := by
  simp only [run_eq, Trial.carriedOut_of_passes _ h]

theorem Device.run_failFast_state_of_passes
    (h : ∀ t ∈ d.trials 0 vectors state, t.passes = true) :
    (d.run .failFast vectors state).state = (d.run .collectAll vectors state).state := by
  simp only [run_eq, Trial.carriedOut_of_passes _ h]

/-! ## A first failing trial -/

theorem Trial.countP_passes_of_passes (h : ∀ x ∈ before, x.passes = true) :
    before.countP Trial.passes = before.length :=
  List.countP_eq_length.2 h

/-- What the cut run reports of the trials up to the failing one. -/
theorem Device.run_failFast_report_of_failure
    (hts : d.trials 0 vectors state = before ++ t :: after)
    (hb : ∀ x ∈ before, x.passes = true) (ht : ¬ t.passes = true) :
    (d.run .failFast vectors state).report =
      ⟨.failFast, vectors.length, before.length + 1, before.length, t.mismatches,
        before.length + 1 < vectors.length⟩ := by
  simp only [run_eq, Trial.carriedOut, hts, Trial.upToFailure_append_cons hb ht,
    List.countP_append, List.flatMap_append, Trial.flatMap_mismatches_eq_nil_iff.2 hb,
    Trial.countP_passes_of_passes hb]
  simp [ht]

theorem Device.run_failFast_state_of_failure
    (hts : d.trials 0 vectors state = before ++ t :: after)
    (hb : ∀ x ∈ before, x.passes = true) (ht : ¬ t.passes = true) :
    (d.run .failFast vectors state).state =
      d.after (vectors.take (before.length + 1)) state := by
  simp only [run_eq, Trial.carriedOut, hts, Trial.upToFailure_append_cons hb ht]
  simp

theorem Device.run_collectAll_mismatches_of_failure
    (hts : d.trials 0 vectors state = before ++ t :: after)
    (hb : ∀ x ∈ before, x.passes = true) :
    (d.run .collectAll vectors state).report.mismatches =
      t.mismatches ++ after.flatMap Trial.mismatches := by
  simp only [run_eq, Trial.carriedOut, hts, List.flatMap_append, List.flatMap_cons,
    Trial.flatMap_mismatches_eq_nil_iff.2 hb, List.nil_append]

/-- The mismatches at the position of one trial are those of that trial. -/
theorem Trial.filter_index_mismatches {k : Nat} (hk : t.index = k) (ha : ∀ x ∈ after, k < x.index) :
    (t.mismatches ++ after.flatMap Trial.mismatches).filter (fun m => m.index = k) =
      t.mismatches := by
  have hin : t.mismatches.filter (fun m => m.index = k) = t.mismatches := by
    rw [List.filter_eq_self]
    intro m hm
    rw [decide_eq_true_eq, index_of_mem_mismatches hm, hk]
  have hout : (after.flatMap Trial.mismatches).filter (fun m => m.index = k) = [] := by
    rw [List.filter_eq_nil_iff]
    intro m hm
    obtain ⟨x, hx, hmx⟩ := List.mem_flatMap.1 hm
    have := ha x hx
    rw [decide_eq_true_eq, index_of_mem_mismatches hmx]
    omega
  rw [List.filter_append, hin, hout, List.append_nil]

theorem Device.lt_index_of_after
    (hts : d.trials 0 vectors state = before ++ t :: after) :
    ∀ x ∈ after, before.length < x.index := by
  intro x hx
  have hp := pairwise_trials d 0 vectors state
  have hi := index_of_trials_eq hts
  rw [hts, List.pairwise_append, List.pairwise_cons] at hp
  have := hp.2.1.1 x hx
  omega

/-! ## The cut -/

theorem Device.run_failFast_eq_cut (d : Device σ) (vectors : List TestVector) (state : σ) :
    let full := d.run .collectAll vectors state
    let cut := d.run .failFast vectors state
    match full.report.mismatches with
    | [] =>
      cut.report = { full.report with policy := .failFast } ∧ cut.state = full.state ∧
        d.check vectors state = .ok cut.report
    | m :: _ =>
      m.index < vectors.length ∧
        cut.report =
          { policy := .failFast
            total := vectors.length
            executed := m.index + 1
            passed := m.index
            mismatches := full.report.mismatches.filter fun entry => entry.index = m.index
            halted := m.index + 1 < vectors.length } ∧
        cut.state = d.after (vectors.take (m.index + 1)) state ∧
        full.state = d.after (vectors.drop (m.index + 1)) cut.state ∧
        d.check vectors state = .error m := by
  intro full cut
  rcases Trial.all_pass_or_first_failure (d.trials 0 vectors state) with
    h | ⟨before, t, after, hts, hb, ht⟩
  · have hcut : cut.report = { full.report with policy := .failFast } :=
      run_failFast_report_of_passes h
    have hnil : full.report.mismatches = [] := by
      show (d.run .collectAll vectors state).report.mismatches = []
      rw [run_eq]
      exact Trial.flatMap_mismatches_eq_nil_iff.2 h
    rw [hnil]
    refine ⟨hcut, run_failFast_state_of_passes h, Report.verdict_of_nil ?_⟩
    rw [hcut]
    exact hnil
  · have hidx : t.index = before.length := by
      rw [index_of_trials_eq hts, Nat.zero_add]
    have hlt : before.length < vectors.length := by
      have := congrArg List.length hts
      rw [length_trials, List.length_append, List.length_cons] at this
      omega
    have hfull : full.report.mismatches = t.mismatches ++ after.flatMap Trial.mismatches :=
      run_collectAll_mismatches_of_failure hts hb
    have hfilter := Trial.filter_index_mismatches hidx (lt_index_of_after hts)
    have hcut : cut.report = _ := run_failFast_report_of_failure hts hb ht
    have hstate : cut.state = _ := run_failFast_state_of_failure hts hb ht
    cases hm : t.mismatches with
    | nil => exact absurd ((Trial.mismatches_eq_nil_iff t).1 hm) ht
    | cons m found =>
      have hmi : m.index = before.length := by
        rw [← hidx]
        exact Trial.index_of_mem_mismatches (by rw [hm]; exact List.mem_cons_self)
      have hfirst : cut.report.mismatches = m :: found := by
        rw [hcut]
        exact hm
      -- the position of the first entry selects the entries of the failing trial
      rw [← hfull] at hfilter
      rw [hm, List.cons_append] at hfull
      rw [hfull]
      dsimp only
      rw [← hfull, hmi, hfilter]
      refine ⟨hlt, hcut, hstate, ?_, Report.verdict_of_cons hfirst⟩
      rw [hstate, ← after_append, List.take_append_drop]
      exact state_run_collectAll d vectors state

/-- A failure on the last vector leaves nothing out, so the run was not halted. -/
example :
    let vectors : List TestVector := [⟨2, 4, 0, 6⟩, ⟨2, 4, 1, 14⟩]
    let r := (Device.invertedBorrow.run .failFast vectors 0).report
    r.executed = 2 ∧ r.passed = 1 ∧ r.halted = false := by
  decide

end AluBench
