import AluBench.Proofs.Run.Trials

/-!
# The report follows from the outputs

Of a device only its outputs get into the report: two devices that give the same outputs for a list
of vectors get the same report, whatever else they keep in their states and log.

    d.outputs vectors s = e.outputs vectors t →
      (d.run policy vectors s).report = (e.run policy vectors t).report      (report_run_congr)
-/

namespace AluBench

variable {σ τ : Type}

/-- A trial as seen from outside of the device: no state and no log. -/
def Trial.seen (t : Trial σ) : Trial Unit := ⟨t.index, t.vector, ⟨t.response.output, (), []⟩⟩

theorem Trial.passes_seen (t : Trial σ) : t.seen.passes = t.passes := rfl

theorem Report.ofTrials_map_seen (policy : Policy) (total : Nat) (trials : List (Trial σ)) :
    ofTrials policy total (trials.map Trial.seen) = ofTrials policy total trials := by
  unfold ofTrials
  rw [List.length_map, List.countP_map, List.flatMap_map]
  rfl

namespace Device

variable {d : Device σ} {e : Device τ} {vectors : List TestVector} {s : σ} {t : τ}

theorem map_seen_trials (h : d.outputs vectors s = e.outputs vectors t) (index : Nat) :
    (d.trials index vectors s).map Trial.seen = (e.trials index vectors t).map Trial.seen := by
  induction vectors generalizing index s t with
  | nil => rfl
  | cons v vectors ih =>
    rw [outputs, outputs, List.cons.injEq] at h
    obtain ⟨hout, hrest⟩ := h
    simp only [trials, List.map_cons, ih hrest, Trial.seen, hout]

theorem report_run_eq_seen (policy : Policy) :
    (d.run policy vectors s).report =
      .ofTrials policy vectors.length
        (Trial.carriedOut policy ((d.trials 0 vectors s).map Trial.seen)) := by
  rw [report_run, Trial.carriedOut_map Trial.passes_seen, Report.ofTrials_map_seen]

theorem report_run_congr (h : d.outputs vectors s = e.outputs vectors t) (policy : Policy) :
    (d.run policy vectors s).report = (e.run policy vectors t).report := by
  rw [report_run_eq_seen, report_run_eq_seen, map_seen_trials h]

end Device

end AluBench
