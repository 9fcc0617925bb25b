import AluBench.Proofs.Run.FailFast
import Mathlib.Data.List.Induction

/-!
# Outputs are read back from the report

A report lists a vector's output as the difference to the expected one, field by field, so nothing
of the output is lost: put the reported fields to their actual values and the output is there again.
Reports of full runs with the same mismatches come from devices with the same outputs.

    (Mismatch.compare index v x y).foldl (fun out m => m.field.set m.actual out) y = x
                                                                               (foldl_set_compare)
    (d.outputs vectors state)[index]? =
      some ((d.run policy vectors state).report.outputOf index v)           (getElem?_outputs_eq)
-/

namespace AluBench

variable {σ τ : Type}

/-! ## One output -/

/-- Once the fields in which `x` differs from `y` are put to their values in `x`, as far as they
are listed, the listed fields are those of `x` and the others still those of `y`. -/
theorem OutputField.get_foldl_set (fields : List OutputField) (x y : Output)
    (field : OutputField) :
    field.get (fields.foldl
        (fun out g => if g.get x = g.get y then out else g.set (g.get x) out) y) =
      if field ∈ fields then field.get x else field.get y := by
  induction fields using List.reverseRecOn with
  | nil => rfl
  | append_singleton fields g ih =>
    rw [List.foldl_append, List.foldl_cons, List.foldl_nil]
    by_cases heq : g.get x = g.get y
    -- a field that is passed over has its value in both outputs
    · rw [if_pos heq, ih]
      by_cases hg : field = g
      · subst hg
        simp [heq]
      · simp [hg]
    · rw [if_neg heq, get_set_get, ih]
      by_cases hg : field = g <;> simp [hg]

/-- A comparison turns the second output into the first. -/
theorem Mismatch.foldl_set_compare (index : Nat) (v : TestVector) (x y : Output) :
    (compare index v x y).foldl (fun out m => m.field.set m.actual out) y = x := by
  unfold compare
  rw [List.foldl_filterMap]
  apply OutputField.output_ext
  intro field
  have h := OutputField.get_foldl_set OutputField.all x y field
  rw [if_pos field.mem_all] at h
  rw [← h]
  congr 2
  funext out g
  by_cases heq : g.get x = g.get y <;> simp [heq]

/-! ## One vector of a run -/

/-- Where positions rise, the mismatches at a trial's position are those of that trial. -/
theorem Trial.filter_index_of_mem {trials : List (Trial σ)} {t : Trial σ}
    (hp : trials.Pairwise fun x y => x.index < y.index) (ht : t ∈ trials) :
    (trials.flatMap mismatches).filter (fun m => m.index = t.index) = t.mismatches := by
  obtain ⟨before, after, rfl⟩ := List.append_of_mem ht
  rw [List.pairwise_append, List.pairwise_cons] at hp
  obtain ⟨-, ⟨hafter, -⟩, hbefore⟩ := hp
  have hnone : (before.flatMap mismatches).filter (fun m => m.index = t.index) = [] := by
    rw [List.filter_eq_nil_iff]
    intro m hm
    obtain ⟨x, hx, hmx⟩ := List.mem_flatMap.1 hm
    have := hbefore x hx t List.mem_cons_self
    rw [decide_eq_true_eq, index_of_mem_mismatches hmx]
    omega
  rw [List.flatMap_append, List.filter_append, hnone, List.nil_append, List.flatMap_cons]
  exact filter_index_mismatches rfl hafter

theorem Report.outputOf_ofTrials (policy : Policy) (total : Nat) {trials : List (Trial σ)}
    {t : Trial σ} (hp : trials.Pairwise fun x y => x.index < y.index) (ht : t ∈ trials) :
    (ofTrials policy total trials).outputOf t.index t.vector = t.response.output := by
  have h := Trial.filter_index_of_mem hp ht
  unfold outputOf
  calc ((trials.flatMap Trial.mismatches).filter (fun m => m.index == t.index)).foldl
        (fun out m => m.field.set m.actual out) t.vector.expectedOutput
      = t.mismatches.foldl (fun out m => m.field.set m.actual out) t.vector.expectedOutput := by
        rw [← h]
        rfl
    _ = t.response.output := Mismatch.foldl_set_compare _ _ _ _

namespace Device

/-- The output for a vector that was executed is read back from the report. -/
theorem getElem?_outputs_eq (d : Device σ) (policy : Policy) {vectors : List TestVector}
    (state : σ) {index : Nat} {v : TestVector} (hv : vectors[index]? = some v)
    (hlt : index < (d.run policy vectors state).report.executed) :
    (d.outputs vectors state)[index]? =
      some ((d.run policy vectors state).report.outputOf index v) := by
  obtain ⟨t, ht, rfl, rfl, hout⟩ := getElem?_trials d state hv
  have hrises := pairwise_trials d 0 vectors state
  obtain ⟨rest, hrest⟩ := Trial.isPrefix_carriedOut policy (d.trials 0 vectors state)
  rw [report_run] at hlt ⊢
  -- the trials that took place are the first ones, so the one at `index` is among them
  rw [← hrest] at ht hrises
  rw [List.getElem?_append_left hlt] at ht
  rw [hout, Report.outputOf_ofTrials policy _ (List.pairwise_append.1 hrises).1
    (List.mem_of_getElem? ht)]

theorem getElem?_outputs_eq_collectAll (d : Device σ) {vectors : List TestVector} (state : σ)
    {index : Nat} {v : TestVector} (hv : vectors[index]? = some v) :
    (d.outputs vectors state)[index]? =
      some ((d.run .collectAll vectors state).report.outputOf index v) := by
  apply getElem?_outputs_eq d .collectAll state hv
  rw [executed_run_collectAll]
  exact (List.getElem?_eq_some_iff.1 hv).1

/-- What is read back depends on nothing but the vectors and the mismatches. -/
theorem outputs_eq_of_mismatches_eq {d : Device σ} {e : Device τ} {vectors : List TestVector}
    {s : σ} {t : τ}
    (h : (d.run .collectAll vectors s).report.mismatches =
      (e.run .collectAll vectors t).report.mismatches) :
    d.outputs vectors s = e.outputs vectors t := by
  apply List.ext_getElem?
  intro index
  cases hv : vectors[index]? with
  | none =>
    rw [List.getElem?_eq_none_iff] at hv
    rw [List.getElem?_eq_none (by simpa using hv), List.getElem?_eq_none (by simpa using hv)]
  | some v =>
    rw [getElem?_outputs_eq_collectAll d s hv, getElem?_outputs_eq_collectAll e t hv]
    unfold Report.outputOf
    rw [h]

/-! ## Recovery -/

/-- **A report loses no output** of a vector that was executed. -/
theorem outputs_of_report (d : Device σ) (e : Device τ) (vectors : List TestVector) (s : σ)
    (t : τ) :
    let full := (d.run .collectAll vectors s).report
    let cut := (d.run .failFast vectors s).report
    (full.mismatches = (e.run .collectAll vectors t).report.mismatches →
        d.outputs vectors s = e.outputs vectors t) ∧
      (∀ (index : Nat) (v : TestVector), vectors[index]? = some v →
        (d.outputs vectors s)[index]? = some (full.outputOf index v)) ∧
      ∀ (index : Nat) (v : TestVector), vectors[index]? = some v → index < cut.executed →
        (d.outputs vectors s)[index]? = some (cut.outputOf index v) := by
  intro full cut
  refine ⟨outputs_eq_of_mismatches_eq, ?_, ?_⟩
  · intro index v hv
    exact getElem?_outputs_eq_collectAll d s hv
  · intro index v hv hlt
    exact getElem?_outputs_eq d .failFast s hv hlt

/-- The inverted borrow, and a script that says the same word for word. -/
theorem outputs_of_report_invertedBorrow :
    let vectors : List TestVector := [⟨2, 4, 0, 6⟩, ⟨2, 4, 1, 13⟩, ⟨1, 1, 0, 9⟩]
    let d := invertedBorrow
    let e := Device.scripted [⟨6, false, false, false, false⟩, ⟨14, false, false, true, false⟩,
      ⟨2, false, false, false, false⟩]
    let cut := (d.run .failFast vectors 0).report
    ((d.run .collectAll vectors 0).report.mismatches =
          (e.run .collectAll vectors 0).report.mismatches ∧
        d.outputs vectors 0 = e.outputs vectors 0) ∧
      (vectors[1]? = some ⟨2, 4, 1, 13⟩ ∧ 1 < cut.executed ∧
        (d.outputs vectors 0)[1]? = some (cut.outputOf 1 ⟨2, 4, 1, 13⟩)) := by
  intro vectors d e cut
  have h := outputs_of_report d e vectors 0 0
  have heq : (d.run .collectAll vectors 0).report.mismatches =
      (e.run .collectAll vectors 0).report.mismatches := by decide
  have hlt : 1 < cut.executed := by decide
  exact ⟨⟨heq, h.1 heq⟩, rfl, hlt, h.2.2 1 ⟨2, 4, 1, 13⟩ rfl hlt⟩

end Device

end AluBench
