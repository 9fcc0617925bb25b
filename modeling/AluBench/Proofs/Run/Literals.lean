import AluBench.Proofs.Device.HistoryFree
import AluBench.Proofs.Run.Outputs

/-!
# Only a wrong literal is found in the model

A device that answers as the model has the flags that are expected, whatever the literal of the
vector. So a run finds nothing in it but the vectors whose literals are not the model's results.

    (d.run .collectAll vectors state).report.mismatches =
      wrongLiterals Model.evaluate vectors                  (mismatches_run_collectAll_of_answers)
-/

namespace AluBench

/-- The entry of a vector whose literal is not the result that `answer` gives. -/
def TestVector.literalEntry? (answer : (a b sel : UInt8) → Output) (v : TestVector)
    (index : Nat) : Option Mismatch :=
  let value := (answer v.a v.b v.sel).value
  if value = v.expected then none else some ⟨index, v, .result, value, v.expected⟩

/-- One entry for each vector whose literal is not the result that `answer` gives, in order. -/
def wrongLiterals (answer : (a b sel : UInt8) → Output) (vectors : List TestVector) :
    List Mismatch :=
  vectors.zipIdx.filterMap fun (v, index) => v.literalEntry? answer index

theorem mem_wrongLiterals_iff {answer : (a b sel : UInt8) → Output} {vectors : List TestVector}
    {m : Mismatch} :
    m ∈ wrongLiterals answer vectors ↔
      ∃ v, vectors[m.index]? = some v ∧ (answer v.a v.b v.sel).value ≠ v.expected ∧
        m = ⟨m.index, v, .result, (answer v.a v.b v.sel).value, v.expected⟩ := by
  unfold wrongLiterals TestVector.literalEntry?
  rw [List.mem_filterMap]
  constructor
  · rintro ⟨⟨v, index⟩, hmem, h⟩
    dsimp only at h
    split at h
    · cases h
    · next hne =>
      obtain rfl := Option.some.inj h
      exact ⟨v, List.mem_zipIdx_iff_getElem?.1 hmem, hne, rfl⟩
  · rintro ⟨v, hv, hne, hm⟩
    refine ⟨(v, m.index), List.mem_zipIdx_iff_getElem?.2 hv, ?_⟩
    dsimp only
    rw [if_neg hne, ← hm]

/-- The expected flags are the model's own. -/
theorem TestVector.mismatches_evaluate (v : TestVector) (index : Nat) :
    v.mismatches index (Model.evaluate v.a v.b v.sel) =
      (v.literalEntry? Model.evaluate index).toList := by
  rw [mismatches_eq_entries]
  unfold entries flagEntry literalEntry?
  dsimp only
  split <;> simp

/-! ## Runs -/

namespace Device

variable {σ τ : Type} {d : Device σ} {e : Device τ}

theorem flatMap_mismatches_of_answers (h : d.Answers Model.evaluate) (index : Nat)
    (vectors : List TestVector) (state : σ) :
    (d.trials index vectors state).flatMap Trial.mismatches =
      (vectors.zipIdx index).filterMap fun (v, index) => v.literalEntry? Model.evaluate index := by
  induction vectors generalizing index state with
  | nil => rfl
  | cons v vectors ih =>
    rw [trials, List.flatMap_cons, ih, Trial.mismatches, h, TestVector.mismatches_evaluate,
      List.zipIdx_cons, List.filterMap_cons]
    dsimp only
    cases v.literalEntry? Model.evaluate index <;> rfl

theorem mismatches_run_collectAll_of_answers (h : d.Answers Model.evaluate)
    (vectors : List TestVector) (state : σ) :
    (d.run .collectAll vectors state).report.mismatches =
      wrongLiterals Model.evaluate vectors := by
  rw [report_run]
  exact flatMap_mismatches_of_answers h 0 vectors state

theorem field_of_mem_mismatches (h : d.Answers Model.evaluate) {policy : Policy}
    {vectors : List TestVector} {state : σ} {m : Mismatch}
    (hm : m ∈ (d.run policy vectors state).report.mismatches) : m.field = .result := by
  have hfull := (isPrefix_mismatches_run d policy vectors state).subset hm
  rw [mismatches_run_collectAll_of_answers h, mem_wrongLiterals_iff] at hfull
  obtain ⟨v, -, -, hm⟩ := hfull
  rw [hm]

/-- Devices that give the same answers get the same report. -/
theorem report_run_of_answers {answer : (a b sel : UInt8) → Output} (hd : d.Answers answer)
    (he : e.Answers answer) (policy : Policy) (vectors : List TestVector) (s : σ) (t : τ) :
    (d.run policy vectors s).report = (e.run policy vectors t).report := by
  apply report_run_congr
  rw [outputs_of_answers hd, outputs_of_answers he]

end Device

end AluBench
