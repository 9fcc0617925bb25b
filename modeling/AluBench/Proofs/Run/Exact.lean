import AluBench.Proofs.Model.Exact
import AluBench.Proofs.Run.Literals

/-!
# Running exact arithmetic against the model

A device that computes in exact arithmetic gets the report of the model: no flag of it is ever
wrong, and its result only where the literal of the vector is. On the way no sum of the model leaves
a byte.
-/

namespace AluBench

theorem Device.answers_exact :
    (ofFunction Model.Exact.evaluate).Answers Model.evaluate := by
  intro state a b sel
  rw [answers_ofFunction Model.Exact.evaluate, Model.evaluate_eq_exact]

theorem wrongLiterals_exact (vectors : List TestVector) :
    wrongLiterals Model.Exact.evaluate vectors = wrongLiterals Model.evaluate vectors := by
  unfold wrongLiterals TestVector.literalEntry?
  simp only [Model.evaluate_eq_exact]

/-- **Exact arithmetic gets the model's report**, and every sum that the model takes is a byte. -/
theorem Device.run_exact_eq_run_model (policy : Policy) (vectors : List TestVector)
    (calls others : Nat) :
    let exact := ofFunction Model.Exact.evaluate
    (∀ m ∈ (exact.run policy vectors calls).report.mismatches, m.field = .result) ∧
      (exact.run .collectAll vectors calls).report.mismatches =
        wrongLiterals Model.Exact.evaluate vectors ∧
      (exact.run policy vectors calls).report = (model.run policy vectors others).report ∧
      (∀ op a b, Model.Checked.execute? op a b = some (Model.execute op a b)) ∧
      ∀ a b sel, Model.Checked.evaluate? a b sel = some (Model.evaluate a b sel) := by
  intro exact
  refine ⟨?_, ?_, ?_, Model.Checked.execute?_eq_some, Model.Checked.evaluate?_eq_some⟩
  · intro m hm
    exact field_of_mem_mismatches answers_exact hm
  · rw [wrongLiterals_exact]
    exact mismatches_run_collectAll_of_answers answers_exact vectors calls
  · exact report_run_of_answers answers_exact (answers_ofFunction Model.evaluate) policy vectors
      calls others

/-- Seven and one overflow to minus eight as expected; two less four borrows and is no 200. -/
theorem Device.run_exact_finds_wrong_literal :
    let report :=
      ((ofFunction Model.Exact.evaluate).run .collectAll [⟨0x17, 0x21, 0xF0, 8⟩, ⟨2, 4, 1, 200⟩]
        0).report
    let m : Mismatch := ⟨1, ⟨2, 4, 1, 200⟩, .result, 14, 200⟩
    m ∈ report.mismatches ∧ m.field = .result ∧ report.passed = 1 := by
  intro report m
  have h := run_exact_eq_run_model .collectAll [⟨0x17, 0x21, 0xF0, 8⟩, ⟨2, 4, 1, 200⟩] 0 0
  have hm : m ∈ report.mismatches := by
    show m ∈ ((ofFunction Model.Exact.evaluate).run _ _ _).report.mismatches
    rw [h.2.1]
    decide
  exact ⟨hm, h.1 m hm, by decide⟩

end AluBench
