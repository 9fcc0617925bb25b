import AluBench.Proofs.Json
import AluBench.Report
import Mathlib.Data.List.Basic

/-!
# The JSON document of a report

The document of a report has every number, flag, policy and field of it, and nothing in it could be
mistaken for something else. So the report is known from either text of it.

    r.toJson.pretty = s.toJson.pretty ↔ r = s
    r.toJson.compact = s.toJson.compact ↔ r = s                            (json_tells_report)
-/

namespace AluBench

open Json

/-! ## Nothing is lost in the document -/

theorem TestVector.toJson_inj {v w : TestVector} : v.toJson = w.toJson ↔ v = w := by
  cases v
  cases w
  simp [toJson, UInt8.toNat_inj]

theorem Mismatch.toJson_inj {m n : Mismatch} : m.toJson = n.toJson ↔ m = n := by
  cases m
  cases n
  simp [toJson, TestVector.toJson_inj, OutputField.name_inj, UInt8.toNat_inj]

theorem Report.toJson_inj {r s : Report} : r.toJson = s.toJson ↔ r = s := by
  have hmismatches : Function.Injective (List.map Mismatch.toJson) :=
    List.map_injective_iff.2 fun _ _ => Mismatch.toJson_inj.1
  cases r
  cases s
  simp [toJson, Policy.name_inj, hmismatches.eq_iff]

/-! ## Letters only -/

theorem TestVector.plain_toJson (v : TestVector) : v.toJson.Plain := by
  simp only [toJson, Plain, PlainFields, true_and, and_true]
  decide

theorem Mismatch.plain_toJson (m : Mismatch) : m.toJson.Plain := by
  have hfield : Lettered m.field.name := fun _ => OutputField.isAlpha_of_mem_name
  simp only [toJson, Plain, PlainFields, m.vector.plain_toJson, hfield, true_and, and_true]
  decide

theorem Report.plain_toJson (r : Report) : r.toJson.Plain := by
  have hpolicy : Lettered r.policy.name := by
    cases r.policy <;> decide
  have hmismatches : PlainItems (r.mismatches.map Mismatch.toJson) := by
    rw [plainItems_iff]
    intro doc hdoc
    obtain ⟨m, -, rfl⟩ := List.mem_map.1 hdoc
    exact m.plain_toJson
  simp only [toJson, Plain, PlainFields, hpolicy, hmismatches, true_and, and_true]
  decide

/-! ## The texts -/

/-- **Either JSON text of a report determines the report**, and blanks and line feeds are all that
the two differ in. -/
theorem Report.json_tells_report (r s : Report) :
    solid r.toJson.pretty.toList = r.toJson.compact.toList ∧
      (r.toJson.pretty = s.toJson.pretty ↔ r = s) ∧
      (r.toJson.compact = s.toJson.compact ↔ r = s) := by
  refine ⟨solid_pretty r.plain_toJson, ?_, ?_⟩
  · rw [pretty_inj r.plain_toJson s.plain_toJson, toJson_inj]
  · rw [compact_inj r.plain_toJson s.plain_toJson, toJson_inj]

end AluBench
