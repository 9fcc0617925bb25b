import AluBench.Device.Fault
import AluBench.Proofs.Run.Detection

/-!
# Fields do not interfere

What a full run says of one field of the outputs follows from this field alone: from its values in
the outputs and from the values that are due. The due result is the literal of the vector and the
due flags are the model's, so a wrong literal shows in no flag and a wrong flag in no result.

    (d.run .collectAll vectors state).report.entriesOf field =
      differences 0 ((d.outputs vectors state).map field.get)
        (vectors.map fun v => field.get v.expectedOutput)              (entriesOf_run_collectAll)
-/

namespace AluBench

/-- The bytes that a vector puts to a device. -/
def TestVector.stimulus (v : TestVector) : UInt8 × UInt8 × UInt8 := (v.a, v.b, v.sel)

/-- What a report says of one field: the positions, each with the actual and the expected value. -/
def Report.entriesOf (r : Report) (field : OutputField) : List (Nat × UInt8 × UInt8) :=
  (r.mismatches.filter (·.field = field)).map fun m => (m.index, m.actual, m.expected)

/-- The positions, from `index` on, at which two lists of values differ, each with both values. -/
def differences (index : Nat) : (actual expected : List UInt8) → List (Nat × UInt8 × UInt8)
  | x :: actual, y :: expected =>
    (if x = y then [] else [(index, x, y)]) ++ differences (index + 1) actual expected
  | _, _ => []

/-! ## What is due -/

namespace TestVector

variable {field : OutputField}

theorem get_expectedOutput_of_ne (h : field ≠ .result) (v : TestVector) :
    field.get v.expectedOutput = field.get (Model.evaluate v.a v.b v.sel) := by
  cases field with
  | result => exact absurd rfl h
  | carry | zero | negative | overflow => rfl

/-- The literals take no part in the flags that are due. -/
theorem map_get_expectedOutput (h : field ≠ .result) (vectors : List TestVector) :
    (vectors.map fun v => field.get v.expectedOutput) =
      (vectors.map stimulus).map fun (a, b, sel) => field.get (Model.evaluate a b sel) := by
  rw [List.map_map]
  exact List.map_congr_left fun v _ => get_expectedOutput_of_ne h v

end TestVector

/-! ## One field of a report -/

/-- A comparison has at most one entry for a field, and it is about this field only. -/
theorem Mismatch.filter_field_compare (index : Nat) (v : TestVector) (x y : Output)
    (field : OutputField) :
    ((compare index v x y).filter (·.field = field)).map
        (fun m => (m.index, m.actual, m.expected)) =
      if field.get x = field.get y then [] else [(index, field.get x, field.get y)] := by
  have one : ∀ entry : Option (Nat × UInt8 × UInt8),
      (OutputField.all.filterMap fun g => if g = field then entry else none) = entry.toList := by
    intro entry
    cases field <;> cases entry <;> rfl
  have select : ∀ g : OutputField,
      (((if g.get x == g.get y then none
          else some (⟨index, v, g, g.get x, g.get y⟩ : Mismatch)).filter (·.field = field)).map
        fun m => (m.index, m.actual, m.expected)) =
      if g = field then
        if field.get x = field.get y then none else some (index, field.get x, field.get y)
      else none := by
    intro g
    by_cases hg : g = field
    · subst hg
      by_cases h : g.get x = g.get y <;> simp [h, Option.filter]
    · by_cases h : g.get x = g.get y <;> simp [h, hg]
  unfold compare
  rw [List.filter_filterMap, List.map_filterMap]
  simp only [select, one]
  split <;> rfl

namespace Device

variable {σ τ : Type}

theorem entriesOf_trials (d : Device σ) (index : Nat) (vectors : List TestVector) (state : σ)
    (field : OutputField) :
    (((d.trials index vectors state).flatMap Trial.mismatches).filter (·.field = field)).map
        (fun m => (m.index, m.actual, m.expected)) =
      differences index ((d.outputs vectors state).map field.get)
        (vectors.map fun v => field.get v.expectedOutput) := by
  induction vectors generalizing index state with
  | nil => rfl
  | cons v vectors ih =>
    rw [trials, List.flatMap_cons, List.filter_append, List.map_append, ih, outputs, List.map_cons,
      List.map_cons, differences]
    congr 1
    exact Mismatch.filter_field_compare index v _ _ field

theorem entriesOf_run_collectAll (d : Device σ) (vectors : List TestVector) (state : σ)
    (field : OutputField) :
    (d.run .collectAll vectors state).report.entriesOf field =
      differences 0 ((d.outputs vectors state).map field.get)
        (vectors.map fun v => field.get v.expectedOutput) := by
  unfold Report.entriesOf
  rw [report_run]
  exact entriesOf_trials d 0 vectors state field

/-- A flag is compared with the model's, the result with the literal of the vector. -/
theorem hasEntry_collectAll_iff_ne {d : Device σ} {vectors : List TestVector} {state : σ}
    {index : Nat} {v : TestVector} {out : Output} (hv : vectors[index]? = some v)
    (ho : (d.outputs vectors state)[index]? = some out) :
    let report := (d.run .collectAll vectors state).report
    (∀ field ≠ .result,
        (report.HasEntry index field ↔
          field.get out ≠ field.get (Model.evaluate v.a v.b v.sel))) ∧
      (report.HasEntry index .result ↔ out.value ≠ v.expected) := by
  intro report
  constructor
  · intro field hfield
    rw [← TestVector.get_expectedOutput_of_ne hfield]
    exact hasEntry_collectAll_iff hv ho field
  · exact hasEntry_collectAll_iff hv ho .result

/-! ## Two runs -/

section TwoRuns

variable {d : Device σ} {e : Device τ} {xs ys : List TestVector} {s : σ} {t : τ}

/-- Runs on which a flag is the same find the same in this flag. -/
theorem entriesOf_run_congr_of_stimulus {field : OutputField} (hfield : field ≠ .result)
    (hvectors : xs.map TestVector.stimulus = ys.map TestVector.stimulus)
    (houtputs : (d.outputs xs s).map field.get = (e.outputs ys t).map field.get) :
    (d.run .collectAll xs s).report.entriesOf field =
      (e.run .collectAll ys t).report.entriesOf field := by
  rw [entriesOf_run_collectAll, entriesOf_run_collectAll, houtputs,
    TestVector.map_get_expectedOutput hfield, TestVector.map_get_expectedOutput hfield, hvectors]

theorem entriesOf_run_congr_of_literals
    (hvectors : xs.map TestVector.expected = ys.map TestVector.expected)
    (houtputs : (d.outputs xs s).map Output.value = (e.outputs ys t).map Output.value) :
    (d.run .collectAll xs s).report.entriesOf .result =
      (e.run .collectAll ys t).report.entriesOf .result := by
  rw [entriesOf_run_collectAll, entriesOf_run_collectAll]
  exact congrArg₂ (differences 0) houtputs hvectors

end TwoRuns

/-! ## No interference -/

/-- **No field interferes with another**: of two runs that agree on the stimuli and on a flag of the
outputs, or on the literals and on the results, the reports agree on it. -/
theorem run_fields_apart (d : Device σ) (e : Device τ) (xs ys : List TestVector) (s : σ) (t : τ) :
    let r := (d.run .collectAll xs s).report
    let q := (e.run .collectAll ys t).report
    (xs.map TestVector.stimulus = ys.map TestVector.stimulus →
        ∀ field ≠ .result,
          (d.outputs xs s).map field.get = (e.outputs ys t).map field.get →
            r.entriesOf field = q.entriesOf field) ∧
      (xs.map TestVector.expected = ys.map TestVector.expected →
        (d.outputs xs s).map Output.value = (e.outputs ys t).map Output.value →
          r.entriesOf .result = q.entriesOf .result) ∧
      ∀ (index : Nat) (v : TestVector) (out : Output), xs[index]? = some v →
        (d.outputs xs s)[index]? = some out →
          (∀ field ≠ .result,
            (r.HasEntry index field ↔
              field.get out ≠ field.get (Model.evaluate v.a v.b v.sel))) ∧
            (r.HasEntry index .result ↔ out.value ≠ v.expected) := by
  intro r q
  refine ⟨?_, entriesOf_run_congr_of_literals, ?_⟩
  · intro hvectors field hfield houtputs
    exact entriesOf_run_congr_of_stimulus hfield hvectors houtputs
  · intro index v out hv ho
    exact hasEntry_collectAll_iff_ne hv ho

/-- An inverted borrow is reported alike by a script that gets all else wrong, and the results of
two scripts alike for operations that have nothing in common. -/
theorem run_fields_apart_scripted :
    let xs : List TestVector := [⟨2, 4, 0, 6⟩, ⟨2, 4, 1, 14⟩]
    let ys : List TestVector := [⟨2, 4, 0, 9⟩, ⟨2, 4, 1, 200⟩]
    let zs : List TestVector := [⟨5, 5, 15, 6⟩, ⟨1, 0, 7, 14⟩]
    let d := invertedBorrow
    let e := Device.scripted [⟨1, false, true, true, true⟩, ⟨14, false, true, false, true⟩]
    let r := (d.run .collectAll xs 0).report
    (xs.map TestVector.stimulus = ys.map TestVector.stimulus ∧
        (d.outputs xs 0).map OutputField.carry.get = (e.outputs ys 0).map OutputField.carry.get ∧
        r.entriesOf .carry = (e.run .collectAll ys 0).report.entriesOf .carry ∧
        r.entriesOf .carry = [(1, 0, 1)]) ∧
      (xs.map TestVector.expected = zs.map TestVector.expected ∧
        (e.outputs xs 0).map Output.value = (e.outputs zs 0).map Output.value ∧
        (e.run .collectAll xs 0).report.entriesOf .result =
          (e.run .collectAll zs 0).report.entriesOf .result) ∧
      (xs[1]? = some ⟨2, 4, 1, 14⟩ ∧ r.HasEntry 1 .carry ∧ ¬ r.HasEntry 1 .result) := by
  intro xs ys zs d e r
  have hstimulus : xs.map TestVector.stimulus = ys.map TestVector.stimulus := by decide
  have hcarry : (d.outputs xs 0).map OutputField.carry.get =
      (e.outputs ys 0).map OutputField.carry.get := by decide
  have hliteral : xs.map TestVector.expected = zs.map TestVector.expected := by decide
  have hvalue : (e.outputs xs 0).map Output.value = (e.outputs zs 0).map Output.value := by decide
  have hat := (run_fields_apart d e xs ys 0 0).2.2 1 ⟨2, 4, 1, 14⟩ ⟨14, false, false, true, false⟩
    rfl (by decide)
  refine ⟨⟨hstimulus, hcarry, (run_fields_apart d e xs ys 0 0).1 hstimulus .carry (by decide)
    hcarry, by decide⟩, ⟨hliteral, hvalue, (run_fields_apart e e xs zs 0 0).2.1 hliteral hvalue⟩,
    rfl, (hat.1 .carry (by decide)).2 (by decide), ?_⟩
  rw [hat.2]
  decide

end Device

end AluBench
