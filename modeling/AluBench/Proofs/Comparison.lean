import AluBench.Report.Recover

/-!
# What a comparison lists

One entry for each of the five fields in which two outputs differ, in the order of
`OutputField.all`, and none for a field in which they agree.

    v.mismatches index out = v.entries index out          (mismatches_eq_entries)
    v.mismatches index out = [] ↔ out = v.expectedOutput  (mismatches_eq_nil_iff)

`entries` says the same field by field: the result against the literal of the vector, each flag
against the model.
-/

namespace AluBench

variable {index : Nat} {v : TestVector} {out : Output}

/-! ## The entries, written out -/

/-- The entry of a flag that is not as it should be, with the flags as 0 or 1. -/
def flagEntry (index : Nat) (v : TestVector) (field : OutputField) (actual expected : Bool) :
    List Mismatch :=
  if actual = expected then []
  else [⟨index, v, field, if actual then 1 else 0, if expected then 1 else 0⟩]

def TestVector.entries (v : TestVector) (index : Nat) (out : Output) : List Mismatch :=
  let due := Model.evaluate v.a v.b v.sel
  (if out.value = v.expected then [] else [⟨index, v, .result, out.value, v.expected⟩])
    ++ flagEntry index v .carry out.carry due.carry
    ++ flagEntry index v .zero out.zero due.zero
    ++ flagEntry index v .negative out.negative due.negative
    ++ flagEntry index v .overflow out.overflow due.overflow

/-! ## Lemmas -/

theorem Mismatch.mem_compare_iff {m : Mismatch} {x y : Output} :
    m ∈ compare index v x y ↔
      m.field.get x ≠ m.field.get y ∧
        m = ⟨index, v, m.field, m.field.get x, m.field.get y⟩ := by
  unfold compare
  rw [List.mem_filterMap]
  constructor
  · rintro ⟨field, -, h⟩
    split at h
    · cases h
    · next hne =>
      obtain rfl := Option.some.inj h
      exact ⟨by simpa using hne, rfl⟩
  · rintro ⟨hne, hm⟩
    refine ⟨m.field, m.field.mem_all, ?_⟩
    rw [if_neg (by simpa using hne), ← hm]

theorem Mismatch.compare_eq_nil_iff {x y : Output} : compare index v x y = [] ↔ x = y := by
  constructor
  · intro h
    apply OutputField.output_ext
    intro field
    apply Classical.byContradiction
    intro hne
    have hm : (⟨index, v, field, field.get x, field.get y⟩ : Mismatch) ∈ compare index v x y :=
      mem_compare_iff.2 ⟨hne, rfl⟩
    rw [h] at hm
    cases hm
  · rintro rfl
    simp [compare]

namespace TestVector

theorem mem_mismatches_iff {m : Mismatch} :
    m ∈ v.mismatches index out ↔
      m.field.get out ≠ m.field.get v.expectedOutput ∧
        m = ⟨index, v, m.field, m.field.get out, m.field.get v.expectedOutput⟩ :=
  Mismatch.mem_compare_iff

theorem mismatches_eq_nil_iff : v.mismatches index out = [] ↔ out = v.expectedOutput :=
  Mismatch.compare_eq_nil_iff

theorem index_of_mem_mismatches {m : Mismatch} (h : m ∈ v.mismatches index out) :
    m.index = index := by
  rw [(mem_mismatches_iff.1 h).2]

end TestVector

theorem flagEntry_eq (field : OutputField) (actual expected : Bool) :
    flagEntry index v field actual expected =
      if actual.toUInt8 = expected.toUInt8 then []
      else [⟨index, v, field, actual.toUInt8, expected.toUInt8⟩] := by
  cases actual <;> cases expected <;> rfl

/-- A comparison is the five entries one after the other. -/
theorem TestVector.mismatches_eq_entries : v.mismatches index out = v.entries index out := by
  have entry : ∀ field : OutputField,
      ([field].filterMap fun field =>
        if field.get out == field.get v.expectedOutput then none
        else some (⟨index, v, field, field.get out, field.get v.expectedOutput⟩ : Mismatch)) =
      if field.get out = field.get v.expectedOutput then []
      else [⟨index, v, field, field.get out, field.get v.expectedOutput⟩] := by
    intro field
    by_cases h : field.get out = field.get v.expectedOutput <;> simp [h]
  have split : OutputField.all = [.result] ++ [.carry] ++ [.zero] ++ [.negative] ++ [.overflow] :=
    rfl
  unfold mismatches Mismatch.compare entries
  simp only [split, List.filterMap_append, entry, flagEntry_eq]
  rfl

end AluBench
