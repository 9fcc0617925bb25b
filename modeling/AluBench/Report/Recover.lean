import AluBench.Report

/-!
# Reading outputs back from a report

The mismatches of a vector say what its output was: the expected output with every field that is
reported put to its actual value.
-/

namespace AluBench

namespace OutputField

/-- The output with one field put to a value, which for a flag is true if it is not 0. -/
def set : OutputField → UInt8 → Output → Output
  | result, value, out => { out with value }
  | carry, value, out => { out with carry := value != 0 }
  | zero, value, out => { out with zero := value != 0 }
  | negative, value, out => { out with negative := value != 0 }
  | overflow, value, out => { out with overflow := value != 0 }

/-- An output is known by its five fields. -/
theorem output_ext {x y : Output} (h : ∀ field : OutputField, field.get x = field.get y) :
    x = y := by
  have flag : ∀ p q : Bool, p.toUInt8 = q.toUInt8 → p = q := by decide
  obtain ⟨xv, xc, xz, xn, xo⟩ := x
  obtain ⟨yv, yc, yz, yn, yo⟩ := y
  have hv : xv = yv := h .result
  rw [hv, flag xc yc (h .carry), flag xz yz (h .zero), flag xn yn (h .negative),
    flag xo yo (h .overflow)]

/-- Putting one field to its value in `x` leaves the other fields. -/
theorem get_set_get (field other : OutputField) (x out : Output) :
    field.get (other.set (other.get x) out) =
      if field = other then field.get x else field.get out := by
  have flag : ∀ p : Bool, (p.toUInt8 != 0) = p := by decide
  cases field <;> cases other <;> simp [set, get, flag]

end OutputField

namespace Report

/-- What the report says a vector's output was. -/
def outputOf (r : Report) (index : Nat) (v : TestVector) : Output :=
  (r.mismatches.filter (·.index == index)).foldl (fun out m => m.field.set m.actual out)
    v.expectedOutput

end Report

end AluBench
