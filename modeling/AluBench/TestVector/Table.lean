import AluBench.TestVector

/-!
# The table of vectors

Chosen and worked out by hand, so that a fault of the model itself does not hide: the result
column comes from no formula.
-/

namespace AluBench.TestVector

def table : List TestVector := [
  -- sums
  ⟨0b0011, 0b0001, 0b0000, 0b0100⟩,
  ⟨0b1000, 0b1000, 0b0000, 0b0000⟩,
  ⟨0b0000, 0b0000, 0b0000, 0b0000⟩,
  ⟨0b1111, 0b0001, 0b0000, 0b0000⟩,
  ⟨0b0111, 0b0001, 0b0000, 0b1000⟩,
  ⟨0b1111, 0b1111, 0b0000, 0b1110⟩,
  ⟨0b0101, 0b0010, 0b0000, 0b0111⟩,
  -- differences
  ⟨0b0100, 0b0010, 0b0001, 0b0010⟩,
  ⟨0b0010, 0b0100, 0b0001, 0b1110⟩,
  ⟨0b0000, 0b0001, 0b0001, 0b1111⟩,
  ⟨0b1000, 0b0001, 0b0001, 0b0111⟩,
  ⟨0b0111, 0b1000, 0b0001, 0b1111⟩,
  ⟨0b0101, 0b0101, 0b0001, 0b0000⟩,
  -- conjunctions
  ⟨0b1100, 0b1010, 0b1000, 0b1000⟩,
  ⟨0b1111, 0b0000, 0b1000, 0b0000⟩,
  -- disjunctions
  ⟨0b0101, 0b0011, 0b1001, 0b0111⟩,
  ⟨0b0000, 0b0000, 0b1001, 0b0000⟩,
  -- exclusive disjunctions
  ⟨0b1010, 0b0101, 0b1010, 0b1111⟩,
  ⟨0b1001, 0b1001, 0b1010, 0b0000⟩,
  -- comparisons
  ⟨0b0111, 0b0111, 0b1111, 0b0001⟩,
  ⟨0b0011, 0b0100, 0b1111, 0b0000⟩,
  ⟨0b0000, 0b0000, 0b1111, 0b0001⟩]

/-- The table's vectors whose operation is one of `ops`, in the order of the table. -/
def tableOf (ops : List Operation) : List TestVector :=
  table.filter fun v => v.operation?.any (ops.contains ·)

end AluBench.TestVector
