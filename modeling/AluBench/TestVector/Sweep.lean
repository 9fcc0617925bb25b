import AluBench.TestVector

/-!
# Exhaustive sweeps

`sweep ops` has a vector for every operation of the list, every `a` and every `b`, in that order,
`b` running fastest. The expected result is the model's.
-/

namespace AluBench.TestVector

/-- The vector that asks for what the model answers. -/
def ofModel (op : Operation) (a b : UInt8) : TestVector :=
  ⟨a, b, op.selector, (Model.execute op a b).value⟩

def sweep (ops : List Operation) : List TestVector :=
  ops.flatMap fun op => nibbles.flatMap fun a => nibbles.map fun b => ofModel op a b

/-- The sweep of all six operations. -/
def sweepAll : List TestVector := sweep Operation.all

end AluBench.TestVector
