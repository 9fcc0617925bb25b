import AluBench.Json
import AluBench.Model

/-!
# Test vectors

A vector is one stimulus with the result it should give. The expected result is a literal of the
vector; the expected flags always come from the golden model.
-/

namespace AluBench

structure TestVector where
  a : UInt8
  b : UInt8
  sel : UInt8
  /-- The expected result, nothing about the flags. -/
  expected : UInt8
  deriving DecidableEq, Repr, Inhabited

namespace TestVector

def operation? (v : TestVector) : Option Operation := Operation.ofSelector? v.sel

/-- `A=0010 B=0100 sel=0001 (SUB)`, with `???` where no operation is selected. The bytes are
written as they are, so a byte above 15 has more than four digits. -/
def text (v : TestVector) : String :=
  "A=" ++ Text.binary 4 v.a.toNat ++ " B=" ++ Text.binary 4 v.b.toNat
    ++ " sel=" ++ Text.binary 4 v.sel.toNat
    ++ " (" ++ ((v.operation?.map Operation.mnemonic).getD "???") ++ ")"

/-- The model's flags with the vector's own result. -/
def expectedOutput (v : TestVector) : Output :=
  { Model.evaluate v.a v.b v.sel with value := v.expected }

def toJson (v : TestVector) : Json :=
  .record [("a", .number v.a.toNat), ("b", .number v.b.toNat), ("sel", .number v.sel.toNat),
    ("expected", .number v.expected.toNat)]

end TestVector

end AluBench
