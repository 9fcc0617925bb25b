import AluBench.Model

/-!
# The model with checked sums

The same formulas, but a sum that does not fit into a byte has no value, as where arithmetic is
checked. The difference is taken modulo 256 on purpose and stays as it is.
-/

namespace AluBench.Model.Checked

/-- The sum of two bytes, if it is a byte. -/
def sum? (x y : UInt8) : Option UInt8 := if x.toNat + y.toNat < 256 then some (x + y) else none

/-- `Model.add` with the operands' sum checked. -/
def add? (a b : UInt8) : Option Output :=
  let a := a &&& nibbleMask
  let b := b &&& nibbleMask
  (sum? a b).map fun full =>
    let result := full &&& nibbleMask
    .ofResult result (full > nibbleMask) ((~~~(a ^^^ b) &&& (a ^^^ result)) &&& signBit != 0)

def execute? (op : Operation) (a b : UInt8) : Option Output :=
  match op with
  | .add => add? a b
  | .sub | .and | .or | .xor | .eq => some (execute op a b)

def evaluate? (a b sel : UInt8) : Option Output :=
  match Operation.ofSelector? sel with
  | some op => execute? op (a &&& nibbleMask) (b &&& nibbleMask)
  | none => some (.ofResult 0 false false)

end AluBench.Model.Checked
