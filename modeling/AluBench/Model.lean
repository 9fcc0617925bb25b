import AluBench.Operation
import AluBench.Output

/-!
# The golden model

The ALU as bit formulas on bytes. Sums and differences are taken of the operands' low nibbles, so no
intermediate value leaves a byte. `Model.evaluate` is total: an undefined selector answers a zero
result with carry and overflow clear.
-/

namespace AluBench.Model

/-- Overflow when the operands share a sign that the result does not have. -/
def add (a b : UInt8) : Output :=
  let a := a &&& nibbleMask
  let b := b &&& nibbleMask
  let full := a + b
  let result := full &&& nibbleMask
  .ofResult result (full > nibbleMask) ((~~~(a ^^^ b) &&& (a ^^^ result)) &&& signBit != 0)

/-- The carry is a borrow. Overflow when the operands' signs differ and the result does not have
the sign of `a`. -/
def sub (a b : UInt8) : Output :=
  let a := a &&& nibbleMask
  let b := b &&& nibbleMask
  let result := (a - b) &&& nibbleMask
  .ofResult result (a < b) (((a ^^^ b) &&& (a ^^^ result)) &&& signBit != 0)

/-- A logic operation leaves carry and overflow clear. -/
def logic (result : UInt8) : Output := .ofResult result false false

/-- One for equal operands, else zero. -/
def eq (a b : UInt8) : Output :=
  logic (if a &&& nibbleMask == b &&& nibbleMask then 1 else 0)

/-- A decoded operation on two operand bytes. -/
def execute (op : Operation) (a b : UInt8) : Output :=
  match op with
  | .add => add a b
  | .sub => sub a b
  | .and => logic (a &&& b)
  | .or => logic (a ||| b)
  | .xor => logic (a ^^^ b)
  | .eq => eq a b

/-- The model on any three bytes: of each only the low nibble counts. -/
def evaluate (a b sel : UInt8) : Output :=
  match Operation.ofSelector? sel with
  | some op => execute op (a &&& nibbleMask) (b &&& nibbleMask)
  | none => .ofResult 0 false false

end AluBench.Model
