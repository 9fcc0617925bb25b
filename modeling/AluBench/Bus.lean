import AluBench.Output

/-!
# The packed buses

    operand byte   bits 7..4  b         bits 3..0  a
    selector byte                       bits 3..0  selector
    output byte    bit 7 carry, bit 6 zero, bit 5 negative, bit 4 overflow, bits 3..0 result

An output byte is decoded as it was driven: zero and negative are read from their own bits, never
from the result.
-/

namespace AluBench.Bus

/-- The bit position at which the operand byte holds `b`. -/
def operandShift : UInt8 := 4

def carryBit : UInt8 := 0b1000_0000
def zeroBit : UInt8 := 0b0100_0000
def negativeBit : UInt8 := 0b0010_0000
def overflowBit : UInt8 := 0b0001_0000

/-- The operand byte of two operands, of which only the low nibbles are carried. -/
def packOperands (a b : UInt8) : UInt8 :=
  ((b &&& nibbleMask) <<< operandShift) ||| (a &&& nibbleMask)

/-- The operands `(a, b)` of an operand byte. -/
def unpackOperands (operands : UInt8) : UInt8 × UInt8 :=
  (operands &&& nibbleMask, (operands >>> operandShift) &&& nibbleMask)

/-- The byte of an output, of whose result only the low nibble is carried. -/
def packOutput (out : Output) : UInt8 :=
  let drive (flag : Bool) (bit : UInt8) : UInt8 := if flag then bit else 0
  (out.value &&& nibbleMask) ||| drive out.carry carryBit ||| drive out.zero zeroBit
    ||| drive out.negative negativeBit ||| drive out.overflow overflowBit

def unpackOutput (byte : UInt8) : Output where
  value := byte &&& nibbleMask
  carry := byte &&& carryBit != 0
  zero := byte &&& zeroBit != 0
  negative := byte &&& negativeBit != 0
  overflow := byte &&& overflowBit != 0

end AluBench.Bus
