/-!
# Nibbles

Operands, selectors and results have four bits and travel in the low half of a byte.

    (byte &&& nibbleMask).toNat = byte.toNat % 16        (toNat_and_nibbleMask)
-/

namespace AluBench

/-- The low half of a byte. -/
def nibbleMask : UInt8 := 0x0F

/-- The sign of a nibble in two's complement. -/
def signBit : UInt8 := 0b1000

/-- The sixteen nibbles, from the least. -/
def nibbles : List UInt8 := (List.range 16).map UInt8.ofNat

theorem toNat_and_nibbleMask (byte : UInt8) : (byte &&& nibbleMask).toNat = byte.toNat % 16 := by
  rw [UInt8.toNat_and]
  exact Nat.and_two_pow_sub_one_eq_mod byte.toNat 4

theorem and_nibbleMask_lt (byte : UInt8) : (byte &&& nibbleMask).toNat < 16 := by
  rw [toNat_and_nibbleMask]
  exact Nat.mod_lt _ (by decide)

/-- Masking once is enough. -/
@[simp] theorem and_nibbleMask_self (byte : UInt8) :
    byte &&& nibbleMask &&& nibbleMask = byte &&& nibbleMask := by
  rw [UInt8.and_assoc]
  rfl

end AluBench
