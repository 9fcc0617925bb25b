import AluBench.Json
import AluBench.Nibble
import AluBench.Text.Digits

/-!
# What the ALU answers

A result and four flags. An `Output` can hold anything a device may drive: a result of more than
four bits, or a zero flag that contradicts the result. `Output.ofResult` builds the consistent ones.
-/

namespace AluBench

structure Output where
  value : UInt8
  /-- Carry out of a sum, borrow of a difference. -/
  carry : Bool
  zero : Bool
  negative : Bool
  /-- The signed result does not fit in four bits. -/
  overflow : Bool
  deriving DecidableEq, Repr, Inhabited

namespace Output

/-- The low nibble of a result, with the zero and negative flags that follow from it. Carry and
overflow come from the computation before the result was cut. -/
def ofResult (result : UInt8) (carry overflow : Bool) : Output :=
  let value := result &&& nibbleMask
  { value, carry, zero := value == 0, negative := value &&& signBit != 0, overflow }

/-- The flags in brackets, each as its letter or a dash: `[CZ-V]`. -/
def flagsText (out : Output) : String :=
  let letter (flag : Bool) (c : Char) : Char := if flag then c else '-'
  String.ofList ['[', letter out.carry 'C', letter out.zero 'Z', letter out.negative 'N',
    letter out.overflow 'V', ']']

/-- The result in binary and the flags: `0000 [CZ-V]`. -/
def text (out : Output) : String := Text.binary 4 out.value.toNat ++ " " ++ out.flagsText

def toJson (out : Output) : Json :=
  .record [("value", .number out.value.toNat), ("c", .bool out.carry), ("z", .bool out.zero),
    ("n", .bool out.negative), ("v", .bool out.overflow)]

end Output

end AluBench
