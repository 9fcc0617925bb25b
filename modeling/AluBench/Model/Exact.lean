import AluBench.Output

/-!
# The ALU in exact arithmetic

What the ALU should answer, said with integers instead of bit formulas: a sum and a difference are
taken without bounds, the result is their remainder by 16, and the flags say what the remainder
lost. A selector without an operation answers zero.
-/

namespace AluBench.Model.Exact

/-- The operand or selector that a byte carries. -/
def nibble (byte : UInt8) : Nat := byte.toNat % 16

theorem nibble_lt (byte : UInt8) : nibble byte < 16 := Nat.mod_lt _ (by decide)

theorem toNat_masked (byte : UInt8) : (byte &&& nibbleMask).toNat = nibble byte :=
  toNat_and_nibbleMask byte

theorem nibble_masked (byte : UInt8) : nibble (byte &&& nibbleMask) = nibble byte := by
  unfold nibble
  rw [toNat_and_nibbleMask, Nat.mod_mod]

/-- A nibble as a two's-complement number. -/
def signed (n : Nat) : Int := if 8 ≤ n then (n : Int) - 16 else n

/-- Outside the range of a signed nibble. -/
def overflows (i : Int) : Bool := i < -8 || 7 < i

/-- The output with a result below 16, which decides zero and negative. -/
def output (value : Nat) (carry overflow : Bool) : Output :=
  ⟨UInt8.ofNat value, carry, value == 0, 8 ≤ value, overflow⟩

def evaluate (a b sel : UInt8) : Output :=
  let x := nibble a
  let y := nibble b
  match nibble sel with
  | 0 => output ((x + y) % 16) (16 ≤ x + y) (overflows (signed x + signed y))
  | 1 => output (((x : Int) - y) % 16).toNat (x < y) (overflows (signed x - signed y))
  | 8 => output (x &&& y) false false
  | 9 => output (x ||| y) false false
  | 10 => output (x ^^^ y) false false
  | 15 => output (if x = y then 1 else 0) false false
  | _ => output 0 false false

end AluBench.Model.Exact
