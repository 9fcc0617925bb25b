/-!
# Numbers as digits

`decimal n` has no leading zeros; `binary width n` is padded with zeros to `width` digits and is
never cut, so a value that needs more digits than `width` has all of them.
-/

namespace AluBench.Text

/-- Decimal digits of a number, `0` for zero. -/
def decimal (n : Nat) : String := String.ofList (Nat.toDigits 10 n)

/-- Binary digits of a number, most significant first, at least `width` of them. -/
def binary (width n : Nat) : String := String.ofList ((Nat.toDigits 2 n).leftpad width '0')

@[simp] theorem toList_decimal (n : Nat) : (decimal n).toList = Nat.toDigits 10 n := by
  simp [decimal]

@[simp] theorem toList_binary (width n : Nat) :
    (binary width n).toList = (Nat.toDigits 2 n).leftpad width '0' := by
  simp [binary]

end AluBench.Text
