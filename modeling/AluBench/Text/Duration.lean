import AluBench.Text.Digits

/-!
# Lengths of time

A length of time is a number of nanoseconds. It is written in the largest of `s`, `ms`, `µs`, `ns`
that leaves a whole part, followed by as many decimals as it takes: `1.001µs`, `2.5ms`, `0ns`.
-/

namespace AluBench.Text

/-- The `places` decimals of `n`, zeros at the end dropped, behind a point if any are left. -/
def decimals (places n : Nat) : List Char :=
  match ((Nat.toDigits 10 n).leftpad places '0').reverse.dropWhile (· == '0') with
  | [] => []
  | ds => '.' :: ds.reverse

/-- A unit of time as a power of ten of nanoseconds. -/
structure TimeUnit where
  name : String
  places : Nat
  deriving DecidableEq, Repr

namespace TimeUnit

/-- The nanoseconds in the unit. -/
def size (u : TimeUnit) : Nat := Nat.pow 10 u.places

/-- From the largest to the smallest. -/
def all : List TimeUnit := [⟨"s", 9⟩, ⟨"ms", 6⟩, ⟨"µs", 3⟩, ⟨"ns", 0⟩]

/-- A number of nanoseconds in the unit. -/
def write (u : TimeUnit) (ns : Nat) : String :=
  decimal (ns / u.size) ++ String.ofList (decimals u.places (ns % u.size)) ++ u.name

end TimeUnit

/-- A number of nanoseconds in the largest unit that fits in it, and zero in the smallest. -/
def duration (ns : Nat) : String :=
  ((TimeUnit.all.find? (·.size ≤ ns)).getD ⟨"ns", 0⟩).write ns

end AluBench.Text
