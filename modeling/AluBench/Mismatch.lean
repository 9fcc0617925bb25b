import AluBench.TestVector

/-!
# Mismatches

An output has five fields, which are compared one by one: no field is derived from another, and all
that differ are reported. A flag counts as 0 or 1.
-/

namespace AluBench

inductive OutputField where
  | result | carry | zero | negative | overflow
  deriving DecidableEq, Repr, Inhabited

namespace OutputField

/-- In the order in which an output is compared. -/
def all : List OutputField := [result, carry, zero, negative, overflow]

theorem mem_all (field : OutputField) : field ∈ all := by
  cases field <;> decide

def name : OutputField → String
  | result => "result"
  | carry => "carry"
  | zero => "zero"
  | negative => "negative"
  | overflow => "overflow"

theorem name_inj {f g : OutputField} : f.name = g.name ↔ f = g := by
  cases f <;> cases g <;> decide

theorem isAlpha_of_mem_name {f : OutputField} {c : Char} (h : c ∈ f.name.toList) :
    c.isAlpha = true := by
  have hall : f.name.toList.all Char.isAlpha = true := by
    cases f <;> decide
  exact List.all_eq_true.1 hall c h

/-- The binary digits that a value of the field is written with. -/
def width : OutputField → Nat
  | result => 4
  | _ => 1

def get : OutputField → Output → UInt8
  | result, out => out.value
  | carry, out => out.carry.toUInt8
  | zero, out => out.zero.toUInt8
  | negative, out => out.negative.toUInt8
  | overflow, out => out.overflow.toUInt8

end OutputField

/-- One field of one vector in which a device and the expected output differ. -/
structure Mismatch where
  /-- The position of the vector in the run. -/
  index : Nat
  vector : TestVector
  field : OutputField
  actual : UInt8
  expected : UInt8
  deriving DecidableEq, Repr, Inhabited

namespace Mismatch

/-- The fields in which two outputs of a vector differ. -/
def compare (index : Nat) (vector : TestVector) (actual expected : Output) : List Mismatch :=
  OutputField.all.filterMap fun field =>
    if field.get actual == field.get expected then none
    else some ⟨index, vector, field, field.get actual, field.get expected⟩

/-- `Vector #3 A=0010 B=0100 sel=0001 (SUB): carry was 0, expected 1` -/
def text (m : Mismatch) : String :=
  "Vector #" ++ Text.decimal m.index ++ " " ++ m.vector.text ++ ": " ++ m.field.name
    ++ " was " ++ Text.binary m.field.width m.actual.toNat
    ++ ", expected " ++ Text.binary m.field.width m.expected.toNat

def toJson (m : Mismatch) : Json :=
  .record [("index", .number m.index), ("vector", m.vector.toJson), ("field", .name m.field.name),
    ("actual", .number m.actual.toNat), ("expected", .number m.expected.toNat)]

end Mismatch

namespace TestVector

/-- What a device's output for a vector gets wrong. -/
def mismatches (v : TestVector) (index : Nat) (actual : Output) : List Mismatch :=
  Mismatch.compare index v actual v.expectedOutput

end TestVector

end AluBench
