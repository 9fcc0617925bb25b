import AluBench.Proofs.Model.Masking
import AluBench.Report.Recover
import Mathlib.Algebra.Group.Nat.Defs

/-!
# The layout of the output byte

Each field of an output has a run of bits of the output byte, as many as its texts have digits. What
is unpacked for a field is the number in these bits, what is packed is the field's value cut to
them. Together the five runs are the whole byte.

    (field.get (unpackOutput byte)).toNat = part field byte                  (get_unpackOutput)
    part field (packOutput out) = (field.get out).toNat % 2 ^ field.width    (part_packOutput)
    unpackOutput byte = out ↔ out.value ≤ 15 ∧ byte = packOutput out         (unpackOutput_eq_iff)
-/

namespace AluBench

/-- The lowest bit of the output byte that belongs to the field. -/
def OutputField.lowBit : OutputField → Nat
  | result => 0
  | overflow => 4
  | negative => 5
  | zero => 6
  | carry => 7

namespace Bus

/-- The number in the bits of an output byte that belong to a field. -/
def part (field : OutputField) (byte : UInt8) : Nat :=
  byte.toNat >>> field.lowBit % 2 ^ field.width

/-! ## Unpacking and packing -/

theorem get_unpackOutput_all : ∀ byte : UInt8, ∀ field ∈ OutputField.all,
    (field.get (unpackOutput byte)).toNat = part field byte :=
  forall_byte (by decide +kernel)

theorem get_unpackOutput (field : OutputField) (byte : UInt8) :
    (field.get (unpackOutput byte)).toNat = part field byte :=
  get_unpackOutput_all byte field field.mem_all

theorem part_packOutput_of_le : ∀ value : UInt8, value ≤ 15 →
    ∀ carry zero negative overflow : Bool, ∀ field ∈ OutputField.all,
      part field (packOutput ⟨value, carry, zero, negative, overflow⟩) =
        (field.get ⟨value, carry, zero, negative, overflow⟩).toNat :=
  forall_nibble (by decide +kernel)

/-- Of the result only the low nibble is packed. -/
theorem packOutput_and_nibbleMask (out : Output) :
    packOutput { out with value := out.value &&& nibbleMask } = packOutput out := by
  simp only [packOutput, and_nibbleMask_self]

theorem part_packOutput (field : OutputField) (out : Output) :
    part field (packOutput out) = (field.get out).toNat % 2 ^ field.width := by
  have flag : ∀ p : Bool, p.toUInt8.toNat = p.toUInt8.toNat % 2 := by decide
  have h : part field (packOutput { out with value := out.value &&& nibbleMask }) =
      (field.get { out with value := out.value &&& nibbleMask }).toNat :=
    part_packOutput_of_le _ (and_nibbleMask_le out.value) out.carry out.zero out.negative
      out.overflow field field.mem_all
  rw [packOutput_and_nibbleMask] at h
  rw [h]
  cases field with
  | result => exact toNat_and_nibbleMask out.value
  | carry | zero | negative | overflow => exact flag _

/-! ## Bytes by their parts -/

theorem packOutput_unpackOutput : ∀ byte : UInt8, packOutput (unpackOutput byte) = byte :=
  forall_byte (by decide +kernel)

theorem value_unpackOutput_le (byte : UInt8) : (unpackOutput byte).value ≤ 15 := by
  have := and_nibbleMask_lt byte
  rw [UInt8.le_iff_toNat_le]
  show (byte &&& nibbleMask).toNat ≤ 15
  omega

/-- A field has room for every value but a result above 15. -/
theorem get_lt {field : OutputField} {out : Output} (h : field = .result → out.value ≤ 15) :
    (field.get out).toNat < 2 ^ field.width := by
  have flag : ∀ p : Bool, p.toUInt8.toNat < 2 := by decide
  cases field with
  | result =>
    have := UInt8.le_iff_toNat_le.1 (h rfl)
    exact Nat.lt_succ_of_le this
  | carry => exact flag out.carry
  | zero => exact flag out.zero
  | negative => exact flag out.negative
  | overflow => exact flag out.overflow

theorem unpackOutput_packOutput {out : Output} (h : out.value ≤ 15) :
    unpackOutput (packOutput out) = out := by
  apply OutputField.output_ext
  intro field
  rw [← UInt8.toNat_inj, get_unpackOutput, part_packOutput]
  exact Nat.mod_eq_of_lt (get_lt fun _ => h)

theorem unpackOutput_eq_iff {byte : UInt8} {out : Output} :
    unpackOutput byte = out ↔ out.value ≤ 15 ∧ byte = packOutput out := by
  constructor
  · rintro rfl
    exact ⟨value_unpackOutput_le byte, (packOutput_unpackOutput byte).symm⟩
  · rintro ⟨h, rfl⟩
    exact unpackOutput_packOutput h

/-! ## Parts by their bits -/

theorem mod_two_pow_eq_iff_testBit (x y width : Nat) :
    x % 2 ^ width = y % 2 ^ width ↔ ∀ k, k < width → x.testBit k = y.testBit k := by
  constructor
  · intro h k hk
    have := congrArg (fun n => n.testBit k) h
    simpa only [Nat.testBit_mod_two_pow, hk, decide_true, Bool.true_and] using this
  · intro h
    apply Nat.eq_of_testBit_eq
    intro k
    rw [Nat.testBit_mod_two_pow, Nat.testBit_mod_two_pow]
    by_cases hk : k < width
    · rw [h k hk]
    · simp [hk]

/-- Two bytes differ in a part exactly if they differ in one of its bits. -/
theorem part_ne_iff (field : OutputField) (x y : UInt8) :
    part field x ≠ part field y ↔
      ∃ k, field.lowBit ≤ k ∧ k < field.lowBit + field.width ∧
        (x ^^^ y).toNat.testBit k = true := by
  unfold part
  rw [ne_eq, mod_two_pow_eq_iff_testBit, Classical.not_forall]
  constructor
  · rintro ⟨k, hk⟩
    rw [Classical.not_imp, Nat.testBit_shiftRight, Nat.testBit_shiftRight] at hk
    refine ⟨field.lowBit + k, by omega, by omega, ?_⟩
    rw [UInt8.toNat_xor, Nat.testBit_xor]
    simpa using hk.2
  · rintro ⟨k, hlow, hhigh, hk⟩
    refine ⟨k - field.lowBit, ?_⟩
    rw [Classical.not_imp, Nat.testBit_shiftRight, Nat.testBit_shiftRight,
      show field.lowBit + (k - field.lowBit) = k by omega]
    rw [UInt8.toNat_xor, Nat.testBit_xor] at hk
    exact ⟨by omega, by simpa using hk⟩

end Bus

end AluBench
