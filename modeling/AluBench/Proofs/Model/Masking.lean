import AluBench.Bus
import AluBench.Model

/-!
# High nibbles do not count

Of the bytes that the model is asked with, and of those that are put on a bus, only the low nibbles
have an effect. Below 16 there is nothing to mask, so there the model is the decoded operation.

    Model.evaluate (a &&& nibbleMask) (b &&& nibbleMask) (sel &&& nibbleMask) =
      Model.evaluate a b sel                                        (evaluate_and_nibbleMask)
    a ≤ 15 → b ≤ 15 → Model.evaluate a b op.selector = Model.execute op a b
                                                                    (evaluate_selector)
-/

namespace AluBench

/-! ## Bytes and nibbles by enumeration -/

theorem forall_byte {p : UInt8 → Prop} (h : ∀ n, n < 256 → p n.toUInt8) (byte : UInt8) :
    p byte := by
  have e : byte.toNat.toUInt8 = byte := by simp
  rw [← e]
  exact h byte.toNat byte.toNat_lt

theorem forall_nibble {p : UInt8 → Prop} (h : ∀ n, n < 16 → p n.toUInt8) (byte : UInt8)
    (hb : byte ≤ 15) : p byte := by
  have e : byte.toNat.toUInt8 = byte := by simp
  rw [← e]
  exact h byte.toNat (Nat.lt_succ_of_le (UInt8.le_iff_toNat_le.1 hb))

/-! ## Nibbles -/

theorem and_nibbleMask_of_le {byte : UInt8} (h : byte ≤ 15) : byte &&& nibbleMask = byte := by
  rw [← UInt8.toNat_inj, toNat_and_nibbleMask]
  have : byte.toNat ≤ 15 := UInt8.le_iff_toNat_le.1 h
  omega

theorem and_nibbleMask_le (byte : UInt8) : byte &&& nibbleMask ≤ 15 := by
  rw [UInt8.le_iff_toNat_le]
  have := and_nibbleMask_lt byte
  show (byte &&& nibbleMask).toNat ≤ 15
  omega

theorem mem_nibbles_iff {byte : UInt8} : byte ∈ nibbles ↔ byte ≤ 15 := by
  unfold nibbles
  rw [List.mem_map, UInt8.le_iff_toNat_le]
  constructor
  · rintro ⟨n, hn, rfl⟩
    rw [List.mem_range] at hn
    rw [UInt8.toNat_ofNat_of_lt' (show n < 256 by omega)]
    show n ≤ 15
    omega
  · intro h
    refine ⟨byte.toNat, ?_, by simp⟩
    rw [List.mem_range]
    exact Nat.lt_succ_of_le h

/-! ## The selector and the model -/

theorem Operation.selector_le (op : Operation) : op.selector ≤ 15 := by
  cases op <;> decide

theorem Operation.ofSelector?_and_nibbleMask (sel : UInt8) :
    ofSelector? (sel &&& nibbleMask) = ofSelector? sel := by
  simp [ofSelector?]

namespace Model

theorem evaluate_and_nibbleMask (a b sel : UInt8) :
    evaluate (a &&& nibbleMask) (b &&& nibbleMask) (sel &&& nibbleMask) = evaluate a b sel := by
  simp only [evaluate, Operation.ofSelector?_and_nibbleMask, and_nibbleMask_self]

theorem evaluate_selector (op : Operation) {a b : UInt8} (ha : a ≤ 15) (hb : b ≤ 15) :
    evaluate a b op.selector = execute op a b := by
  simp only [evaluate, Operation.ofSelector?_selector, and_nibbleMask_of_le ha,
    and_nibbleMask_of_le hb]

end Model

/-! ## The operand byte -/

theorem Bus.packOperands_and_nibbleMask (a b : UInt8) :
    packOperands (a &&& nibbleMask) (b &&& nibbleMask) = packOperands a b := by
  simp only [packOperands, and_nibbleMask_self]

end AluBench
