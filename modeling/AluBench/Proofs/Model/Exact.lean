import AluBench.Model.Checked
import AluBench.Model.Exact
import AluBench.Proofs.Model.Masking

/-!
# The bit formulas are exact

On nibbles the model's formulas give what integer arithmetic asks for. A sum of two nibbles fits
into a byte, so the result and the carry can be read off it; a difference modulo 256 is still right
modulo 16. The overflow formulas look at sign bits only: a sum of two nibbles leaves the signed
range exactly if the operands agree in sign and the result does not agree with them, a difference
exactly if the operands do not agree and the result does not agree with the first.

    Model.evaluate a b sel = Model.Exact.evaluate a b sel                  (evaluate_eq_exact)
    Model.Checked.evaluate? a b sel = some (Model.evaluate a b sel)        (evaluate?_eq_some)
-/

namespace AluBench

/-! ## Sign bits -/

theorem hasSign_eq_getLsbD : ∀ byte : UInt8, (byte &&& signBit != 0) = byte.toBitVec.getLsbD 3 :=
  forall_byte (by decide +kernel)

theorem hasSign_masked : ∀ byte : UInt8,
    (byte &&& nibbleMask &&& signBit != 0) = decide (8 ≤ Model.Exact.nibble byte) :=
  forall_byte (by decide +kernel)

theorem hasSign_xor (x y : UInt8) :
    ((x ^^^ y) &&& signBit != 0) = ((x &&& signBit != 0) != (y &&& signBit != 0)) := by
  simp only [hasSign_eq_getLsbD, UInt8.toBitVec_xor, BitVec.getLsbD_xor]

theorem hasSign_and (x y : UInt8) :
    ((x &&& y) &&& signBit != 0) = ((x &&& signBit != 0) && (y &&& signBit != 0)) := by
  simp only [hasSign_eq_getLsbD, UInt8.toBitVec_and, BitVec.getLsbD_and]

theorem hasSign_not (x : UInt8) : (~~~x &&& signBit != 0) = !(x &&& signBit != 0) := by
  simp [hasSign_eq_getLsbD]

namespace Model.Exact

/-! ## Signed ranges by signs -/

theorem overflows_iff (i : Int) : overflows i = true ↔ i < -8 ∨ 7 < i := by
  simp [overflows]

theorem overflows_add {x y : Nat} (hx : x < 16) (hy : y < 16) :
    overflows (signed x + signed y) =
      ((decide (8 ≤ x) == decide (8 ≤ y)) && (decide (8 ≤ x) != decide (8 ≤ (x + y) % 16))) := by
  rw [Bool.eq_iff_iff, overflows_iff, Bool.and_eq_true, beq_iff_eq, bne_iff_ne, ne_eq,
    decide_eq_decide, decide_eq_decide]
  unfold signed
  split <;> split <;> omega

theorem overflows_sub {x y : Nat} (hx : x < 16) (hy : y < 16) :
    overflows (signed x - signed y) =
      ((decide (8 ≤ x) != decide (8 ≤ y)) &&
        (decide (8 ≤ x) != decide (8 ≤ (((x : Int) - y) % 16).toNat))) := by
  rw [Bool.eq_iff_iff, overflows_iff, Bool.and_eq_true, bne_iff_ne, bne_iff_ne, ne_eq, ne_eq,
    decide_eq_decide, decide_eq_decide]
  unfold signed
  split <;> split <;> omega

/-! ## The operations -/

/-- The output of a byte is that of the number in its low nibble. -/
theorem ofResult_eq_output {result : UInt8} {value : Nat} (carry overflow : Bool)
    (h : nibble result = value) :
    Output.ofResult result carry overflow = output value carry overflow := by
  have hzero : (result &&& nibbleMask == 0) = (value == 0) := by
    rw [Bool.eq_iff_iff, beq_iff_eq, beq_iff_eq, ← UInt8.toNat_inj, toNat_masked, h]
    rfl
  unfold Output.ofResult output
  dsimp only
  rw [hzero, hasSign_masked, h, ← h, ← toNat_masked, UInt8.ofNat_toNat]

theorem add_eq_output (a b : UInt8) :
    Model.add a b =
      output ((nibble a + nibble b) % 16) (decide (16 ≤ nibble a + nibble b))
        (overflows (signed (nibble a) + signed (nibble b))) := by
  have hx := nibble_lt a
  have hy := nibble_lt b
  unfold Model.add
  dsimp only
  generalize hfull : (a &&& nibbleMask) + (b &&& nibbleMask) = full
  have hsum : full.toNat = nibble a + nibble b := by
    rw [← hfull, UInt8.toNat_add, toNat_masked, toNat_masked]
    omega
  have hresult : nibble full = (nibble a + nibble b) % 16 := by
    rw [nibble, hsum]
  have hcarry : decide (full > nibbleMask) = decide (16 ≤ nibble a + nibble b) := by
    rw [decide_eq_decide, gt_iff_lt, UInt8.lt_iff_toNat_lt, hsum]
    rfl
  have hoverflow : ((~~~((a &&& nibbleMask) ^^^ (b &&& nibbleMask)) &&&
      ((a &&& nibbleMask) ^^^ (full &&& nibbleMask))) &&& signBit != 0) =
        overflows (signed (nibble a) + signed (nibble b)) := by
    -- both sides come down to the signs of the operands and of the result
    rw [overflows_add hx hy, hasSign_and, hasSign_not, hasSign_xor, hasSign_xor,
      hasSign_masked, hasSign_masked, hasSign_masked, hresult]
    simp only [bne, Bool.not_not]
  rw [hcarry, hoverflow]
  apply ofResult_eq_output
  rw [nibble_masked, hresult]

theorem sub_eq_output (a b : UInt8) :
    Model.sub a b =
      output (((nibble a : Int) - nibble b) % 16).toNat (decide (nibble a < nibble b))
        (overflows (signed (nibble a) - signed (nibble b))) := by
  have hx := nibble_lt a
  have hy := nibble_lt b
  unfold Model.sub
  dsimp only
  generalize hfull : (a &&& nibbleMask) - (b &&& nibbleMask) = full
  have hresult : nibble full = (((nibble a : Int) - nibble b) % 16).toNat := by
    rw [nibble, ← hfull, UInt8.toNat_sub, toNat_masked, toNat_masked]
    omega
  have hborrow : decide (a &&& nibbleMask < b &&& nibbleMask) = decide (nibble a < nibble b) := by
    rw [decide_eq_decide, UInt8.lt_iff_toNat_lt, toNat_masked, toNat_masked]
  have hoverflow : ((((a &&& nibbleMask) ^^^ (b &&& nibbleMask)) &&&
      ((a &&& nibbleMask) ^^^ (full &&& nibbleMask))) &&& signBit != 0) =
        overflows (signed (nibble a) - signed (nibble b)) := by
    rw [overflows_sub hx hy, hasSign_and, hasSign_xor, hasSign_xor, hasSign_masked,
      hasSign_masked, hasSign_masked, hresult]
  rw [hborrow, hoverflow]
  apply ofResult_eq_output
  rw [nibble_masked, hresult]

theorem logic_eq_output {result : UInt8} {value : Nat} (h : result.toNat = value)
    (hlt : value < 16) : Model.logic result = output value false false := by
  apply ofResult_eq_output
  rw [nibble, h, Nat.mod_eq_of_lt hlt]

theorem eq_eq_output (a b : UInt8) :
    Model.eq a b = output (if nibble a = nibble b then 1 else 0) false false := by
  have h : (a &&& nibbleMask == b &&& nibbleMask) = decide (nibble a = nibble b) := by
    rw [Bool.eq_iff_iff, beq_iff_eq, decide_eq_true_eq, ← UInt8.toNat_inj, toNat_masked,
      toNat_masked]
  unfold Model.eq
  rw [h]
  by_cases hab : nibble a = nibble b
  · simp only [hab, decide_true, if_true]
    exact logic_eq_output rfl (by decide)
  · simp only [hab, decide_false, if_false]
    exact logic_eq_output rfl (by decide)

/-! ## The selector -/

theorem ofSelector?_eq_some_iff {sel : UInt8} {op : Operation} :
    Operation.ofSelector? sel = some op ↔ nibble sel = op.selector.toNat := by
  constructor
  · intro h
    have hop := List.find?_some h
    rw [beq_iff_eq] at hop
    rw [hop, toNat_masked]
  · intro h
    rw [← toNat_masked, UInt8.toNat_inj] at h
    rw [← Operation.ofSelector?_and_nibbleMask, h, Operation.ofSelector?_selector]

theorem evaluate_of_selected {sel : UInt8} {op : Operation}
    (h : Operation.ofSelector? sel = some op) (a b : UInt8) :
    Model.execute op (a &&& nibbleMask) (b &&& nibbleMask) = evaluate a b sel := by
  have hx := nibble_lt a
  have hy := nibble_lt b
  unfold evaluate
  rw [ofSelector?_eq_some_iff.1 h]
  cases op with
  | add =>
    show Model.add _ _ = _
    rw [add_eq_output, nibble_masked, nibble_masked]
    rfl
  | sub =>
    show Model.sub _ _ = _
    rw [sub_eq_output, nibble_masked, nibble_masked]
    rfl
  | and =>
    refine logic_eq_output ?_ (Nat.and_lt_two_pow (n := 4) _ hy)
    rw [UInt8.toNat_and, toNat_masked, toNat_masked]
  | or =>
    refine logic_eq_output ?_ (Nat.or_lt_two_pow (n := 4) hx hy)
    rw [UInt8.toNat_or, toNat_masked, toNat_masked]
  | xor =>
    refine logic_eq_output ?_ (Nat.xor_lt_two_pow (n := 4) hx hy)
    rw [UInt8.toNat_xor, toNat_masked, toNat_masked]
  | eq =>
    show Model.eq _ _ = _
    rw [eq_eq_output, nibble_masked, nibble_masked]
    rfl

theorem evaluate_of_not_selected {sel : UInt8} (h : Operation.ofSelector? sel = none)
    (a b : UInt8) : evaluate a b sel = output 0 false false := by
  have hne : ∀ op : Operation, nibble sel ≠ op.selector.toNat := by
    intro op hop
    rw [ofSelector?_eq_some_iff.2 hop] at h
    cases h
  unfold evaluate
  dsimp only
  split
  · next h0 => exact absurd h0 (hne .add)
  · next h1 => exact absurd h1 (hne .sub)
  · next h8 => exact absurd h8 (hne .and)
  · next h9 => exact absurd h9 (hne .or)
  · next h10 => exact absurd h10 (hne .xor)
  · next h15 => exact absurd h15 (hne .eq)
  · rfl

end Model.Exact

/-! ## The model -/

namespace Model

theorem evaluate_eq_exact (a b sel : UInt8) : evaluate a b sel = Exact.evaluate a b sel := by
  unfold evaluate
  cases h : Operation.ofSelector? sel with
  | some op => exact Exact.evaluate_of_selected h a b
  | none =>
    rw [Exact.evaluate_of_not_selected h]
    exact Exact.ofResult_eq_output false false rfl

namespace Checked

theorem sum?_masked (a b : UInt8) :
    sum? (a &&& nibbleMask) (b &&& nibbleMask) =
      some ((a &&& nibbleMask) + (b &&& nibbleMask)) := by
  have hx := and_nibbleMask_lt a
  have hy := and_nibbleMask_lt b
  exact if_pos (by omega)

theorem execute?_eq_some (op : Operation) (a b : UInt8) :
    execute? op a b = some (execute op a b) := by
  cases op with
  | add =>
    show add? a b = _
    unfold add?
    dsimp only
    rw [sum?_masked]
    rfl
  | sub | and | or | xor | eq => rfl

theorem evaluate?_eq_some (a b sel : UInt8) : evaluate? a b sel = some (evaluate a b sel) := by
  unfold evaluate? evaluate
  cases Operation.ofSelector? sel with
  | some op => exact execute?_eq_some op _ _
  | none => rfl

end Checked

end Model

end AluBench
