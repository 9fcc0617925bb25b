import AluBench.Device.Fault
import AluBench.Proofs.Bus.Layout
import AluBench.Proofs.Run.Trials

/-!
# Every wrong bit of a wire is found

A full run on a wire compares, for each vector, the byte that the wire showed with the byte that is
due: the packed expected output. The report has an entry for a flag exactly if its bit is wrong, and
one for the result exactly if a bit of the low nibble is, as far as the expected result fits into a
nibble. If it does not, no byte can be right.

The two bytes are compared by their parts (`Bus.part_ne_iff`), which is where a field of the report
meets the bits of the bus.
-/

namespace AluBench

/-- The report has an entry for the field of the vector at a position. -/
def Report.HasEntry (r : Report) (index : Nat) (field : OutputField) : Prop :=
  ∃ m ∈ r.mismatches, m.index = index ∧ m.field = field

/-! ## Entries by fields -/

section Entries

variable {σ : Type} {d : Device σ} {vectors : List TestVector} {state : σ} {index : Nat}
  {v : TestVector} {out : Output}

/-- At one position, the mismatches of a full run are those of that vector's output. -/
theorem Device.mem_mismatches_at (hv : vectors[index]? = some v)
    (ho : (d.outputs vectors state)[index]? = some out) {m : Mismatch} (hm : m.index = index) :
    m ∈ (d.run .collectAll vectors state).report.mismatches ↔ m ∈ v.mismatches index out := by
  rw [mem_mismatches_collectAll_iff, hm]
  constructor
  · rintro ⟨w, x, hw, hx, h⟩
    rw [hv] at hw
    rw [ho] at hx
    obtain rfl := Option.some.inj hw
    obtain rfl := Option.some.inj hx
    exact h
  · intro h
    exact ⟨v, out, hv, ho, h⟩

theorem Device.hasEntry_collectAll_iff (hv : vectors[index]? = some v)
    (ho : (d.outputs vectors state)[index]? = some out) (field : OutputField) :
    (d.run .collectAll vectors state).report.HasEntry index field ↔
      field.get out ≠ field.get v.expectedOutput := by
  unfold Report.HasEntry
  constructor
  · rintro ⟨m, hmem, hm, rfl⟩
    exact (TestVector.mem_mismatches_iff.1 ((mem_mismatches_at hv ho hm).1 hmem)).1
  · intro hne
    refine ⟨⟨index, v, field, field.get out, field.get v.expectedOutput⟩, ?_, rfl, rfl⟩
    rw [mem_mismatches_at hv ho rfl]
    exact TestVector.mem_mismatches_iff.2 ⟨hne, rfl⟩

theorem Device.actual_of_mem_collectAll (hv : vectors[index]? = some v)
    (ho : (d.outputs vectors state)[index]? = some out) {m : Mismatch}
    (hmem : m ∈ (d.run .collectAll vectors state).report.mismatches) (hm : m.index = index) :
    m.actual = m.field.get out := by
  rw [(TestVector.mem_mismatches_iff.1 ((mem_mismatches_at hv ho hm).1 hmem)).2]

end Entries

/-! ## Entries by bits -/

section Bits

variable {ω : Type} {w : Wire ω} {vectors : List TestVector} {state : ω} {index : Nat}
  {v : TestVector} {shown : UInt8}

theorem Wire.output_of_sample (hs : (w.samples vectors state)[index]? = some shown) :
    (w.toDevice.outputs vectors state)[index]? = some (Bus.unpackOutput shown) := by
  rw [outputs_toDevice, List.getElem?_map, hs]
  rfl

/-- A value that fits into its field is told from the one shown by the bits of the field. -/
theorem Bus.get_unpackOutput_ne_iff {field : OutputField} {byte : UInt8} {out : Output}
    (h : field = .result → out.value ≤ 15) :
    field.get (unpackOutput byte) ≠ field.get out ↔
      ∃ k, field.lowBit ≤ k ∧ k < field.lowBit + field.width ∧
        (byte ^^^ packOutput out).toNat.testBit k = true := by
  rw [← part_ne_iff, part_packOutput, Nat.mod_eq_of_lt (get_lt h), ne_eq, ne_eq,
    ← UInt8.toNat_inj, get_unpackOutput]

/-- A flag has an entry exactly if its bit is wrong. -/
theorem Wire.hasEntry_flag_iff (hv : vectors[index]? = some v)
    (hs : (w.samples vectors state)[index]? = some shown) {field : OutputField}
    (hfield : field ≠ .result) :
    (w.toDevice.run .collectAll vectors state).report.HasEntry index field ↔
      (shown ^^^ Bus.packOutput v.expectedOutput).toNat.testBit field.lowBit = true := by
  have hwidth : field.width = 1 := by
    cases field with
    | result => exact absurd rfl hfield
    | carry | zero | negative | overflow => rfl
  rw [Device.hasEntry_collectAll_iff hv (output_of_sample hs),
    Bus.get_unpackOutput_ne_iff fun h => absurd h hfield, hwidth]
  constructor
  · rintro ⟨k, hlow, hhigh, hk⟩
    rwa [show k = field.lowBit by omega] at hk
  · intro hk
    exact ⟨field.lowBit, by omega, by omega, hk⟩

/-- A result that fits has an entry exactly if a bit of the low nibble is wrong. -/
theorem Wire.hasEntry_result_iff (hv : vectors[index]? = some v)
    (hs : (w.samples vectors state)[index]? = some shown) (h : v.expected ≤ 15) :
    (w.toDevice.run .collectAll vectors state).report.HasEntry index .result ↔
      ∃ k, k < 4 ∧
        (shown ^^^ Bus.packOutput v.expectedOutput).toNat.testBit k = true := by
  rw [Device.hasEntry_collectAll_iff hv (output_of_sample hs),
    Bus.get_unpackOutput_ne_iff fun _ => h]
  constructor
  · rintro ⟨k, -, hk, hbit⟩
    exact ⟨k, hk, hbit⟩
  · rintro ⟨k, hk, hbit⟩
    exact ⟨k, Nat.zero_le k, hk, hbit⟩

/-- A result that does not fit always has an entry. -/
theorem Wire.hasEntry_result_of_lt (hv : vectors[index]? = some v)
    (hs : (w.samples vectors state)[index]? = some shown) (h : 15 < v.expected) :
    (w.toDevice.run .collectAll vectors state).report.HasEntry index .result := by
  rw [Device.hasEntry_collectAll_iff hv (output_of_sample hs)]
  intro heq
  have hle := Bus.value_unpackOutput_le shown
  rw [show (Bus.unpackOutput shown).value = v.expected from heq] at hle
  exact absurd h (UInt8.not_lt.2 hle)

theorem Wire.actual_eq_part (hv : vectors[index]? = some v)
    (hs : (w.samples vectors state)[index]? = some shown) {m : Mismatch}
    (hmem : m ∈ (w.toDevice.run .collectAll vectors state).report.mismatches)
    (hm : m.index = index) : m.actual.toNat = Bus.part m.field shown := by
  rw [Device.actual_of_mem_collectAll hv (output_of_sample hs) hmem hm, Bus.get_unpackOutput]

end Bits

/-! ## Success by bytes -/

/-- A run on a wire succeeds exactly if every byte shown is the one due and every expected result
can be shown. -/
theorem Wire.isSuccess_run_toDevice_iff {ω : Type} (w : Wire ω) (vectors : List TestVector)
    (state : ω) (policy : Policy) :
    (w.toDevice.run policy vectors state).report.isSuccess = true ↔
      (∀ v ∈ vectors, v.expected ≤ 15) ∧
        w.samples vectors state = vectors.map fun v => Bus.packOutput v.expectedOutput := by
  rw [Device.isSuccess_run_iff, outputs_toDevice]
  constructor
  · intro h
    refine ⟨fun v hv => ?_, ?_⟩
    · have hout : v.expectedOutput ∈ (w.samples vectors state).map Bus.unpackOutput := by
        rw [h]
        exact List.mem_map_of_mem hv
      obtain ⟨byte, -, hbyte⟩ := List.mem_map.1 hout
      exact (Bus.unpackOutput_eq_iff.1 hbyte).1
    · have hpack := congrArg (List.map Bus.packOutput) h
      rw [List.map_map, List.map_map] at hpack
      rw [← List.map_id (w.samples vectors state)]
      calc (w.samples vectors state).map id
          = (w.samples vectors state).map (Bus.packOutput ∘ Bus.unpackOutput) :=
            List.map_congr_left fun byte _ => (Bus.packOutput_unpackOutput byte).symm
        _ = vectors.map fun v => Bus.packOutput v.expectedOutput := hpack
  · rintro ⟨hle, hs⟩
    rw [hs, List.map_map]
    apply List.map_congr_left
    intro v hv
    exact Bus.unpackOutput_packOutput (hle v hv)

/-! ## Detection -/

theorem Wire.run_finds_every_wrong_bit {ω : Type} (w : Wire ω) (vectors : List TestVector)
    (state : ω) :
    (w.samples vectors state).length = vectors.length ∧
      (∀ (index : Nat) (v : TestVector) (shown : UInt8),
        vectors[index]? = some v → (w.samples vectors state)[index]? = some shown →
          let report := (w.toDevice.run .collectAll vectors state).report
          let wrong := (shown ^^^ Bus.packOutput v.expectedOutput).toNat
          (report.HasEntry index .carry ↔ wrong.testBit 7 = true) ∧
            (report.HasEntry index .zero ↔ wrong.testBit 6 = true) ∧
            (report.HasEntry index .negative ↔ wrong.testBit 5 = true) ∧
            (report.HasEntry index .overflow ↔ wrong.testBit 4 = true) ∧
            (v.expected ≤ 15 →
              (report.HasEntry index .result ↔ ∃ k, k < 4 ∧ wrong.testBit k = true)) ∧
            (15 < v.expected → report.HasEntry index .result) ∧
            ∀ m ∈ report.mismatches, m.index = index →
              m.actual.toNat = Bus.part m.field shown) ∧
      ∀ policy,
        (w.toDevice.run policy vectors state).report.isSuccess = true ↔
          (∀ v ∈ vectors, v.expected ≤ 15) ∧
            w.samples vectors state = vectors.map fun v => Bus.packOutput v.expectedOutput := by
  refine ⟨length_samples w vectors state, ?_, isSuccess_run_toDevice_iff w vectors state⟩
  intro index v shown hv hs
  have flag : ∀ field : OutputField, field ≠ .result → _ := fun _ h => hasEntry_flag_iff hv hs h
  refine ⟨flag .carry (by decide), flag .zero (by decide), flag .negative (by decide),
    flag .overflow (by decide), hasEntry_result_iff hv hs, hasEntry_result_of_lt hv hs, ?_⟩
  intro m hmem hm
  exact actual_eq_part hv hs hmem hm

/-- A raised carry bit is found as a carry and nothing else of it; 200 fits into no nibble. -/
theorem Wire.scripted_finds_every_wrong_bit :
    let vectors : List TestVector := [⟨3, 1, 0, 4⟩, ⟨2, 4, 1, 200⟩]
    let w := Wire.scripted [0x84, 0xAE]
    let report := (w.toDevice.run .collectAll vectors {}).report
    (vectors[0]? = some ⟨3, 1, 0, 4⟩ ∧ (w.samples vectors {})[0]? = some 0x84 ∧
        report.HasEntry 0 .carry ∧ ¬ report.HasEntry 0 .zero) ∧
      (vectors[1]? = some ⟨2, 4, 1, 200⟩ ∧ (w.samples vectors {})[1]? = some 0xAE ∧
        report.HasEntry 1 .result ∧ ¬ report.HasEntry 1 .carry) := by
  intro vectors w report
  have h := (run_finds_every_wrong_bit w vectors {}).2.1
  have h0 := h 0 ⟨3, 1, 0, 4⟩ 0x84 (by decide) (by decide)
  have h1 := h 1 ⟨2, 4, 1, 200⟩ 0xAE (by decide) (by decide)
  refine ⟨⟨by decide, by decide, h0.1.2 (by decide), ?_⟩, by decide, by decide,
    h1.2.2.2.2.2.1 (by decide), ?_⟩
  · rw [h0.2.1]
    decide
  · rw [h1.1]
    decide

end AluBench
