import AluBench.Proofs.Report.Lines
import Mathlib.Data.List.Forall2

/-!
# What the text of a failure tells

Each number in a mismatch's text ends at the blank, comma or parenthesis behind it, and each name
at a blank. So the text of a failure can be read in one way only: the numbers of vectors in the
heading, and of each mismatch all but the literal of its vector, which is not written.

    m.text = n.text ↔ m.SameButLiteral n                             (Mismatch.text_eq_iff)
-/

namespace AluBench

open Text

/-- Entries that are the same but for the literals of their vectors. -/
structure Mismatch.SameButLiteral (m n : Mismatch) : Prop where
  index_eq : m.index = n.index
  a_eq : m.vector.a = n.vector.a
  b_eq : m.vector.b = n.vector.b
  sel_eq : m.vector.sel = n.vector.sel
  field_eq : m.field = n.field
  actual_eq : m.actual = n.actual
  expected_eq : m.expected = n.expected

/-- The first line of a failure. -/
def Report.heading (r : Report) : String :=
  "FAILED! " ++ decimal r.failed ++ " of " ++ decimal r.executed
    ++ " executed vectors mismatched."

/-! ## One mismatch -/

theorem OutputField.legible_name :
    Legible Char.isAlpha fun field : OutputField => field.name.toList where
  injective := by
    intro f g h
    exact name_inj.1 (String.toList_inj.1 h)
  inside := fun _ _ => isAlpha_of_mem_name

/-- A vector's text closes with a parenthesis, and the mnemonic in front of it follows from the
selector. -/
theorem TestVector.text_append_inj {v w : TestVector} {us vs : List Char}
    (h : v.text.toList ++ us = w.text.toList ++ vs) :
    (v.a = w.a ∧ v.b = w.b ∧ v.sel = w.sel) ∧ us = vs := by
  unfold text at h
  simp only [String.toList_append, List.append_assoc] at h
  obtain ⟨ha, h⟩ := (legible_binary 4).mark_inj (by decide) (List.append_cancel_left h)
  obtain ⟨hb, h⟩ := (legible_binary 4).mark_inj (by decide) h
  obtain ⟨hsel, h⟩ := (legible_binary 4).mark_inj (by decide) h
  have hop : v.operation? = w.operation? := by
    unfold operation?
    rw [UInt8.toNat_inj.1 hsel]
  rw [hop] at h
  have h := List.append_cancel_left (List.append_cancel_left h)
  exact ⟨⟨UInt8.toNat_inj.1 ha, UInt8.toNat_inj.1 hb, UInt8.toNat_inj.1 hsel⟩, h⟩

namespace Mismatch

theorem sameButLiteral_of_text_eq {m n : Mismatch} (h : m.text = n.text) :
    m.SameButLiteral n := by
  have h := congrArg String.toList h
  unfold text at h
  simp only [String.toList_append, toList_decimal, List.append_assoc] at h
  obtain ⟨hindex, h⟩ := legible_toDigits_ten.mark_inj (by decide) (List.append_cancel_left h)
  obtain ⟨⟨ha, hb, hsel⟩, h⟩ := TestVector.text_append_inj h
  obtain ⟨hfield, h⟩ := OutputField.legible_name.mark_inj (by decide) (List.append_cancel_left h)
  -- the width of the two values is the field's
  rw [hfield] at h
  obtain ⟨hactual, h⟩ := (legible_binary n.field.width).mark_inj (by decide) h
  have hexpected := binary_inj.1 (String.toList_inj.1 h)
  exact ⟨hindex, ha, hb, hsel, hfield, UInt8.toNat_inj.1 hactual, UInt8.toNat_inj.1 hexpected⟩

theorem text_eq_iff {m n : Mismatch} : m.text = n.text ↔ m.SameButLiteral n := by
  constructor
  · exact sameButLiteral_of_text_eq
  · rintro ⟨hindex, ha, hb, hsel, hfield, hactual, hexpected⟩
    unfold text TestVector.text TestVector.operation?
    rw [hindex, ha, hb, hsel, hfield, hactual, hexpected]

end Mismatch

/-! ## The report -/

namespace Report

theorem lines_of_failure {r : Report} (h : r.isSuccess = false) :
    r.lines = r.heading :: r.mismatches.map fun m => "  " ++ m.text := by
  unfold lines
  rw [if_neg (by simp [h])]
  rfl

theorem text_eq_iff_lines {r s : Report} : r.text = s.text ↔ r.lines = s.lines := by
  constructor
  · intro h
    rw [← pieces_text r, h, pieces_text]
  · intro h
    rw [text, h, text]

theorem heading_eq_iff {r s : Report} :
    r.heading = s.heading ↔ r.failed = s.failed ∧ r.executed = s.executed := by
  constructor
  · intro h
    have h := congrArg String.toList h
    unfold heading at h
    simp only [String.toList_append, toList_decimal, List.append_assoc] at h
    obtain ⟨hfailed, h⟩ := legible_toDigits_ten.mark_inj (by decide) (List.append_cancel_left h)
    obtain ⟨hexecuted, -⟩ := legible_toDigits_ten.append_inj (by decide) (by decide) h
    exact ⟨hfailed, hexecuted⟩
  · rintro ⟨hfailed, hexecuted⟩
    unfold heading
    rw [hfailed, hexecuted]

theorem text_eq_iff_of_failure {r s : Report} (hr : r.isSuccess = false)
    (hs : s.isSuccess = false) :
    r.text = s.text ↔
      (r.failed = s.failed ∧ r.executed = s.executed) ∧
        List.Forall₂ Mismatch.SameButLiteral r.mismatches s.mismatches := by
  rw [text_eq_iff_lines, lines_of_failure hr, lines_of_failure hs, List.cons.injEq, heading_eq_iff,
    ← List.forall₂_eq_eq_eq, List.forall₂_map_left_iff, List.forall₂_map_right_iff]
  simp only [String.append_right_inj, Mismatch.text_eq_iff]

/-- A failure does not begin as a success does. -/
theorem text_ne_of_isSuccess {r s : Report} (hr : r.isSuccess = false) (hs : s.isSuccess = true) :
    r.text ≠ s.text := by
  rw [Ne, text_eq_iff_lines, lines_of_failure hr, lines, if_pos hs]
  intro h
  have hheading := congrArg String.toList (List.cons.inj h).1
  unfold heading at hheading
  simp at hheading

theorem ne_empty_of_mem_lines {r : Report} {line : String} (h : line ∈ r.lines) : line ≠ "" := by
  rintro rfl
  unfold lines at h
  split at h
  · simp [← String.toList_inj] at h
  · simp [← String.toList_inj] at h

/-- **The text of a failure determines the failure**: one line for the counters and one for each
mismatch, of which nothing but the literal of the vector is left out. -/
theorem render_tells_failure (r : Report) (hr : r.passed ≤ r.executed)
    (hfail : r.isSuccess = false) :
    (∀ s : Report, s.passed ≤ s.executed → s.isSuccess = false →
        (r.render false = s.render false ↔
          r.executed = s.executed ∧ r.passed = s.passed ∧
            r.mismatches.length = s.mismatches.length ∧
            List.Forall₂ Mismatch.SameButLiteral r.mismatches s.mismatches)) ∧
      (pieces (r.render false) = r.heading :: r.mismatches.map fun m => "  " ++ m.text) ∧
      (pieces (r.render false)).length = 1 + r.mismatches.length ∧
      (∀ line ∈ pieces (r.render false), line ≠ "") ∧
      ∀ s : Report, s.isSuccess = true → r.render false ≠ s.render false := by
  have hrender : ∀ s : Report, s.render false = s.text := fun s => rfl
  have hpieces : pieces r.text = r.heading :: r.mismatches.map fun m => "  " ++ m.text := by
    rw [pieces_text, lines_of_failure hfail]
  simp only [hrender]
  refine ⟨?_, hpieces, ?_, ?_, ?_⟩
  · intro s hs hfail'
    rw [text_eq_iff_of_failure hfail hfail']
    unfold failed
    constructor
    · rintro ⟨⟨hfailed, hexecuted⟩, hall⟩
      exact ⟨hexecuted, by omega, hall.length_eq, hall⟩
    · rintro ⟨hexecuted, hpassed, -, hall⟩
      exact ⟨⟨by omega, hexecuted⟩, hall⟩
  · rw [hpieces, List.length_cons, List.length_map, Nat.add_comm]
  · intro line hline
    rw [pieces_text] at hline
    exact ne_empty_of_mem_lines hline
  · intro s hs
    exact text_ne_of_isSuccess hfail hs

/-- Two faults that differ in the literal, the policy and the total only are told alike, with bytes
of eight digits and the greatest index of 64 bits. -/
theorem render_tells_failure_of_wide_bytes :
    let m (literal : UInt8) : Mismatch :=
      ⟨0xFFFFFFFFFFFFFFFF, ⟨0xC8, 7, 0xF1, literal⟩, .carry, 0xFF, 1⟩
    let r : Report := ⟨.failFast, 5, 2, 1, [m 3], true⟩
    let s : Report := ⟨.collectAll, 2, 2, 1, [m 4], false⟩
    let passed : Report := ⟨.failFast, 2, 2, 2, [], false⟩
    (r.passed ≤ r.executed ∧ r.isSuccess = false) ∧
      (s.passed ≤ s.executed ∧ s.isSuccess = false ∧ r.render false = s.render false) ∧
      (r.heading ∈ pieces (r.render false) ∧ r.heading ≠ "") ∧
      (passed.isSuccess = true ∧ r.render false ≠ passed.render false) := by
  intro m r s passed
  have h := render_tells_failure r (by decide) (by decide)
  have hheading : r.heading ∈ pieces (r.render false) := by
    rw [h.2.1]
    exact List.mem_cons_self
  have hsame : (m 3).SameButLiteral (m 4) := ⟨rfl, rfl, rfl, rfl, rfl, rfl, rfl⟩
  refine ⟨⟨by decide, by decide⟩, ⟨by decide, by decide, ?_⟩, ⟨hheading, ?_⟩, by decide, ?_⟩
  · exact (h.1 s (by decide) (by decide)).2 ⟨rfl, rfl, rfl, .cons hsame .nil⟩
  · exact h.2.2.2.1 r.heading hheading
  · exact h.2.2.2.2 passed (by decide)

end Report

end AluBench
