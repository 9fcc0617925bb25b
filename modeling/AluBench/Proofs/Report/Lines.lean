import AluBench.Proofs.Text.Digits
import AluBench.Report

/-!
# The lines of a report

No part of a mismatch's text is a line feed, so the text of a report falls back into the lines that
it was put together from, a heading and one line for each mismatch.

    Text.pieces r.text = r.lines                                                 (pieces_text)
    r.lines.filter (·.startsWith "  ") =
      r.mismatches.map fun m => "  " ++ m.text                                (indented_lines)
-/

namespace AluBench

/-- A text without a line feed. -/
def Text.IsLine (text : String) : Prop := '\n' ∉ text.toList

/-- What stands before, between and behind the line feeds of a text. -/
def Text.pieces (text : String) : List String := (text.toList.splitOn '\n').map String.ofList

namespace Text

instance (text : String) : Decidable (IsLine text) :=
  inferInstanceAs (Decidable ('\n' ∉ text.toList))

theorem isLine_append {x y : String} : IsLine (x ++ y) ↔ IsLine x ∧ IsLine y := by
  unfold IsLine
  rw [String.toList_append, List.mem_append, not_or]

theorem isLine_decimal (n : Nat) : IsLine (decimal n) := by
  unfold IsLine
  rw [toList_decimal]
  intro h
  exact absurd (isDigit_of_mem_toDigits_ten h) (by decide)

theorem isLine_binary (width n : Nat) : IsLine (binary width n) := by
  unfold IsLine
  intro h
  rcases eq_zero_or_one_of_mem_binary h with h | h
  · exact absurd h (by decide)
  · exact absurd h (by decide)

end Text

open Text

theorem TestVector.isLine_text (v : TestVector) : IsLine v.text := by
  have hname : IsLine ((v.operation?.map Operation.mnemonic).getD "???") := by
    cases v.operation? with
    | none => decide
    | some op => cases op <;> decide
  unfold text
  simp only [isLine_append, isLine_binary, hname, and_true]
  decide

theorem Mismatch.isLine_text (m : Mismatch) : IsLine m.text := by
  have hname : IsLine m.field.name := by
    cases m.field <;> decide
  unfold text
  simp only [isLine_append, isLine_decimal, isLine_binary, m.vector.isLine_text, hname, and_true]
  decide

namespace Report

theorem isLine_of_mem_lines {r : Report} {line : String} (h : line ∈ r.lines) : IsLine line := by
  unfold lines at h
  split at h
  · rw [List.mem_singleton.1 h]
    simp only [isLine_append, isLine_decimal, and_true]
    decide
  · rcases List.mem_cons.1 h with rfl | h
    · simp only [isLine_append, isLine_decimal, and_true]
      decide
    · obtain ⟨m, -, rfl⟩ := List.mem_map.1 h
      exact isLine_append.2 ⟨by decide, m.isLine_text⟩

theorem lines_ne_nil (r : Report) : r.lines ≠ [] := by
  unfold lines
  split <;> simp

/-- The lines are read back from the text. -/
theorem pieces_text (r : Report) : pieces r.text = r.lines := by
  have hsplit : r.text.toList.splitOn '\n' = r.lines.map String.toList := by
    rw [text, String.toList_intercalate]
    apply List.splitOn_intercalate
    · intro l hl
      obtain ⟨line, hline, rfl⟩ := List.mem_map.1 hl
      exact isLine_of_mem_lines hline
    · simpa using r.lines_ne_nil
  rw [pieces, hsplit, List.map_map, String.ofList_comp_toList, List.map_id]

/-- The indented lines are the mismatches, none in the text of a success. -/
theorem indented_lines (r : Report) :
    (r.lines.filter fun line => line.startsWith "  ") =
      r.mismatches.map fun m => "  " ++ m.text := by
  have hindented : ∀ line ∈ r.mismatches.map fun m => "  " ++ m.text,
      line.startsWith "  " = true := by
    intro line hline
    obtain ⟨m, -, rfl⟩ := List.mem_map.1 hline
    rw [String.startsWith_string_iff, String.toList_append]
    exact List.prefix_append _ _
  unfold lines
  split
  · next h =>
    rw [isSuccess, Bool.and_eq_true, List.isEmpty_iff] at h
    rw [h.1, List.filter_cons_of_neg (by simp [String.startsWith_string_iff])]
    rfl
  · rw [List.filter_cons_of_neg (by simp [String.startsWith_string_iff]),
      List.filter_eq_self.2 hindented]

end Report

end AluBench
