import AluBench.Text.Digits
import Mathlib.Data.Nat.Size

/-!
# Numbers are read back from their digits

A binary number has as many digits as it needs and, below the width, zeros in front. Zeros in front
count nothing, so whatever the width, the digits are those of one number only:

    Nat.ofDigitChars 2 (binary width n).toList 0 = n                       (ofDigitChars_binary)
    (binary width n).length = max width (bitLength n)                      (length_binary)

A text that begins with a number also tells where the number ends, given that it does not go on with
a further digit. The same holds of all that is written in one class of characters:

    write x ++ us = write y ++ vs → x = y ∧ us = vs                        (Legible.append_inj)
-/

namespace AluBench.Text

/-- The binary digits that a number needs, one for zero. -/
def bitLength (n : Nat) : Nat := if n = 0 then 1 else n.size

/-- The text does not go on with a character of the class. -/
def Stops (inside : Char → Bool) (rest : List Char) : Prop := ∀ c ∈ rest.head?, inside c = false

instance (inside : Char → Bool) (rest : List Char) : Decidable (Stops inside rest) :=
  decidable_of_iff (rest.head?.all (fun c => !inside c) = true) (by cases rest <;> simp [Stops])

/-- Values are written in one class of characters, no two of them alike. -/
structure Legible {α : Type} (inside : Char → Bool) (write : α → List Char) : Prop where
  injective : Function.Injective write
  inside : ∀ x, ∀ c ∈ write x, inside c = true

variable {width m n : Nat} {us vs : List Char}

/-! ## Binary digits -/

theorem length_toDigits_two (n : Nat) : (Nat.toDigits 2 n).length = bitLength n := by
  have hle : ∀ k, 0 < k → ((Nat.toDigits 2 n).length ≤ k ↔ n.size ≤ k) := by
    intro k hk
    rw [Nat.length_toDigits_le_iff (by decide) hk, Nat.size_le]
  unfold bitLength
  split
  · next h =>
    rw [h, Nat.toDigits_zero]
    rfl
  · next h =>
    have h1 := (hle _ Nat.length_toDigits_pos).1 (Nat.le_refl _)
    have h2 := (hle _ (Nat.size_pos.2 (Nat.pos_of_ne_zero h))).2 (Nat.le_refl _)
    omega

theorem eq_zero_or_one_of_mem_toDigits {c : Char} (h : c ∈ Nat.toDigits 2 n) :
    c = '0' ∨ c = '1' := by
  induction n using Nat.strongRecOn with
  | ind n ih =>
    have hdigit : ∀ d, d < 2 → d.digitChar = '0' ∨ d.digitChar = '1' := by decide
    rw [Nat.toDigits_eq_if (by decide)] at h
    split at h
    · next hn =>
      rw [List.mem_singleton.1 h]
      exact hdigit n hn
    · rcases List.mem_append.1 h with h | h
      · exact ih (n / 2) (by omega) h
      · rw [List.mem_singleton.1 h]
        exact hdigit (n % 2) (by omega)

/-! ## The padded text -/

theorem eq_zero_or_one_of_mem_binary {c : Char} (h : c ∈ (binary width n).toList) :
    c = '0' ∨ c = '1' := by
  rw [toList_binary, List.leftpad] at h
  rcases List.mem_append.1 h with h | h
  · exact Or.inl (List.eq_of_mem_replicate h)
  · exact eq_zero_or_one_of_mem_toDigits h

theorem ofDigitChars_binary (width n : Nat) :
    Nat.ofDigitChars 2 (binary width n).toList 0 = n := by
  rw [toList_binary, List.leftpad, Nat.ofDigitChars_append, Nat.ofDigitChars_replicate_zero,
    Nat.mul_zero, Nat.ofDigitChars_toDigits (by decide) (by decide)]

theorem length_binary (width n : Nat) : (binary width n).length = max width (bitLength n) := by
  rw [← String.length_toList, toList_binary, List.length_leftpad, length_toDigits_two]

theorem binary_inj : binary width m = binary width n ↔ m = n := by
  constructor
  · intro h
    rw [← ofDigitChars_binary width m, h, ofDigitChars_binary]
  · rintro rfl
    rfl

/-- A wider text has further zeros in front. -/
theorem binary_of_le {wider : Nat} (h : width ≤ wider) (n : Nat) :
    ∃ zeros, binary wider n = String.ofList (List.replicate zeros '0') ++ binary width n := by
  refine ⟨(wider - bitLength n) - (width - bitLength n), ?_⟩
  have hzeros : wider - bitLength n =
      (wider - bitLength n) - (width - bitLength n) + (width - bitLength n) := by omega
  rw [← String.toList_inj, String.toList_append, String.toList_ofList, toList_binary,
    toList_binary, List.leftpad, List.leftpad, length_toDigits_two, ← List.append_assoc,
    List.replicate_append_replicate, ← hzeros]

/-- **The binary text of a number is its digits behind zeros**, and no other number of that width
is written like it. -/
theorem binary_reads_back (width n : Nat) :
    (∀ c ∈ (binary width n).toList, c = '0' ∨ c = '1') ∧
      Nat.ofDigitChars 2 (binary width n).toList 0 = n ∧
      (binary width n).length = max width (bitLength n) ∧
      (∀ other, binary width other = binary width n ↔ other = n) ∧
      ∀ wider, width ≤ wider →
        ∃ zeros, binary wider n = String.ofList (List.replicate zeros '0') ++ binary width n := by
  refine ⟨?_, ofDigitChars_binary width n, length_binary width n, ?_, ?_⟩
  · intro c hc
    exact eq_zero_or_one_of_mem_binary hc
  · intro other
    exact binary_inj
  · intro wider h
    exact binary_of_le h n

/-- Eighteen has five digits, so it outgrows four places and has three zeros in eight. -/
theorem binary_reads_back_eighteen :
    binary 4 18 = "10010" ∧ ('1' ∈ (binary 4 18).toList ∧ ('1' = '0' ∨ '1' = '1')) ∧
      4 ≤ 8 ∧ ∃ zeros, binary 8 18 = String.ofList (List.replicate zeros '0') ++ binary 4 18 := by
  have h := binary_reads_back 4 18
  exact ⟨by decide, ⟨by decide, h.1 '1' (by decide)⟩, by decide, h.2.2.2.2 8 (by decide)⟩

/-! ## Where a number ends -/

theorem stops_cons {inside : Char → Bool} {c : Char} {rest : List Char} (h : inside c = false) :
    Stops inside (c :: rest) := by
  rintro d ⟨⟩
  exact h

theorem stops_append {inside : Char → Bool} {start rest : List Char}
    (h : start.head?.any (fun c => !inside c) = true) : Stops inside (start ++ rest) := by
  cases start with
  | nil => cases h
  | cons c start => exact stops_cons (by simpa using h)

/-- Two texts in one class of characters, each with what follows it: the first character outside of
the class parts them. -/
theorem append_inj_of_stops {inside : Char → Bool} {xs ys : List Char}
    (hxs : ∀ c ∈ xs, inside c = true) (hys : ∀ c ∈ ys, inside c = true) (hus : Stops inside us)
    (hvs : Stops inside vs) (h : xs ++ us = ys ++ vs) : xs = ys ∧ us = vs := by
  have htake : ∀ {zs rest : List Char}, (∀ c ∈ zs, inside c = true) → Stops inside rest →
      (zs ++ rest).takeWhile inside = zs := by
    intro zs rest hzs hrest
    rw [List.takeWhile_append_of_pos hzs]
    cases rest with
    | nil => exact List.append_nil zs
    | cons c rest =>
      rw [List.takeWhile_cons_of_neg (by simp [hrest c rfl]), List.append_nil]
  have hxy : xs = ys := by rw [← htake hxs hus, h, htake hys hvs]
  subst hxy
  exact ⟨rfl, List.append_cancel_left h⟩

theorem Legible.append_inj {α : Type} {inside : Char → Bool} {write : α → List Char}
    (hwrite : Legible inside write) {x y : α} (hus : Stops inside us) (hvs : Stops inside vs)
    (h : write x ++ us = write y ++ vs) : x = y ∧ us = vs := by
  obtain ⟨hxy, huv⟩ := append_inj_of_stops (hwrite.inside x) (hwrite.inside y) hus hvs h
  exact ⟨hwrite.injective hxy, huv⟩

/-- A mark that is not of the class parts what is written from the rest. -/
theorem Legible.mark_inj {α : Type} {inside : Char → Bool} {write : α → List Char}
    (hwrite : Legible inside write) {mark : String}
    (hmark : mark.toList.head?.any (fun c => !inside c) = true) {x y : α}
    (h : write x ++ (mark.toList ++ us) = write y ++ (mark.toList ++ vs)) : x = y ∧ us = vs := by
  obtain ⟨hxy, huv⟩ := hwrite.append_inj (stops_append hmark) (stops_append hmark) h
  exact ⟨hxy, List.append_cancel_left huv⟩

theorem isDigit_of_mem_toDigits_ten {c : Char} (h : c ∈ Nat.toDigits 10 n) : c.isDigit = true :=
  Nat.isDigit_of_mem_toDigits (by decide) (by decide) h

theorem legible_toDigits_ten : Legible Char.isDigit (Nat.toDigits 10) where
  injective := by
    intro m n h
    rw [← Nat.ofDigitChars_ten_toDigits (n := m), h, Nat.ofDigitChars_ten_toDigits]
  inside := fun _ _ => isDigit_of_mem_toDigits_ten

theorem legible_binary (width : Nat) : Legible Char.isDigit fun n => (binary width n).toList where
  injective := by
    intro m n h
    exact binary_inj.1 (String.toList_inj.1 h)
  inside := by
    intro n c hc
    rcases eq_zero_or_one_of_mem_binary hc with rfl | rfl <;> rfl

end AluBench.Text
