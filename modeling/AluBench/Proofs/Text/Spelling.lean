import AluBench.Text.Blank
import Mathlib.Data.List.Forall2

/-!
# The ways to spell a name

A name is looked up without the blanks around the text and with the letters folded to one case. Said
the other way round, without cutting or folding, the texts that are found are white space, the
letters of the name one by one in either case, and white space again.

    sameLetters letters (trim text) = true ↔ Spells letters text      (sameLetters_trim_iff)

The name itself has to be in lower case. Its letters are ASCII then, so neither case of them is
white space, and no other letter folds to them.
-/

namespace AluBench.Text

/-- The characters of Unicode's `White_Space` one by one. -/
def whiteSpace : List Char :=
  ['\x09', '\x0a', '\x0b', '\x0c', '\x0d', ' ', '\x85', '\xa0', '\u1680', '\u2000', '\u2001',
    '\u2002', '\u2003', '\u2004', '\u2005', '\u2006', '\u2007', '\u2008', '\u2009', '\u200a',
    '\u2028', '\u2029', '\u202f', '\u205f', '\u3000']

/-- The letters in their order, each as it stands or as a capital. -/
def InEitherCase (letters word : List Char) : Prop :=
  List.Forall₂ (fun letter c => c = letter ∨ c = letter.toUpper) letters word

/-- The word with white space before and behind it. -/
def Padded (word text : List Char) : Prop :=
  ∃ before after, text = before ++ word ++ after ∧ (∀ c ∈ before, c ∈ whiteSpace) ∧
    ∀ c ∈ after, c ∈ whiteSpace

def Spells (letters text : List Char) : Prop :=
  ∃ word, InEitherCase letters word ∧ Padded word text

variable {letters word text : List Char}

/-! ## White space -/

theorem isBlank_iff_mem {c : Char} : isBlank c = true ↔ c ∈ whiteSpace := by
  -- both sides are statements on the code point, the ranges written out on the right
  simp only [isBlank, whiteSpace, Bool.or_eq_true, Bool.and_eq_true, decide_eq_true_eq,
    beq_iff_eq, List.mem_cons, List.not_mem_nil, or_false, Char.le_def, UInt32.le_iff_toNat_le,
    Char.toNat_val, ← Char.toNat_inj, Char.reduceToNat]
  omega

theorem dropWhile_isBlank_of_not_mem {cs : List Char} (h : ∀ c ∈ cs, c ∉ whiteSpace) :
    cs.dropWhile isBlank = cs := by
  cases cs with
  | nil => rfl
  | cons c cs =>
    have hc : isBlank c ≠ true := mt isBlank_iff_mem.1 (h c List.mem_cons_self)
    rw [List.dropWhile_cons, if_neg hc]

/-- Behind a run of white space the text is left as it is. -/
theorem dropWhile_isBlank_append {before rest : List Char} (h : ∀ c ∈ before, c ∈ whiteSpace) :
    (before ++ rest).dropWhile isBlank = rest.dropWhile isBlank :=
  List.dropWhile_append_of_pos fun c hc => isBlank_iff_mem.2 (h c hc)

theorem exists_white_append_dropWhile (cs : List Char) :
    ∃ before, cs = before ++ cs.dropWhile isBlank ∧ ∀ c ∈ before, c ∈ whiteSpace := by
  refine ⟨cs.takeWhile isBlank, List.takeWhile_append_dropWhile.symm, ?_⟩
  intro c hc
  exact isBlank_iff_mem.1 (List.all_eq_true.1 List.all_takeWhile c hc)

theorem padded_trim (text : List Char) : Padded (trim text) text := by
  obtain ⟨before, hbefore, hb⟩ := exists_white_append_dropWhile text
  obtain ⟨after, hafter, ha⟩ :=
    exists_white_append_dropWhile (text.dropWhile isBlank).reverse
  refine ⟨before, after.reverse, ?_, hb, ?_⟩
  · rw [List.append_assoc]
    unfold trim
    rw [← List.reverse_append, ← hafter, List.reverse_reverse]
    exact hbefore
  · intro c hc
    exact ha c (List.mem_reverse.1 hc)

/-- What is padded is found again by trimming, as long as it has no white space itself. -/
theorem trim_of_padded (h : Padded word text) (hword : ∀ c ∈ word, c ∉ whiteSpace) :
    trim text = word := by
  obtain ⟨before, after, rfl, hb, ha⟩ := h
  have hafter : ∀ c ∈ after.reverse, c ∈ whiteSpace := fun c hc => ha c (List.mem_reverse.1 hc)
  have hfront :
      (before ++ word ++ after).dropWhile isBlank = (word ++ after).dropWhile isBlank := by
    rw [List.append_assoc, dropWhile_isBlank_append hb]
  have hback : ((word ++ after).reverse.dropWhile isBlank).reverse = word := by
    rw [List.reverse_append, dropWhile_isBlank_append hafter, dropWhile_isBlank_of_not_mem,
      List.reverse_reverse]
    exact fun c hc => hword c (List.mem_reverse.1 hc)
  unfold trim
  rw [hfront]
  cases word with
  | nil =>
    -- nothing stops the first cut, so it takes the white space behind as well
    have hnone : after.dropWhile isBlank = [] := by
      rw [← List.append_nil after, dropWhile_isBlank_append ha]
      rfl
    rw [List.nil_append, hnone]
    rfl
  | cons c word =>
    have hc : isBlank c ≠ true := mt isBlank_iff_mem.1 (hword c List.mem_cons_self)
    rwa [List.cons_append, List.dropWhile_cons, if_neg hc]

/-! ## Letters -/

theorem isLower_iff {c : Char} : c.isLower = true ↔ 97 ≤ c.toNat ∧ c.toNat ≤ 122 := by
  unfold Char.isLower
  rw [Bool.and_eq_true, decide_eq_true_iff, decide_eq_true_iff, ge_iff_le, UInt32.le_iff_toNat_le,
    UInt32.le_iff_toNat_le]
  rfl

theorem toNat_toLower (c : Char) :
    c.toLower.toNat = if 65 ≤ c.toNat ∧ c.toNat ≤ 90 then c.toNat + 32 else c.toNat := by
  have hupper : c.val ≥ 'A'.val ∧ c.val ≤ 'Z'.val ↔ 65 ≤ c.toNat ∧ c.toNat ≤ 90 := by
    rw [ge_iff_le, UInt32.le_iff_toNat_le, UInt32.le_iff_toNat_le]
    rfl
  unfold Char.toLower
  split
  · next h =>
    have hrange := hupper.1 h
    have hc : c.toNat = c.val.toNat := rfl
    have h32 : ('a'.val - 'A'.val).toNat = 32 := rfl
    rw [if_pos hrange]
    show (c.val + ('a'.val - 'A'.val)).toNat = c.val.toNat + 32
    rw [UInt32.toNat_add]
    omega
  · next h => rw [if_neg (mt hupper.2 h)]

theorem toNat_toUpper {letter : Char} (h : letter.isLower = true) :
    letter.toUpper.toNat = letter.toNat - 32 := by
  have hletter := isLower_iff.1 h
  have hrange : 'a'.val ≤ letter.val ∧ letter.val ≤ 'z'.val := by
    rw [UInt32.le_iff_toNat_le, UInt32.le_iff_toNat_le]
    exact hletter
  have hnat : letter.toNat = letter.val.toNat := rfl
  -- the difference wraps around
  have h32 : ('A'.val - 'a'.val).toNat = 4294967296 - 32 := rfl
  unfold Char.toUpper
  rw [dif_pos hrange]
  show (letter.val + ('A'.val - 'a'.val)).toNat = letter.val.toNat - 32
  rw [UInt32.toNat_add]
  omega

/-- To a letter in lower case fold this letter and its capital, and nothing else. -/
theorem toLower_eq_toLower_iff {letter c : Char} (h : letter.isLower = true) :
    letter.toLower = c.toLower ↔ c = letter ∨ c = letter.toUpper := by
  have hletter := isLower_iff.1 h
  simp only [← Char.toNat_inj, toNat_toLower, toNat_toUpper h]
  split <;> split <;> omega

theorem sameLetters_iff (h : ∀ letter ∈ letters, letter.isLower = true) :
    sameLetters letters word = true ↔ InEitherCase letters word := by
  unfold sameLetters InEitherCase
  rw [beq_iff_eq]
  induction letters generalizing word with
  | nil => cases word <;> simp
  | cons letter letters ih =>
    rw [List.forall_mem_cons] at h
    cases word with
    | nil => simp
    | cons c word =>
      rw [List.map_cons, List.map_cons, List.cons.injEq, List.forall₂_cons,
        toLower_eq_toLower_iff h.1, ih h.2]

/-- Letters are no white space, in either case. -/
theorem InEitherCase.not_mem_whiteSpace (h : ∀ letter ∈ letters, letter.isLower = true)
    (hword : InEitherCase letters word) : ∀ c ∈ word, c ∉ whiteSpace := by
  have apart : ∀ n ∈ whiteSpace.map Char.toNat, n < 65 ∨ 122 < n := by decide
  induction hword with
  | nil => simp
  | @cons letter c letters word hc _ ih =>
    rw [List.forall_mem_cons] at h
    rw [List.forall_mem_cons]
    refine ⟨?_, ih h.2⟩
    intro hmem
    have hletter := isLower_iff.1 h.1
    have hupper := toNat_toUpper h.1
    have hapart := apart _ (List.mem_map_of_mem hmem)
    rcases hc with rfl | rfl <;> omega

/-! ## Spelling -/

theorem sameLetters_trim_iff (h : ∀ letter ∈ letters, letter.isLower = true) :
    sameLetters letters (trim text) = true ↔ Spells letters text := by
  rw [sameLetters_iff h]
  constructor
  · intro hword
    exact ⟨trim text, hword, padded_trim text⟩
  · rintro ⟨word, hword, hpadded⟩
    rwa [trim_of_padded hpadded (hword.not_mem_whiteSpace h)]

end AluBench.Text
