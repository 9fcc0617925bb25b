import AluBench.Proofs.Operation.Names
import AluBench.Proofs.Text.Spelling

/-!
# What a list of names may say

A name is accepted if it spells one of six words, and a list of names if all of them do. There is one
operation for each name then, in the order of the names. Of a list that is not accepted the first
name that spells nothing is given back as it was.

    ofMnemonic? name = some op ↔ op.NamedBy name                     (ofMnemonic?_eq_some_iff)
    ofNames (name :: names) = .ok ops ↔ List.Forall₂ NamedBy ops (name :: names)
                                                                           (ofNames_eq_ok_iff)
-/

namespace AluBench.Operation

/-- The words of the grammar. -/
def word : Operation → String
  | add => "add"
  | sub => "sub"
  | and => "and"
  | or => "or"
  | xor => "xor"
  | eq => "eq"

/-- The name is the operation's word in any case with white space around it. -/
def NamedBy (op : Operation) (name : String) : Prop := Text.Spells op.word.toList name.toList

variable {op : Operation} {ops : List Operation} {name : String} {names : List String}

/-! ## One name -/

theorem isLower_of_mem_word (op : Operation) :
    ∀ letter ∈ op.word.toList, letter.isLower = true := by
  rw [← List.all_eq_true]
  cases op <;> decide

/-- A mnemonic is the word of the grammar but for the case of its letters. -/
theorem map_toLower_mnemonic (op : Operation) :
    op.mnemonic.toList.map Char.toLower = op.word.toList.map Char.toLower := by
  cases op <;> decide

theorem namedBy_iff :
    op.NamedBy name ↔ Text.sameLetters op.mnemonic.toList (Text.trim name.toList) = true := by
  unfold NamedBy
  rw [← Text.sameLetters_trim_iff op.isLower_of_mem_word, Text.sameLetters, Text.sameLetters,
    map_toLower_mnemonic]

theorem mem_all (op : Operation) : op ∈ all := by
  cases op <;> decide

/-- No two mnemonics differ in the case of their letters only. -/
theorem eq_of_map_toLower_eq : ∀ op ∈ all, ∀ other ∈ all,
    op.mnemonic.toList.map Char.toLower = other.mnemonic.toList.map Char.toLower → op = other := by
  decide

/-- A name cannot stand for two operations. -/
theorem NamedBy.unique {other : Operation} (h : op.NamedBy name) (ho : other.NamedBy name) :
    op = other := by
  rw [namedBy_iff, Text.sameLetters, beq_iff_eq] at h ho
  exact eq_of_map_toLower_eq op op.mem_all other other.mem_all (h.trans ho.symm)

theorem ofMnemonic?_eq_some_iff : ofMnemonic? name = some op ↔ op.NamedBy name := by
  have sound : ∀ {found : Operation}, ofMnemonic? name = some found → found.NamedBy name := by
    intro found h
    unfold ofMnemonic? Text.named? at h
    have hfound := List.find?_some h
    exact namedBy_iff.2 hfound
  constructor
  · exact sound
  · intro h
    cases hfound : ofMnemonic? name with
    | none => exact absurd (namedBy_iff.1 h) (List.find?_eq_none.1 hfound op op.mem_all)
    | some found => rw [(sound hfound).unique h]

theorem ofMnemonic?_isNone_iff :
    (ofMnemonic? name).isNone = true ↔ ¬ ∃ op : Operation, op.NamedBy name := by
  simp only [Option.isNone_iff_eq_none, Option.eq_none_iff_forall_ne_some, ne_eq,
    ofMnemonic?_eq_some_iff, not_exists]

/-! ## A list of names -/

theorem forall₂_namedBy_iff :
    List.Forall₂ NamedBy ops names ↔
      firstUnknown? names = none ∧ names.filterMap ofMnemonic? = ops := by
  induction names generalizing ops with
  | nil => simp [firstUnknown?, eq_comm]
  | cons name names ih =>
    rw [firstUnknown?_cons, List.filterMap_cons]
    cases ops with
    | nil => cases ofMnemonic? name <;> simp
    | cons op ops =>
      rw [List.forall₂_cons, ih, ← ofMnemonic?_eq_some_iff]
      cases ofMnemonic? name with
      | none => simp
      | some found => simp [and_left_comm]

theorem ofNames_eq_ok_iff (hne : names ≠ []) :
    ofNames names = .ok ops ↔ List.Forall₂ NamedBy ops names := by
  rw [forall₂_namedBy_iff, ofNames_eq, operationsOf, if_neg (by simpa using hne)]
  cases firstUnknown? names <;> simp

theorem ofNames_eq_error_iff_firstUnknown? :
    ofNames names = .error name ↔ firstUnknown? names = some name := by
  rw [ofNames_eq]
  cases firstUnknown? names <;> simp

theorem ofNames_eq_error_iff :
    ofNames names = .error name ↔
      ∃ before after, names = before ++ name :: after ∧
        (∀ earlier ∈ before, ∃ op : Operation, op.NamedBy earlier) ∧
        ¬ ∃ op : Operation, op.NamedBy name := by
  rw [ofNames_eq_error_iff_firstUnknown?, firstUnknown?, List.find?_eq_some_iff_append,
    ofMnemonic?_isNone_iff]
  simp only [Bool.not_eq_true', Bool.eq_false_iff, ne_eq, ofMnemonic?_isNone_iff, not_not]
  constructor
  · rintro ⟨hname, before, after, hnames, hbefore⟩
    exact ⟨before, after, hnames, hbefore, hname⟩
  · rintro ⟨before, after, hnames, hbefore, hname⟩
    exact ⟨hname, before, after, hnames, hbefore⟩

/-- A list of names is accepted exactly if each of them is. -/
theorem exists_ofNames_eq_ok_iff :
    (∃ ops, ofNames names = .ok ops) ↔ ∀ name ∈ names, ∃ op : Operation, op.NamedBy name := by
  simp only [← ofMnemonic?_eq_some_iff, ← firstUnknown?_eq_none_iff, ofNames_eq]
  cases firstUnknown? names <;> simp

/-! ## The grammar -/

/-- **A list of names is read by its grammar and not otherwise.** -/
theorem ofNames_iff_grammar (names : List String) :
    (∀ (op : Operation) name, op.NamedBy name ↔
        ∃ word, (op, word) ∈ [(.add, "add"), (.sub, "sub"), (.and, "and"), (.or, "or"),
            (.xor, "xor"), (.eq, "eq")] ∧ Text.Spells word.toList name.toList) ∧
      ofNames [] = .ok [.add, .sub, .and, .or, .xor, .eq] ∧
      (names ≠ [] →
        ((∃ ops, ofNames names = .ok ops) ↔
            ∀ name ∈ names, ∃ op : Operation, op.NamedBy name) ∧
          ∀ ops, ofNames names = .ok ops ↔ List.Forall₂ NamedBy ops names) ∧
      (∀ name, ofNames names = .error name ↔
        ∃ before after, names = before ++ name :: after ∧
          (∀ earlier ∈ before, ∃ op : Operation, op.NamedBy earlier) ∧
          ¬ ∃ op : Operation, op.NamedBy name) ∧
      ∀ ops : List Operation, ops ≠ [] → List.Forall₂ NamedBy ops names →
        ofNames names = .ok ops := by
  refine ⟨?_, rfl, ?_, fun name => ofNames_eq_error_iff, ?_⟩
  · intro op name
    cases op <;> simp [NamedBy, word]
  · intro hne
    exact ⟨exists_ofNames_eq_ok_iff, fun ops => ofNames_eq_ok_iff hne⟩
  · intro ops hops hnamed
    have hne : names ≠ [] := by
      rintro rfl
      exact hops (List.forall₂_nil_right_iff.1 hnamed)
    exact (ofNames_eq_ok_iff hne).2 hnamed

/-- All six words, in either case and with white space of any kind around them. The long s of `ſub`
folds to an s, but is no form of it here, and what stands behind it is not looked at. -/
theorem ofNames_iff_grammar_of_names :
    let names := ["\u2003aDd\t", "EQ", " eQ", "sub", "xOr\n", "\u00a0AND", "Or"]
    let ops : List Operation := [.add, .eq, .eq, .sub, .xor, .and, .or]
    (List.Forall₂ NamedBy ops names ∧ ofNames names = .ok ops) ∧
      ofNames ["xor", "ſub", "a dd"] = .error "ſub" ∧ ¬ ∃ op : Operation, op.NamedBy "ſub" := by
  intro names ops
  have hnamed : List.Forall₂ NamedBy ops names := by
    simp only [names, ops, List.forall₂_cons, List.forall₂_nil_left_iff, namedBy_iff, and_true]
    decide
  have herror : ofNames ["xor", "ſub", "a dd"] = .error "ſub" := by decide
  have hread := (ofNames_iff_grammar names).2.2.1 (by simp [names])
  have hrefused := (ofNames_iff_grammar ["xor", "ſub", "a dd"]).2.2.2.1 "ſub"
  obtain ⟨_, _, -, -, hno⟩ := hrefused.1 herror
  exact ⟨⟨hnamed, (hread.2 ops).2 hnamed⟩, herror, hno⟩

end AluBench.Operation
