import AluBench.Operation

/-!
# Reading a list of names

A list of names is read name by name, and the first that is no mnemonic ends it. So either some name
is refused, and it is the first of its kind, or there is one operation per name.

    ofNames names = match firstUnknown? names with
      | some name => .error name
      | none => .ok (operationsOf names)                                          (ofNames_eq)
-/

namespace AluBench.Operation

/-- The first name that is no mnemonic. -/
def firstUnknown? (names : List String) : Option String :=
  names.find? fun name => (ofMnemonic? name).isNone

/-- The operations of the names that are mnemonics, all of them if there is no name. -/
def operationsOf (names : List String) : List Operation :=
  if names.isEmpty then all else names.filterMap ofMnemonic?

/-! ## Lemmas -/

theorem firstUnknown?_eq_none_iff {names : List String} :
    firstUnknown? names = none ↔ ∀ name ∈ names, ∃ op, ofMnemonic? name = some op := by
  simp only [firstUnknown?, List.find?_eq_none, Bool.not_eq_true, Option.isNone_eq_false_iff,
    Option.isSome_iff_exists]

theorem firstUnknown?_cons (name : String) (names : List String) :
    firstUnknown? (name :: names) =
      match ofMnemonic? name with
      | some _ => firstUnknown? names
      | none => some name := by
  unfold firstUnknown?
  rw [List.find?_cons]
  cases ofMnemonic? name <;> rfl

theorem mapM_ofMnemonic? (names : List String) :
    (names.mapM fun name =>
      match ofMnemonic? name with
      | some op => Except.ok op
      | none => .error name) =
    match firstUnknown? names with
    | some name => .error name
    | none => .ok (names.filterMap ofMnemonic?) := by
  induction names with
  | nil => rfl
  | cons name names ih =>
    rw [List.mapM_cons, ih, firstUnknown?_cons, List.filterMap_cons]
    cases ofMnemonic? name with
    | none => rfl
    | some op => cases firstUnknown? names <;> rfl

theorem ofNames_eq (names : List String) :
    ofNames names = match firstUnknown? names with
      | some name => .error name
      | none => .ok (operationsOf names) := by
  unfold ofNames operationsOf
  cases names with
  | nil => rfl
  | cons name names => exact mapM_ofMnemonic? (name :: names)

/-- An operation is read exactly if it is named, or if nothing is. -/
theorem mem_operationsOf_iff {names : List String} {op : Operation} :
    op ∈ operationsOf names ↔ names = [] ∨ ∃ name ∈ names, ofMnemonic? name = some op := by
  unfold operationsOf
  cases names with
  | nil => cases op <;> decide
  | cons name names => simp [List.mem_filterMap]

/-- Each name is read as one operation. -/
theorem length_operationsOf {names : List String} (h : firstUnknown? names = none) :
    (operationsOf names).length = if names = [] then 6 else names.length := by
  unfold operationsOf
  cases names with
  | nil => rfl
  | cons name names =>
    rw [if_neg (by simp), if_neg (by simp), List.filterMap_length_eq_length]
    intro name hname
    obtain ⟨op, hop⟩ := firstUnknown?_eq_none_iff.1 h name hname
    rw [hop]
    rfl

end AluBench.Operation
