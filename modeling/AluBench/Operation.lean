import AluBench.Nibble
import AluBench.Text.Blank

/-!
# Operations of the 4-bit ALU

Six of the sixteen selectors are defined; every other selector is a don't-care. Only the low nibble
of a selector byte counts.

    ofSelector? op.selector = some op        (ofSelector?_selector)
-/

namespace AluBench

inductive Operation where
  | add | sub | and | or | xor | eq
  deriving DecidableEq, Repr, Inhabited

namespace Operation

/-- In the order of their selectors. -/
def all : List Operation := [add, sub, and, or, xor, eq]

def selector : Operation → UInt8
  | add => 0b0000
  | sub => 0b0001
  | and => 0b1000
  | or => 0b1001
  | xor => 0b1010
  | eq => 0b1111

/-- Decodes a selector byte, of which the high nibble is ignored. -/
def ofSelector? (sel : UInt8) : Option Operation :=
  all.find? fun op => op.selector == sel &&& nibbleMask

def mnemonic : Operation → String
  | add => "ADD"
  | sub => "SUB"
  | and => "AND"
  | or => "OR"
  | xor => "XOR"
  | eq => "EQ"

/-- The operation that a text names by its mnemonic, in either case and with blanks around it. -/
def ofMnemonic? (text : String) : Option Operation := Text.named? mnemonic all text.toList

/-- Only sums and differences can carry or overflow. -/
def isArithmetic : Operation → Bool
  | add | sub => true
  | _ => false

theorem ofSelector?_selector (op : Operation) : ofSelector? op.selector = some op := by
  cases op <;> decide

/-- The operations that a list of names asks for: all of them when it is empty, else one per name.
The error is the first name that is no mnemonic, as it was given. -/
def ofNames (names : List String) : Except String (List Operation) :=
  if names.isEmpty then .ok all
  else names.mapM fun name =>
    match ofMnemonic? name with
    | some op => .ok op
    | none => .error name

end Operation

end AluBench
