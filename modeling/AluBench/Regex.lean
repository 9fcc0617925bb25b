import AluBench.Regex.Budget
import AluBench.Regex.Depth
import AluBench.Regex.Matching
import AluBench.Regex.Meaning
import AluBench.Regex.Parser

/-!
# Regular expressions

A pattern is read as a tree (`Tree.read`), whose depth is checked; the tree is given a meaning
(`Tree.meaning`), whose size is checked. What passes is an expression that searches texts
(`Expr.occursIn`).
-/

namespace AluBench.Regex

/-- Why a pattern cannot be used. -/
inductive Refusal where
  | fault (f : Fault)
  | tooLarge
  /-- A look asks for Unicode's words. -/
  | unicodeWords
  deriving DecidableEq, Repr, Inhabited

/-- The refusal of a pattern as it is shown. -/
def Refusal.shown (pattern : List Char) : Refusal → String
  | fault f => f.shown pattern
  | tooLarge => "Compiled regex exceeds size limit of " ++ Text.decimal budget ++ " bytes."
  | unicodeWords => "error building NFA"

/-- The expression of a pattern. -/
def Expr.read (pattern : List Char) : Except Refusal Expr := do
  let tree ← (Tree.read pattern).mapError .fault
  (tree.checkDepth deepest).mapError .fault
  let (e, _) ← (tree.meaning {}).mapError .fault
  if e.tooLarge then throw .tooLarge
  if e.asksUnicode then throw .unicodeWords
  return e

end AluBench.Regex
