import AluBench.Regex.Parser.Reader

/-!
# Counted repetitions

`{n}`, `{n,}` and `{n,m}`. A number that is missing or too large is reported when it is needed, not
when it is read: before that the braces must be complete.
-/

namespace AluBench.Regex

/-- How often something is repeated, and no limit if `most` is absent. -/
structure Count where
  least : Nat
  most : Option Nat
  deriving DecidableEq, Repr, Inhabited

/-- The largest number of repetitions that can be written. -/
def largestCount : Nat := 0xFFFF_FFFF

namespace Parse

/-- A number with blanks around it, or the fault of it. -/
def number : Parse (Except Fault Nat) := do
  let _ ← collectTight Text.isBlank
  let first ← here
  let digits ← collect Char.isDigit
  let span ← since first
  let _ ← collect Text.isBlank
  let n := digits.foldl (fun n c => 10 * n + (c.toNat - 48)) 0
  if digits.isEmpty then return .error ⟨.countEmpty, span, none⟩
  else if largestCount < n then return .error ⟨.countDecimal, span, none⟩
  else return .ok n

/-- The count in braces, the reader at the opening one, and the lazy sign behind them. -/
def count : Parse Count := do
  let start ← here
  advance
  if ← atEnd then refuse .countUnclosed (← since start)
  let least ← number
  if ← atEnd then refuse .countUnclosed (← since start)
  let c ← if (← next?) == some ',' then
      advance
      if ← atEnd then refuse .countUnclosed (← since start)
      if (← next?) == some '\x7d' then pure ⟨← least, none⟩
      else
        let least ← least
        pure ⟨least, some (← (← number))⟩
    else
      let n ← least
      pure ⟨n, some n⟩
  if (← next?) != some '\x7d' then refuse .countUnclosed (← since start)
  advance
  if (← next?) == some '?' then bump
  if c.most.any (· < c.least) then refuse .countReversed (← since start)
  return c

end Parse

end AluBench.Regex
