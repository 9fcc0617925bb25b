/-!
# Numbers on the command line

A number is digits with at most one plus sign in front, no larger than a given limit. The digits are
taken from the left, and the first that does not fit decides what is wrong.
-/

namespace AluBench.CommandLine

inductive NumberFault where
  | empty | notADigit | tooLarge
  deriving DecidableEq, Repr, Inhabited

def NumberFault.text : NumberFault → String
  | empty => "cannot parse integer from empty string"
  | notADigit => "invalid digit found in string"
  | tooLarge => "number too large to fit in target type"

/-- The number that `value` becomes when the digits are written behind it. -/
def readDigits (limit value : Nat) : List Char → Except NumberFault Nat
  | [] => .ok value
  | c :: cs =>
    if c.isDigit then
      let value := 10 * value + (c.toNat - '0'.toNat)
      if value ≤ limit then readDigits limit value cs else .error .tooLarge
    else .error .notADigit

/-- A sign alone is not a number. -/
def readNumber (limit : Nat) : List Char → Except NumberFault Nat
  | [] => .error .empty
  | ['+'] => .error .notADigit
  | '+' :: cs => readDigits limit 0 cs
  | cs => readDigits limit 0 cs

end AluBench.CommandLine
