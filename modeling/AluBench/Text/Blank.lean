/-!
# Blanks and names

The blank characters are the 25 of Unicode's `White_Space` property. A name is read without the
blanks around it, and its letters match in either case, but for the letters `a` to `z` only: `ſ`
and `K` (the Kelvin sign) are not forms of `s` and `k`.
-/

namespace AluBench.Text

/-- Unicode `White_Space`. -/
def isBlank (c : Char) : Bool :=
  ('\x09' ≤ c && c ≤ '\x0d') || c == ' ' || c == '\x85' || c == '\xa0' || c == '\u1680'
    || ('\u2000' ≤ c && c ≤ '\u200a') || c == '\u2028' || c == '\u2029' || c == '\u202f'
    || c == '\u205f' || c == '\u3000'

/-- The text without the blanks at its two ends. -/
def trim (cs : List Char) : List Char :=
  ((cs.dropWhile isBlank).reverse.dropWhile isBlank).reverse

/-- Equal but for the case of the letters `a` to `z`. -/
def sameLetters (xs ys : List Char) : Bool := xs.map Char.toLower == ys.map Char.toLower

/-- The entry of a list that a text names, blanks and letter case aside. -/
def named? {α : Type} (name : α → String) (entries : List α) (text : List Char) : Option α :=
  entries.find? fun e => sameLetters (name e).toList (trim text)

end AluBench.Text
