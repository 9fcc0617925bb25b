import AluBench.Regex.ClassName

/-!
# Looks

A look matches no character: it holds or fails at a place between two characters. Word characters
are those of ASCII; a look that asks for all of Unicode's is told apart, for there is no table to
decide it with.
-/

namespace AluBench.Regex

/-- The places at a word that can be asked for. A half looks at one side only. -/
inductive WordEdge where
  | edge | noEdge | start | stop | startHalf | stopHalf
  deriving DecidableEq, Repr, Inhabited, Hashable

def WordEdge.holds : WordEdge → Bool → Bool → Bool
  | edge, before, after => before != after
  | noEdge, before, after => before == after
  | start, before, after => !before && after
  | stop, before, after => before && !after
  | startHalf, before, _ => !before
  | stopHalf, _, after => !after

inductive Look where
  | textStart
  | textEnd
  /-- Behind a line feed; if `returns`, a carriage return also ends a line. -/
  | lineStart (returns : Bool)
  | lineEnd (returns : Bool)
  | word (e : WordEdge)
  /-- At a word of Unicode's word characters, which nothing here decides. -/
  | unicodeWord (e : WordEdge)
  deriving DecidableEq, Repr, Inhabited, Hashable

/-- The characters on the two sides of a place, nothing at an end of the text. -/
structure Surroundings where
  before : Option Char
  after : Option Char
  deriving DecidableEq, Repr, Inhabited

def isWord (c : Option Char) : Bool := c.any fun c => ClassName.word.set.has c

def Look.holds (around : Surroundings) : Look → Bool
  | textStart => around.before.isNone
  | textEnd => around.after.isNone
  | lineStart false => around.before.isNone || around.before == some '\n'
  | lineEnd false => around.after.isNone || around.after == some '\n'
  | lineStart true =>
    around.before.isNone || around.before == some '\n'
      || (around.before == some '\r' && around.after != some '\n')
  | lineEnd true =>
    around.after.isNone || around.after == some '\r'
      || (around.after == some '\n' && around.before != some '\r')
  | word e => e.holds (isWord around.before) (isWord around.after)
  | unicodeWord _ => false

end AluBench.Regex
