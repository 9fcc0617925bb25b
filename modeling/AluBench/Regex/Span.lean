/-!
# Places in a pattern

A position counts characters from the start of a pattern, and besides lines from one and columns
from one, as a reader counts them. A span reaches from a position up to another.
-/

namespace AluBench.Regex

structure Position where
  offset : Nat := 0
  line : Nat := 1
  column : Nat := 1
  deriving DecidableEq, Repr, Inhabited

/-- The position behind a character. -/
def Position.after (p : Position) (c : Char) : Position :=
  if c == '\n' then ⟨p.offset + 1, p.line + 1, 1⟩ else ⟨p.offset + 1, p.line, p.column + 1⟩

/-- The position behind a text. -/
def Position.afterAll (p : Position) (cs : List Char) : Position := cs.foldl Position.after p

structure Span where
  first : Position
  /-- The position behind the last character. -/
  stop : Position
  deriving DecidableEq, Repr, Inhabited

namespace Span

/-- The empty span at a position. -/
def point (p : Position) : Span := ⟨p, p⟩

def inOneLine (s : Span) : Bool := s.first.line == s.stop.line

/-- Whether a span comes before another in a list of marks. -/
def before (s t : Span) : Bool :=
  s.first.offset < t.first.offset
    || (s.first.offset == t.first.offset && s.stop.offset ≤ t.stop.offset)

end Span

end AluBench.Regex
