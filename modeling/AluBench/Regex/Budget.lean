import AluBench.Regex.ByteRanges
import AluBench.Regex.Expr

/-!
# The budget of a pattern

A pattern is counted in the bytes of the two automata that read encoded text, one forwards and one
backwards; either may take up to `budget`. A state takes 32 bytes, a transition 8 and a choice 4.
Repetitions are counted as often as they are written out, so a short pattern may be too large.
-/

namespace AluBench.Regex

/-- The most bytes that one automaton may take. -/
def budget : Nat := 10485760

/-- The way in which an automaton reads. -/
inductive Direction where
  | forwards | backwards
  deriving DecidableEq, Repr, Inhabited

namespace Direction

/-- The bytes for a set of characters. -/
def setCost (d : Direction) (s : CharSet) : Nat :=
  match s.only? with
  | some rank => 32 * (ByteRanges.ofRange rank rank).flatten.length
  | none =>
    if s.isAscii then 64 + 8 * s.ranges.length
    else
      let sequences := ByteRanges.ofSet s
      match d with
      | forwards =>
        let states := (ByteRanges.states 5 sequences).eraseDups
        states.foldl (fun n left => n + 32 + 8 * (ByteRanges.branches left).length) 32
      | backwards =>
        64 + 4 * sequences.length + 32 * (ByteRanges.beginnings sequences).eraseDups.length

/-- The bytes for some repetitions of a body that takes `cost` bytes. -/
def timesCost (canBeEmpty : Bool) (cost least : Nat) : Option Nat → Nat
  | none =>
    if least = 0 then if canBeEmpty then 112 + cost else 40 + cost else least * cost + 40
  | some most =>
    let owed := if least = 0 then 32 else least * cost
    if least = 0 ∧ most = 1 then 72 + cost
    else if least = most then owed
    else owed + 32 + (most - least) * (cost + 40)

/-- What an expression of some cost adds to a choice, which takes in a choice as it is. -/
def choiceCost : Expr → Nat → Nat
  | .alt .., cost => cost - 64
  | _, cost => cost + 4

def cost (d : Direction) : Expr → Nat
  | .empty | .look _ => 32
  | .chars s => d.setCost s
  | .seq a b => d.cost a + d.cost b
  | .alt a b => choiceCost a (d.cost a) + choiceCost b (d.cost b) + 64
  | .times least most body => timesCost (body.shortest.all (· == 0)) (d.cost body) least most
  | .capture body => d.cost body + if d = forwards then 64 else 0

end Direction

/-- What an automaton takes besides the states of its pattern. -/
def Direction.overhead : Direction → Nat
  | forwards => 208
  | backwards => 144

def Expr.tooLarge (e : Expr) : Bool :=
  [Direction.forwards, .backwards].any fun d => budget < d.overhead + d.cost e

end AluBench.Regex
