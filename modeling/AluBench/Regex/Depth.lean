import AluBench.Regex.Fault
import AluBench.Regex.Tree

/-!
# Depth

Every node with something inside of it is a level, but for a flag that is set. `checkDepth levels`
refuses the first node, in reading order, that has more than a number of levels above it.
-/

namespace AluBench.Regex

/-- Goes one level down, with the levels that are left. -/
def descend (levels : Nat) (span : Span) (below : Nat → Except Fault Unit) : Except Fault Unit :=
  match levels with
  | 0 => .error { kind := .tooDeep, span }
  | levels + 1 => below levels

namespace CharClass

mutual

def checkDepth (c : CharClass) (levels : Nat) : Except Fault Unit :=
  match c with
  | .bracket span _ body => descend levels span fun n => body.checkDepth n
  | .union span items => descend levels span fun n => checkDepths items n
  | .combined span _ left right =>
    descend levels span fun n => do
      left.checkDepth n
      right.checkDepth n
  | .empty _ | .literal _ | .range .. | .named .. | .shorthand .. | .property .. => .ok ()

def checkDepths (cs : List CharClass) (levels : Nat) : Except Fault Unit :=
  match cs with
  | [] => .ok ()
  | c :: cs => do
    c.checkDepth levels
    checkDepths cs levels

end

end CharClass

namespace Tree

mutual

def checkDepth (t : Tree) (levels : Nat) : Except Fault Unit :=
  match t with
  | .set c => c.checkDepth levels
  | .repeated span _ _ body => descend levels span fun n => body.checkDepth n
  | .group span _ _ body => descend levels span fun n => body.checkDepth n
  | .alternatives span branches => descend levels span fun n => checkDepths branches n
  | .sequence span parts => descend levels span fun n => checkDepths parts n
  | .empty _ | .flags .. | .literal _ | .dot _ | .assertion .. => .ok ()

def checkDepths (ts : List Tree) (levels : Nat) : Except Fault Unit :=
  match ts with
  | [] => .ok ()
  | t :: ts => do
    t.checkDepth levels
    checkDepths ts levels

end

end Tree

end AluBench.Regex
