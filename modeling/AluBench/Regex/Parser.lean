import AluBench.Regex.Parser.Class
import AluBench.Regex.Parser.Count
import AluBench.Regex.Parser.Group

/-!
# Reading a pattern as a tree

The parts of a pattern are read from left to right. Open groups, and alternatives that are not yet
complete, stand on a stack. A repetition takes the part in front of it, which must be there and must
not be the setting of a flag.
-/

namespace AluBench.Regex

/-- Parts of a sequence, the last first. -/
structure Parts where
  first : Position
  parts : List Tree := []
  deriving Repr, Inhabited

namespace Parts

def push (p : Parts) (t : Tree) : Parts := { p with parts := t :: p.parts }

/-- The sequence, of which the end is known. -/
def toTree (p : Parts) (stop : Position) : Tree :=
  match p.parts with
  | [] => .empty ⟨p.first, stop⟩
  | [t] => t
  | parts => .sequence ⟨p.first, stop⟩ parts.reverse

end Parts

inductive Frame where
  /-- An open group, with the parts in front of it and whether those were spaced. -/
  | group (outer : Parts) (head : GroupHead) (spaced : Bool)
  /-- Alternatives, the last first. -/
  | alternatives (first : Position) (branches : List Tree)
  deriving Repr, Inhabited

namespace Parse

def setSpaced (spaced : Bool) : Parse Unit := modify fun r => { r with spaced }

/-- The parts with the last one repeated. -/
def repeatLast (parts : Parts) (read : Parse Count) : Parse Parts := do
  match parts.parts with
  | [] | .empty _ :: _ | .flags .. :: _ => refuse .operandMissing (← point)
  | body :: before =>
    let c ← read
    let span ← since body.span.first
    return { parts with parts := .repeated span c.least c.most body :: before }

/-- A count of one character, and the lazy sign behind it. -/
def sign (least : Nat) (most : Option Nat) : Parse Count := do
  bump
  if (← next?) == some '?' then bump
  return ⟨least, most⟩

/-- A part that takes one character, or an escape. -/
def atom : Parse Tree := do
  let first ← here
  match ← next? with
  | some '\\' => escape
  | some c =>
    bump
    let span ← since first
    match c with
    | '.' => return .dot span
    | '^' => return .assertion span .lineStart
    | '$' => return .assertion span .lineEnd
    | c => return .literal ⟨span, c, false⟩
  | none => return .empty (← point)

/-- The alternatives that end with a tree, if it is one of several. -/
def closeAlternatives (tree : Tree) (stop : Position) : List Frame → Tree × List Frame
  | .alternatives first branches :: frames =>
    (.alternatives ⟨first, stop⟩ (tree :: branches).reverse, frames)
  | frames => (tree, frames)

/-- The tree of a pattern that ends here. -/
def finish (frames : List Frame) (parts : Parts) : Parse Tree := do
  let stop ← here
  match closeAlternatives (parts.toTree stop) stop frames with
  | (_, .group _ head _ :: _) => refuse .groupUnclosed head.span
  | (tree, _) => return tree

/-- Ends the innermost group. -/
def closeGroup (frames : List Frame) (parts : Parts) : Parse (List Frame × Parts) := do
  let stop ← here
  match closeAlternatives (parts.toTree stop) stop frames with
  | (body, .group outer head spaced :: frames) =>
    setSpaced spaced
    bump
    let span ← since head.span.first
    return (frames, outer.push (.group span head.captures head.changes body))
  | _ => refuse .groupUnopened ⟨stop, stop.after ')'⟩

/-- Ends a branch of alternatives. -/
def closeBranch (frames : List Frame) (parts : Parts) : Parse (List Frame) := do
  let tree := parts.toTree (← here)
  bump
  match frames with
  | .alternatives first branches :: frames =>
    return .alternatives first (tree :: branches) :: frames
  | frames => return .alternatives parts.first [tree] :: frames

/-- The rest of a pattern, from the parts of the innermost group on. -/
def treeFrom : Nat → List Frame → Parts → Parse Tree
  | 0, frames, parts => finish frames parts
  | fuel + 1, frames, parts => do
    skip
    match ← next? with
    | none => finish frames parts
    | some '(' =>
      match ← opening with
      | .flags span changes =>
        setSpaced ((changes.find? .spaced).getD (← get).spaced)
        treeFrom fuel frames (parts.push (.flags span changes))
      | .group head =>
        let spaced := (← get).spaced
        setSpaced ((head.changes.find? .spaced).getD spaced)
        treeFrom fuel (.group parts head spaced :: frames) ⟨← here, []⟩
    | some ')' =>
      let (frames, parts) ← closeGroup frames parts
      treeFrom fuel frames parts
    | some '|' =>
      let frames ← closeBranch frames parts
      treeFrom fuel frames ⟨← here, []⟩
    | some '[' => treeFrom fuel frames (parts.push (.set (← bracket)))
    | some '?' => treeFrom fuel frames (← repeatLast parts (sign 0 (some 1)))
    | some '*' => treeFrom fuel frames (← repeatLast parts (sign 0 none))
    | some '+' => treeFrom fuel frames (← repeatLast parts (sign 1 none))
    | some '\x7b' => treeFrom fuel frames (← repeatLast parts count)
    | some _ => treeFrom fuel frames (parts.push (← atom))

end Parse

/-- The tree of a pattern. -/
def Tree.read (pattern : List Char) : Except Fault Tree := do
  let r : Reader := { rest := pattern }
  let (tree, _) ← (Parse.treeFrom (pattern.length + 1) [] ⟨r.position, []⟩).run r
  return tree

end AluBench.Regex
