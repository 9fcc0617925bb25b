import AluBench.Regex.Look

/-!
# Expressions

What a pattern means, apart from how it is written: an expression denotes texts, each at the places
where its looks hold. The functions that build expressions leave out what matches nothing but the
empty text, and make one set of alternatives that are all sets.
-/

namespace AluBench.Regex

inductive Expr where
  | empty
  /-- One character of a set. -/
  | chars (s : CharSet)
  | look (l : Look)
  | seq (first second : Expr)
  | alt (first second : Expr)
  /-- At least `least` times, and at most `most` times if there is a limit. -/
  | times (least : Nat) (most : Option Nat) (body : Expr)
  | capture (body : Expr)
  deriving DecidableEq, Repr, Inhabited, Hashable

namespace Expr

/-- One expression after another. -/
def followedBy (a b : Expr) : Expr :=
  match a, b with
  | empty, b => b
  | a, empty => a
  | a, b => seq a b

def sequence (es : List Expr) : Expr := es.foldr followedBy empty

/-- The expressions that an expression offers to choose from. -/
def branches : Expr → List Expr
  | alt a b => branches a ++ branches b
  | e => [e]

def set? : Expr → Option CharSet
  | chars s => some s
  | _ => none

/-- A choice, none of which matches nothing. -/
def choice : List Expr → Expr
  | [] => chars .empty
  | [e] => e
  | e :: es => alt e (choice es)

def alternatives (es : List Expr) : Expr :=
  let es := es.flatMap branches
  match es.mapM set? with
  | some sets => chars (sets.foldl .union .empty)
  | none => choice es

/-- The length of the shortest match, if there is any match at all. -/
def shortest : Expr → Option Nat
  | empty | look _ => some 0
  | chars s => if s.isEmpty then none else some 1
  | seq a b => do return (← shortest a) + (← shortest b)
  | alt a b => do return min (← shortest a) (← shortest b)
  | times least _ body => do return least * (← shortest body)
  | capture body => shortest body

/-- The length of the longest match, if there is one. -/
def longest : Expr → Option Nat
  | empty | look _ => some 0
  | chars s => if s.isEmpty then none else some 1
  | seq a b => do return (← longest a) + (← longest b)
  | alt a b => do return max (← longest a) (← longest b)
  | times _ most body => do return (← most) * (← longest body)
  | capture body => longest body

/-- Some number of matches in a row. More than one match of the empty text are one. -/
def repeated (least : Nat) (most : Option Nat) (body : Expr) : Expr :=
  let (least, most) :=
    if body.longest = some 0 then (min least 1, some (min (most.getD 1) 1)) else (least, most)
  if most = some 0 then empty
  else if least = 1 ∧ most = some 1 then body
  else times least most body

/-- Whether a look asks for Unicode's words. -/
def asksUnicode : Expr → Bool
  | look (.unicodeWord _) => true
  | empty | look _ | chars _ => false
  | seq a b | alt a b => a.asksUnicode || b.asksUnicode
  | times _ _ body | capture body => body.asksUnicode

end Expr

end AluBench.Regex
