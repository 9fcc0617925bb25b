import AluBench.Regex.Expr

/-!
# Matching

What is left to match of an expression behind a character is one of finitely many expressions
(`after`). A search keeps all that is left of the matches that have begun, and begins one more at
every place. It ends with the first match, wherever that begins and ends.
-/

namespace AluBench.Regex.Expr

/-- Whether the empty text matches at a place. -/
def nullable (around : Surroundings) : Expr → Bool
  | empty => true
  | chars _ => false
  | look l => l.holds around
  | seq a b => a.nullable around && b.nullable around
  | alt a b => a.nullable around || b.nullable around
  | times least _ body => least == 0 || body.nullable around
  | capture body => body.nullable around

/-- What may be left to match behind a character, from a place in front of it. Where the body of a
repetition can be empty, the repetitions that are owed can be. -/
def after (around : Surroundings) (c : Char) : Expr → List Expr
  | empty | look _ => []
  | chars s => if s.has c then [empty] else []
  | seq a b =>
    (a.after around c).map (·.followedBy b) ++ if a.nullable around then b.after around c else []
  | alt a b => a.after around c ++ b.after around c
  | times least most body =>
    if most = some 0 then []
    else
      let owed := if body.nullable around then 0 else least - 1
      let rest := repeated owed (most.map (· - 1)) body
      (body.after around c).map (·.followedBy rest)
  | capture body => body.after around c

/-- Whether one of the matches that were begun, or one that begins here, ends in a text. -/
def search (e : Expr) (before : Option Char) (begun : List Expr) : List Char → Bool
  | [] => (e :: begun).any (·.nullable ⟨before, none⟩)
  | c :: cs =>
    let around : Surroundings := ⟨before, some c⟩
    (e :: begun).any (·.nullable around)
      || e.search (some c) ((e :: begun).flatMap (·.after around c)).eraseDups cs

/-- Whether an expression matches somewhere in a text. -/
def occursIn (e : Expr) (text : List Char) : Bool := e.search none [] text

end AluBench.Regex.Expr
