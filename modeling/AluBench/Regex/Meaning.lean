import AluBench.Regex.Expr
import AluBench.Regex.Fault
import AluBench.Regex.Tree

/-!
# The meaning of a pattern

From a tree to an expression, under flags that change on the way. With Unicode on, a class is a set
of characters; the properties of characters, the forms of a letter and the Unicode shorthands are
not known, so patterns that need them are refused. With Unicode off, a class is a set of bytes, and
one that goes beyond ASCII could match a part of an encoded character, so it is refused as well.
-/

namespace AluBench.Regex

structure Flags where
  ignoreCase : Bool := false
  multiLine : Bool := false
  dotAll : Bool := false
  unicode : Bool := true
  /-- A carriage return ends a line too. -/
  returns : Bool := false
  deriving DecidableEq, Repr, Inhabited

namespace Flags

def change (f : Flags) : Flag × Bool → Flags
  | (.ignoreCase, on) => { f with ignoreCase := on }
  | (.multiLine, on) => { f with multiLine := on }
  | (.dotAll, on) => { f with dotAll := on }
  | (.unicode, on) => { f with unicode := on }
  | (.returns, on) => { f with returns := on }
  | (.swapGreed, _) | (.spaced, _) => f

def changeAll (f : Flags) (changes : FlagChanges) : Flags := changes.foldl change f

end Flags

/-- A set on the way to its meaning, which may be known to hold every form of its letters. -/
structure ClassSet where
  set : CharSet := .empty
  folded : Bool := true
  deriving DecidableEq, Repr, Inhabited

namespace ClassSet

/-- The set with one more range, whose letters nobody has looked at. -/
def add (s : ClassSet) (first last : Char) : ClassSet :=
  ⟨s.set.insert (CharSet.rank first) (CharSet.rank last), false⟩

def ofSet (s : CharSet) : ClassSet := ⟨s, s.isEmpty⟩

def union (s t : ClassSet) : ClassSet :=
  if t.set.isEmpty || s.set == t.set then s else ⟨s.set.union t.set, s.folded && t.folded⟩

def inter (s t : ClassSet) : ClassSet :=
  if s.set.isEmpty then s
  else if t.set.isEmpty then {}
  else ⟨s.set.inter t.set, s.folded && t.folded⟩

def diff (s t : ClassSet) : ClassSet :=
  if s.set.isEmpty || t.set.isEmpty then s else ⟨s.set.diff t.set, s.folded && t.folded⟩

/-- The characters of exactly one of two sets. -/
def symmDiff (s t : ClassSet) : ClassSet := (s.union t).diff (s.inter t)

def combine (op : SetOperation) (s t : ClassSet) : ClassSet :=
  match op with
  | .inter => s.inter t
  | .diff => s.diff t
  | .symmDiff => s.symmDiff t

/-- The set with all forms of its letters, at a span that asks for them. -/
def fold (f : Flags) (span : Span) (s : ClassSet) : Except Fault ClassSet :=
  if !f.ignoreCase || s.folded then .ok s
  else if !f.unicode then .ok ⟨s.set.foldCase, true⟩
  else if s.set.isEmpty then .ok ⟨s.set, true⟩
  else .error { kind := .caseUnavailable, span }

/-- The complement of a set, if it is asked for. Of bytes it is never in ASCII. -/
def negate (f : Flags) (span : Span) (negated : Bool) (s : ClassSet) : Except Fault ClassSet :=
  if !negated then .ok s
  else if f.unicode then .ok ⟨s.set.complement, s.folded || s.set.isEmpty⟩
  else .error { kind := .invalidUtf8, span }

end ClassSet

/-- Refuses a literal that stands for a byte beyond ASCII. -/
def Literal.check (f : Flags) (l : Literal) : Except Fault Unit :=
  if !f.unicode && l.asByte && 0x80 ≤ l.char.toNat then
    .error { kind := .invalidUtf8, span := l.span }
  else .ok ()

/-- A literal in a class. -/
def Literal.inClass (f : Flags) (l : Literal) : Except Fault Char := do
  l.check f
  if !f.unicode && 0x80 ≤ l.char.toNat then throw { kind := .unicodeForbidden, span := l.span }
  return l.char

/-- A literal by itself. -/
def Literal.meaning (f : Flags) (l : Literal) : Except Fault Expr := do
  l.check f
  let s := CharSet.singleton l.char
  if !f.ignoreCase then return .chars s
  else if f.unicode then throw { kind := .caseUnavailable, span := l.span }
  else return .chars s.foldCase

/-- The name of a property without what does not count in it. -/
def propertyKey (name : List Char) : List Char :=
  let lower := name.map Char.toLower
  let lower := if ['i', 's'].isPrefixOf lower then lower.drop 2 else lower
  lower.filter fun c => c.toNat < 0x80 && c != ' ' && c != '_' && c != '-'

/-- The properties that are told apart by their values alone. -/
def valueKeys : List (List Char) := [['c', 'f'], ['s', 'c'], ['l', 'c']]

/-- No property is known, but some are known to be missed as a value. -/
def propertyFault (f : Flags) (span : Span) (name : Option (List Char)) : Fault :=
  if !f.unicode then { kind := .unicodeForbidden, span }
  else if name.any fun n => valueKeys.contains (propertyKey n) then
    { kind := .propertyValueUnknown, span }
  else { kind := .propertyUnknown, span }

/-- A class by its name. -/
def namedSet (f : Flags) (span : Span) (name : ClassName) (negated : Bool) :
    Except Fault ClassSet := do
  (← (ClassSet.ofSet name.set).fold f span).negate f span negated

def shorthandSet (f : Flags) (span : Span) (name : ClassName) (negated : Bool) :
    Except Fault ClassSet :=
  if f.unicode then .error { kind := .shorthandUnavailable, span }
  else (ClassSet.ofSet name.set).negate f span negated

namespace CharClass

mutual

/-- A set with the characters of a class. -/
def addTo (f : Flags) (s : ClassSet) (c : CharClass) : Except Fault ClassSet :=
  match c with
  | .empty _ => return s
  | .literal l => return s.add (← l.inClass f) l.char
  | .range _ first last => return s.add (← first.inClass f) (← last.inClass f)
  | .named span name negated => return s.union (← namedSet f span name negated)
  | .shorthand span name negated => return s.union (← shorthandSet f span name negated)
  | .property span name => throw (propertyFault f span name)
  | .bracket span negated body => do
    let inner ← body.addTo f {}
    return s.union (← (← inner.fold f span).negate f span negated)
  | .union _ items => addAllTo f s items
  | .combined _ op left right => do
    let l ← left.addTo f {}
    let r ← right.addTo f {}
    let r ← r.fold f right.span
    let l ← l.fold f left.span
    return s.union (.combine op l r)

def addAllTo (f : Flags) (s : ClassSet) (cs : List CharClass) : Except Fault ClassSet :=
  match cs with
  | [] => return s
  | c :: cs => do addAllTo f (← c.addTo f s) cs

end

end CharClass

/-- The characters that a dot matches. -/
def dotSet (f : Flags) : CharSet :=
  if f.dotAll then .all
  else if f.returns then ((CharSet.singleton '\n').union (.singleton '\r')).complement
  else (CharSet.singleton '\n').complement

def Assertion.look (f : Flags) : Assertion → Look
  | .lineStart => if f.multiLine then .lineStart f.returns else .textStart
  | .lineEnd => if f.multiLine then .lineEnd f.returns else .textEnd
  | .textStart => .textStart
  | .textEnd => .textEnd
  | .word e => if f.unicode then .unicodeWord e else .word e

namespace Tree

mutual

/-- The meaning of a tree and the flags behind it. -/
def meaning (f : Flags) (t : Tree) : Except Fault (Expr × Flags) :=
  match t with
  | .empty _ => return (.empty, f)
  | .flags _ changes => return (.empty, f.changeAll changes)
  | .literal l => return (← l.meaning f, f)
  | .dot span =>
    if f.unicode then return (.chars (dotSet f), f) else throw { kind := .invalidUtf8, span }
  | .assertion _ a => return (.look (a.look f), f)
  | .set c => return (.chars (← c.addTo f {}).set, f)
  | .repeated _ least most body => do
    let (e, f) ← body.meaning f
    return (.repeated least most e, f)
  | .group _ captures changes body => do
    let (e, _) ← body.meaning (f.changeAll changes)
    return (if captures then .capture e else e, f)
  | .alternatives _ branches => do
    let (es, f) ← meanings f branches
    return (.alternatives es, f)
  | .sequence _ parts => do
    let (es, f) ← meanings f parts
    return (.sequence es, f)

def meanings (f : Flags) (ts : List Tree) : Except Fault (List Expr × Flags) :=
  match ts with
  | [] => return ([], f)
  | t :: ts => do
    let (e, f) ← t.meaning f
    let (es, f) ← meanings f ts
    return (e :: es, f)

end

end Tree

end AluBench.Regex
