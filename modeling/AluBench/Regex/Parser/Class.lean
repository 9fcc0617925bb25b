import AluBench.Regex.Parser.Escape

/-!
# Classes in brackets

The open brackets and the operations that wait for their right side stand on a stack. The items of a
bracket join what came before them; `&&`, `--` and `~~` bind alike, from left to right, and weaker
than the joining.
-/

namespace AluBench.Regex

/-- Items of a class that stand side by side, the last first. -/
structure Items where
  span : Span
  items : List CharClass := []
  deriving Repr, Inhabited

namespace Items

def push (i : Items) (c : CharClass) : Items :=
  ⟨⟨if i.items.isEmpty then c.span.first else i.span.first, c.span.stop⟩, c :: i.items⟩

def toClass (i : Items) : CharClass :=
  match i.items with
  | [] => .empty i.span
  | [c] => c
  | items => .union i.span items.reverse

end Items

inductive ClassFrame where
  /-- An open bracket, with the items in front of it. -/
  | opened (outer : Items) (span : Span) (negated : Bool)
  | operation (operation : SetOperation) (left : CharClass)
  deriving Repr, Inhabited

/-- A class such as `[:^alpha:]` at the start of a text: its name, whether it is negated, and how
many characters it takes. -/
def namedClass? : List Char → Option (ClassName × Bool × Nat)
  | '[' :: ':' :: body =>
    let negated := body.head? == some '^'
    let name := (if negated then body.drop 1 else body).takeWhile (· != ':')
    let before := name.length + negated.toNat
    if [':', ']'].isPrefixOf (body.drop before) then
      (ClassName.ofName? name).map fun n => (n, negated, before + 4)
    else none
  | _ => none

/-- The operation that two equal characters stand for. -/
def SetOperation.ofChar? : Char → Option SetOperation
  | '&' => some .inter
  | '-' => some .diff
  | '~' => some .symmDiff
  | _ => none

/-- The operation at the start of a text. -/
def operationAt? : List Char → Option SetOperation
  | c :: d :: _ => if c == d then SetOperation.ofChar? c else none
  | _ => none

/-- The first character of a text behind blanks and the sign of a comment; the first of all if there
is nothing behind them. -/
def peekSpaced (cs : List Char) : Option Char :=
  let past := cs.dropWhile Text.isBlank
  let found := match past with
    | '#' :: comment => (comment.dropWhile Text.isBlank).head?
    | c :: _ => some c
    | [] => none
  found.or cs.head?

namespace Parse

/-- The fault of a class that does not end: its innermost open bracket. -/
def classUnfinished {α : Type} (frames : List ClassFrame) : Parse α := do
  let opened := frames.findSome? fun
    | .opened _ span _ => some span
    | .operation .. => none
  refuse .classUnclosed (opened.getD (← point))

/-- Gives the waiting operation, if there is one, its right side. -/
def closeOperation (right : CharClass) : List ClassFrame → List ClassFrame × CharClass
  | .operation op left :: frames =>
    (frames, .combined ⟨left.span.first, right.span.stop⟩ op left right)
  | frames => (frames, right)

/-- Any number of dashes at the start of a bracket, which stand for themselves. -/
def leadingDashes (bracket : Position) : Nat → Items → Parse Items
  | 0, items => return items
  | fuel + 1, items => do
    let first ← here
    if (← next?) != some '-' then return items
    let items := items.push (.literal ⟨⟨first, first.after '-'⟩, '-', false⟩)
    advance
    if ← atEnd then refuse .classUnclosed (.point bracket)
    leadingDashes bracket fuel items

/-- Opens a bracket. A closing bracket that comes first in it stands for itself. -/
def openBracket (outer : Items) : Parse (ClassFrame × Items) := do
  let bracket ← here
  advance
  if ← atEnd then refuse .classUnclosed (← since bracket)
  let negated := (← next?) == some '^'
  if negated then
    advance
    if ← atEnd then refuse .classUnclosed (← since bracket)
  let items ← leadingDashes bracket (← get).rest.length ⟨← point, []⟩
  let first ← here
  if items.items.isEmpty ∧ (← next?) = some ']' then
    let items := items.push (.literal ⟨⟨first, first.after ']'⟩, ']', false⟩)
    advance
    if ← atEnd then refuse .classUnclosed (← since bracket)
    return (.opened outer (← since bracket) negated, items)
  else return (.opened outer (← since bracket) negated, items)

/-- A character or an escape. -/
def classAtom : Parse Tree := do
  match ← next? with
  | some '\\' => escape
  | some c =>
    let first ← here
    bump
    return .literal ⟨← since first, c, false⟩
  | none => return .empty (← point)

def classItem : Tree → Parse CharClass
  | .literal l => return .literal l
  | .set c => return c
  | t => refuse .classEscape t.span

def rangeBound : Tree → Parse Literal
  | .literal l => return l
  | t => refuse .classRangeBound t.span

/-- An item or a range of a class. -/
def classRange (frames : List ClassFrame) : Parse CharClass := do
  let first ← classAtom
  skip
  let r ← get
  match r.rest with
  | [] => classUnfinished frames
  | c :: behind =>
    let peeked := if r.spaced then peekSpaced behind else behind.head?
    if c != '-' || peeked == some ']' || peeked == some '-' then classItem first
    else
      advance
      if ← atEnd then classUnfinished frames
      let last ← classAtom
      let span := ⟨first.span.first, last.span.stop⟩
      let lo ← rangeBound first
      let hi ← rangeBound last
      if hi.char < lo.char then refuse .classRange span
      return .range span lo hi

/-- The rest of a class, from the items of the innermost bracket on. -/
def classFrom : Nat → List ClassFrame → Items → Parse CharClass
  | 0, frames, _ => classUnfinished frames
  | fuel + 1, frames, items => do
    skip
    let r ← get
    match if frames.isEmpty then none else namedClass? r.rest, operationAt? r.rest, r.rest with
    | some (name, negated, length), _, _ =>
      set (r.drop length)
      classFrom fuel frames (items.push (.named (← since r.position) name negated))
    | none, some op, _ =>
      let (frames, left) := closeOperation items.toClass frames
      set (r.drop 2)
      classFrom fuel (.operation op left :: frames) ⟨← point, []⟩
    | none, none, '[' :: _ =>
      let (frame, inner) ← openBracket items
      classFrom fuel (frame :: frames) inner
    | none, none, ']' :: _ =>
      match closeOperation items.toClass frames with
      | (.opened outer span negated :: frames, body) =>
        bump
        let c := .bracket (← since span.first) negated body
        if frames.isEmpty then return c else classFrom fuel frames (outer.push c)
      | (frames, _) => classUnfinished frames
    | none, none, [] => classUnfinished frames
    | none, none, _ => classFrom fuel frames (items.push (← classRange frames))

/-- A class, the reader at its bracket. -/
def bracket : Parse CharClass := do
  classFrom ((← get).rest.length + 1) [] ⟨← point, []⟩

end Parse

end AluBench.Regex
