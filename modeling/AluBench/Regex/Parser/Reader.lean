import AluBench.Regex.Fault
import AluBench.Text.Blank

/-!
# Reading a pattern

A reader stands at a position of a pattern and knows the rest of it. To `bump` is to pass one
character. To `advance` is to pass one character and, where patterns are spaced, the blanks and
comments behind it; a comment reaches from `#` to the end of its line.
-/

namespace AluBench.Regex

structure Reader where
  position : Position := {}
  rest : List Char
  /-- Blanks and comments are skipped. -/
  spaced : Bool := false
  /-- The names of groups that were read, and where. -/
  names : List (List Char × Span) := []
  deriving Repr, Inhabited

namespace Reader

def bump (r : Reader) : Reader :=
  match r.rest with
  | [] => r
  | c :: cs => { r with position := r.position.after c, rest := cs }

/-- Past a number of characters. -/
def drop (r : Reader) (n : Nat) : Reader :=
  { r with position := r.position.afterAll (r.rest.take n), rest := r.rest.drop n }

/-- The number of characters in the blanks and comments at the start of a text. -/
def blankLength (inComment : Bool) : List Char → Nat
  | [] => 0
  | c :: cs =>
    if inComment then blankLength (c != '\n') cs + 1
    else if Text.isBlank c then blankLength false cs + 1
    else if c == '#' then blankLength true cs + 1
    else 0

/-- Past blanks and comments, if they are skipped at all. -/
def skip (r : Reader) : Reader := if r.spaced then r.drop (blankLength false r.rest) else r

def advance (r : Reader) : Reader := r.bump.skip

/-- The characters up to the first that fails a test, each passed by `step`, at most `fuel`. -/
def collectBy (step : Reader → Reader) (p : Char → Bool) : Nat → Reader → List Char × Reader
  | 0, r => ([], r)
  | fuel + 1, r =>
    match r.rest with
    | [] => ([], r)
    | c :: _ =>
      if p c then
        let (cs, r) := collectBy step p fuel (step r)
        (c :: cs, r)
      else ([], r)

end Reader

/-- A step of reading. -/
abbrev Parse := StateT Reader (Except Fault)

namespace Parse

def refuse {α : Type} (kind : FaultKind) (span : Span) (earlier : Option Span := none) : Parse α :=
  throw ⟨kind, span, earlier⟩

def here : Parse Position := do return (← get).position

/-- The character at hand, nothing at the end. -/
def next? : Parse (Option Char) := do return (← get).rest.head?

def bump : Parse Unit := modify Reader.bump

def skip : Parse Unit := modify Reader.skip

def advance : Parse Unit := modify Reader.advance

def atEnd : Parse Bool := do return (← get).rest.isEmpty

/-- The span from a position to where the reader stands. -/
def since (first : Position) : Parse Span := do return ⟨first, ← here⟩

/-- The empty span where the reader stands. -/
def point : Parse Span := do return .point (← here)

/-- Passes a text if it comes next. -/
def accept (text : String) : Parse Bool := do
  let r ← get
  if text.toList.isPrefixOf r.rest then
    set (r.drop text.length)
    return true
  else return false

/-- Passes the characters that satisfy a test. -/
def collect (p : Char → Bool) : Parse (List Char) := do
  let r ← get
  let (cs, r) := r.collectBy Reader.advance p r.rest.length
  set r
  return cs

/-- The same, with nothing skipped in between. -/
def collectTight (p : Char → Bool) : Parse (List Char) := do
  let r ← get
  let (cs, r) := r.collectBy Reader.bump p r.rest.length
  set r
  return cs

end Parse

end AluBench.Regex
