import AluBench.Regex.Look
import AluBench.Regex.Span

/-!
# Patterns as they are written

A pattern as a tree whose nodes know the span they were read from. Whether the tree means anything
is not said here: `Meaning` decides what its flags make of it.
-/

namespace AluBench.Regex

/-- What can be switched on and off inside of a pattern. -/
inductive Flag where
  | ignoreCase | multiLine | dotAll | swapGreed | unicode | returns
  /-- Blanks and comments between the parts of a pattern are skipped. -/
  | spaced
  deriving DecidableEq, Repr, Inhabited

def Flag.ofChar? : Char → Option Flag
  | 'i' => some ignoreCase
  | 'm' => some multiLine
  | 's' => some dotAll
  | 'U' => some swapGreed
  | 'u' => some unicode
  | 'R' => some returns
  | 'x' => some spaced
  | _ => none

/-- Flags with what they are set to, in the order in which they are written. -/
abbrev FlagChanges := List (Flag × Bool)

/-- What a flag is set to, if it is. -/
def FlagChanges.find? (changes : FlagChanges) (flag : Flag) : Option Bool :=
  (List.find? (·.1 == flag) changes).map Prod.snd

structure Literal where
  span : Span
  char : Char
  /-- Written with two hexadecimal digits, which stand for a byte where Unicode is off. -/
  asByte : Bool := false
  deriving DecidableEq, Repr, Inhabited

inductive SetOperation where
  | inter | diff | symmDiff
  deriving DecidableEq, Repr, Inhabited

inductive CharClass where
  | empty (span : Span)
  | literal (l : Literal)
  | range (span : Span) (first last : Literal)
  /-- A class such as `[:alpha:]`. -/
  | named (span : Span) (name : ClassName) (negated : Bool)
  /-- A class such as `\d`. -/
  | shorthand (span : Span) (name : ClassName) (negated : Bool)
  /-- A class such as `\pL`; the name is that of a property alone, without a value. -/
  | property (span : Span) (name : Option (List Char))
  | bracket (span : Span) (negated : Bool) (body : CharClass)
  | union (span : Span) (items : List CharClass)
  | combined (span : Span) (operation : SetOperation) (left right : CharClass)
  deriving Repr, Inhabited

def CharClass.span : CharClass → Span
  | literal l => l.span
  | empty span | range span .. | named span .. | shorthand span .. | property span _
  | bracket span .. | union span _ | combined span .. => span

inductive Assertion where
  | lineStart | lineEnd | textStart | textEnd
  | word (e : WordEdge)
  deriving DecidableEq, Repr, Inhabited

inductive Tree where
  | empty (span : Span)
  /-- Flags that are set up to the end of the group. -/
  | flags (span : Span) (changes : FlagChanges)
  | literal (l : Literal)
  | dot (span : Span)
  | assertion (span : Span) (a : Assertion)
  | set (c : CharClass)
  | repeated (span : Span) (least : Nat) (most : Option Nat) (body : Tree)
  | group (span : Span) (captures : Bool) (changes : FlagChanges) (body : Tree)
  | alternatives (span : Span) (branches : List Tree)
  | sequence (span : Span) (parts : List Tree)
  deriving Repr, Inhabited

def Tree.span : Tree → Span
  | literal l => l.span
  | set c => c.span
  | empty span | flags span _ | dot span | assertion span _ | repeated span .. | group span ..
  | alternatives span _ | sequence span _ => span

end AluBench.Regex
