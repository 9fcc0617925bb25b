import AluBench.Regex.Span
import AluBench.Text.Digits
import AluBench.Text.Lines

/-!
# Faults of a pattern

Why a pattern has no meaning, and how that is shown: the pattern with carets under the spans at
fault, and the cause below. A pattern of several lines is shown between two dividers and with its
lines numbered; a span over several lines is not marked but said in words.
-/

namespace AluBench.Regex

inductive FaultKind where
  | assertionUnclosed | assertionUnknown | assertionUnfinished
  | backreference
  | classEscape | classRange | classRangeBound | classUnclosed
  | countDecimal | countEmpty | countReversed | countUnclosed
  | escapeUnfinished | escapeUnknown
  | flagDangling | flagRepeated | flagUnfinished | flagUnknown | negationRepeated
  | groupUnclosed | groupUnopened
  | hexDigit | hexEmpty | hexNoCharacter
  | lookAround
  | nameEmpty | nameInvalid | nameRepeated | nameUnclosed
  | operandMissing
  | propertyMalformed | propertyUnknown | propertyValueUnknown
  | tooDeep
  | caseUnavailable | invalidUtf8 | shorthandUnavailable | unicodeForbidden
  deriving DecidableEq, Repr, Inhabited

/-- The deepest nesting of a pattern. -/
def deepest : Nat := 250

def FaultKind.text : FaultKind → String
  | assertionUnclosed =>
    "special word boundary assertion is either unclosed or contains an invalid character"
  | assertionUnknown =>
    "unrecognized special word boundary assertion, valid choices are: "
      ++ "start, end, start-half or end-half"
  | assertionUnfinished =>
    "found either the beginning of a special word boundary or a bounded repetition on a \\b "
      ++ "with an opening brace, but no closing brace"
  | backreference => "backreferences are not supported"
  | classEscape => "invalid escape sequence found in character class"
  | classRange => "invalid character class range, the start must be <= the end"
  | classRangeBound => "invalid range boundary, must be a literal"
  | classUnclosed => "unclosed character class"
  | countDecimal => "decimal literal invalid"
  | countEmpty => "repetition quantifier expects a valid decimal"
  | countReversed => "invalid repetition count range, the start must be <= the end"
  | countUnclosed => "unclosed counted repetition"
  | escapeUnfinished => "incomplete escape sequence, reached end of pattern prematurely"
  | escapeUnknown => "unrecognized escape sequence"
  | flagDangling => "dangling flag negation operator"
  | flagRepeated => "duplicate flag"
  | flagUnfinished => "expected flag but got end of regex"
  | flagUnknown => "unrecognized flag"
  | negationRepeated => "flag negation operator repeated"
  | groupUnclosed => "unclosed group"
  | groupUnopened => "unopened group"
  | hexDigit => "invalid hexadecimal digit"
  | hexEmpty => "hexadecimal literal empty"
  | hexNoCharacter => "hexadecimal literal is not a Unicode scalar value"
  | lookAround => "look-around, including look-ahead and look-behind, is not supported"
  | nameEmpty => "empty capture group name"
  | nameInvalid => "invalid capture group character"
  | nameRepeated => "duplicate capture group name"
  | nameUnclosed => "unclosed capture group name"
  | operandMissing => "repetition operator missing expression"
  | propertyMalformed => "invalid Unicode character class"
  | propertyUnknown => "Unicode property not found"
  | propertyValueUnknown => "Unicode property value not found"
  | tooDeep =>
    "exceed the maximum number of nested parentheses/brackets (" ++ Text.decimal deepest ++ ")"
  | caseUnavailable =>
    "Unicode-aware case insensitivity matching is not available "
      ++ "(make sure the unicode-case feature is enabled)"
  | invalidUtf8 => "pattern can match invalid UTF-8"
  | shorthandUnavailable =>
    "Unicode-aware Perl class not found (make sure the unicode-perl feature is enabled)"
  | unicodeForbidden => "Unicode not allowed here"

structure Fault where
  kind : FaultKind
  span : Span
  /-- What the fault collides with: the first of two equal names or flags. -/
  earlier : Option Span := none
  deriving DecidableEq, Repr, Inhabited

namespace Fault

/-- The spans to mark, in the order of their places. -/
def spans (f : Fault) : List Span :=
  match f.earlier with
  | none => [f.span]
  | some s => if s.before f.span then [s, f.span] else [f.span, s]

/-- Carets under some spans of one line, `column` of whose columns are behind. -/
def carets (column : Nat) : List Span → List Char
  | [] => []
  | s :: rest =>
    let gap := s.first.column - 1 - column
    let width := max 1 (s.stop.column - s.first.column)
    List.replicate gap ' ' ++ List.replicate width '^' ++ carets (column + gap + width) rest

/-- A line of the pattern behind a margin, and the marks under it if there are any. -/
def markedLine (spans : List Span) (margin : List Char) (number : Nat) (line : List Char) :
    List Char :=
  let marked := spans.filter fun s => s.inOneLine && s.first.line == number
  let marks :=
    if marked.isEmpty then []
    else List.replicate margin.length ' ' ++ carets 0 marked ++ ['\n']
  margin ++ line ++ '\n' :: marks

/-- The number of a line, as wide as that of the last. -/
def numbered (width number : Nat) : List Char :=
  (Text.decimal number).toList.leftpad width ' ' ++ ": ".toList

/-- A span over several lines, in words. -/
def spanText (s : Span) : String :=
  "on line " ++ Text.decimal s.first.line ++ " (column " ++ Text.decimal s.first.column
    ++ ") through line " ++ Text.decimal s.stop.line ++ " (column "
    ++ Text.decimal (s.stop.column - 1) ++ ")\n"

/-- The fault of a pattern as it is shown. -/
def shown (f : Fault) (pattern : List Char) : String :=
  let lines := Text.lines pattern
  let cause := "error: " ++ f.kind.text
  if pattern.contains '\n' then
    let count := lines.length + if pattern.getLast? == some '\n' then 1 else 0
    let width := (Text.decimal count).length
    let divider := List.replicate 79 '~' ++ ['\n']
    let marked := (lines.zipIdx 1).flatMap fun (line, n) =>
      markedLine f.spans (numbered width n) n line
    "regex parse error:\n" ++ String.ofList (divider ++ marked ++ divider)
      ++ String.join ((f.spans.filter (!·.inOneLine)).map spanText) ++ cause
  else
    let marked := (lines.zipIdx 1).flatMap fun (line, n) =>
      markedLine f.spans (List.replicate 4 ' ') n line
    "regex parse error:\n" ++ String.ofList marked ++ cause

end Fault

end AluBench.Regex
