import AluBench.Regex.Parser.Reader
import AluBench.Regex.Tree

/-!
# Escapes

What a backslash makes of the characters behind it: a character, a class or an assertion.
-/

namespace AluBench.Regex.Parse

/-- The characters that stand for something else, unless they are escaped. -/
def isMeta (c : Char) : Bool := "\\.+*?()|[]\x7b\x7d^$#&-~".toList.contains c

/-- The characters that a backslash leaves as they are: those of ASCII that are neither letters nor
digits nor angle brackets. -/
def isEscapable (c : Char) : Bool :=
  c.toNat < 0x80 && !c.isAlphanum && c != '<' && c != '>'

/-- The characters that letters stand for behind a backslash. -/
def control? : Char → Option Char
  | 'a' => some '\x07'
  | 'f' => some '\x0c'
  | 't' => some '\t'
  | 'n' => some '\n'
  | 'r' => some '\r'
  | 'v' => some '\x0b'
  | _ => none

def assertion? : Char → Option Assertion
  | 'A' => some .textStart
  | 'z' => some .textEnd
  | 'b' => some (.word .edge)
  | 'B' => some (.word .noEdge)
  | '<' => some (.word .start)
  | '>' => some (.word .stop)
  | _ => none

def isHexDigit (c : Char) : Bool :=
  c.isDigit || ('a' ≤ c && c ≤ 'f') || ('A' ≤ c && c ≤ 'F')

def digitValue (c : Char) : Nat := if c.isDigit then c.toNat - 48 else c.toLower.toNat - 87

def hexValue (digits : List Char) : Nat := digits.foldl (fun n c => 16 * n + digitValue c) 0

/-- The character of a number, if there is one. -/
def charOf? (n : Nat) : Option Char := if n.isValidChar then some (Char.ofNat n) else none

/-- A fixed number of hexadecimal digits. -/
def hexDigits (count : Nat) : Parse (List Char) := do
  match ← next? with
  | none => refuse .escapeUnfinished (← point)
  | some c =>
    if !isHexDigit c then refuse .hexDigit ⟨← here, (← here).after c⟩
    advance
    match count with
    | 0 => return [c]
    | count + 1 => return c :: (← hexDigits count)

/-- A character by its number, in `\x`, `\u` or `\U`. The reader stands at the letter. -/
def hexLiteral (start : Position) (letter : Char) : Parse Literal := do
  advance
  match ← next? with
  | none => refuse .escapeUnfinished (← point)
  | some '\x7b' =>
    let brace ← here
    advance
    let first := brace.after '\x7b'
    let digits ← collect isHexDigit
    let stop ← here
    match ← next? with
    | none => refuse .escapeUnfinished ⟨brace, stop⟩
    | some c =>
      if c != '\x7d' then refuse .hexDigit ⟨stop, stop.after c⟩
      advance
      if digits.isEmpty then refuse .hexEmpty (← since brace)
      match charOf? (hexValue digits) with
      | none => refuse .hexNoCharacter ⟨first, stop⟩
      | some c => return ⟨← since start, c, false⟩
  | some _ =>
    let first ← here
    let digits ← hexDigits (if letter == 'x' then 1 else if letter == 'u' then 3 else 7)
    match charOf? (hexValue digits) with
    | none => refuse .hexNoCharacter (← since first)
    | some c => return ⟨← since start, c, letter == 'x'⟩

/-- Whether the name of a property comes with a value. -/
def hasValue (name : List Char) : Bool := name.contains '=' || name.contains ':'

/-- A class of the characters with a property, in `\p` or `\P`. The reader stands at the letter. -/
def property (start : Position) : Parse CharClass := do
  advance
  match ← next? with
  | none => refuse .escapeUnfinished (← point)
  | some '\x7b' =>
    advance
    let name ← collect (· != '\x7d')
    if ← atEnd then refuse .escapeUnfinished (← point)
    bump
    return .property (← since start) (if hasValue name then none else some name)
  | some c =>
    if c == '\\' then refuse .propertyMalformed ⟨← here, (← here).after c⟩
    advance
    return .property (← since start) (some [c])

def wordEdge? (name : List Char) : Option WordEdge :=
  match String.ofList name with
  | "start" => some .start
  | "end" => some .stop
  | "start-half" => some .startHalf
  | "end-half" => some .stopHalf
  | _ => none

/-- The braces behind `\b`, if they hold a name. If they do not, they count repetitions and are left
alone. -/
def wordEdge (start : Position) : Parse (Option WordEdge) := do
  let r ← get
  let brace ← here
  advance
  let first ← here
  match ← next? with
  | none => refuse .assertionUnfinished (← since start)
  | some c =>
    if !(c.isAlpha || c == '-') then
      set r
      return none
    let name ← collect fun c => c.isAlpha || c == '-'
    let stop ← here
    if (← next?) != some '\x7d' then refuse .assertionUnclosed ⟨brace, stop⟩
    bump
    match wordEdge? name with
    | none => refuse .assertionUnknown ⟨first, stop⟩
    | some e => return some e

/-- An assertion, the reader behind its letter. -/
def assertion (start : Position) (a : Assertion) : Parse Tree := do
  if a = .word .edge ∧ (← next?) = some '\x7b' then
    match ← wordEdge start with
    | some e => return .assertion (← since start) (.word e)
    | none => return .assertion (← since start) a
  else return .assertion (← since start) a

/-- An escape, the reader at its backslash. -/
def escape : Parse Tree := do
  let start ← here
  bump
  match ← next? with
  | none => refuse .escapeUnfinished (← since start)
  | some c =>
    if c.isDigit then refuse .backreference ⟨start, (← here).after c⟩
    else if c == 'x' || c == 'u' || c == 'U' then return .literal (← hexLiteral start c)
    else if c == 'p' || c == 'P' then return .set (← property start)
    else
      bump
      let span ← since start
      match ClassName.ofShorthand? c.toLower, assertion? c, control? c with
      | some name, _, _ => return .set (.shorthand span name c.isUpper)
      | none, some a, _ => assertion start a
      | none, none, some d => return .literal ⟨span, d, false⟩
      | none, none, none =>
        if isMeta c || isEscapable c then return .literal ⟨span, c, false⟩
        else refuse .escapeUnknown span

end AluBench.Regex.Parse
