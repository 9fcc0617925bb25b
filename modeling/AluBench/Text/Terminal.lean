/-!
# Control sequences

A text for a terminal carries control sequences between its visible characters: an escape character
and what belongs to it, as ECMA-48 lays them out. `visible` leaves them out, and with them all
control characters but white space.

A sequence that is cut short at the end of the text takes the rest with it. White space inside of a
sequence is shown and ends it; two control characters, CAN and SUB, end it without a trace.
-/

namespace AluBench.Text.Terminal

/-- What a character is read as part of. -/
inductive Mode where
  | text
  /-- Right behind an escape character. -/
  | escape
  /-- Inside an escape sequence with intermediate characters, as in `ESC ( B`. -/
  | intermediate
  /-- Inside a control sequence, as in `ESC [ 31 m`. -/
  | control
  /-- Right behind the opening of a device control string. -/
  | device
  | deviceParameters
  | deviceIntermediate
  /-- Inside a string that a string terminator closes. -/
  | string
  /-- Inside an operating system command, which a bell closes. -/
  | command
  deriving DecidableEq, Repr, Inhabited

def escapeCharacter : Char := '\x1b'

/-- The control characters that are shown. -/
def isSpace (c : Char) : Bool := c == '\t' || c == '\n' || c == '\x0c' || c == '\r'

def isControl (c : Char) : Bool := c < ' ' || c == '\x7f'

/-- Shown where no sequence is open. -/
def isVisible (c : Char) : Bool := !isControl c || isSpace c

/-- The control characters CAN and SUB, which break off any sequence. -/
def isCancel (c : Char) : Bool := c == '\x18' || c == '\x1a'

/-- From the blank to the slash. -/
def isIntermediate (c : Char) : Bool := ' ' ≤ c && c ≤ '/'

/-- Digits, colon and semicolon. -/
def isParameter (c : Char) : Bool := '0' ≤ c && c ≤ ';'

/-- The characters `<`, `=`, `>` and `?`, which may only come first among parameters. -/
def isPrivate (c : Char) : Bool := '<' ≤ c && c ≤ '?'

/-- From `@` to the tilde: the last character of a sequence. -/
def isFinal (c : Char) : Bool := '@' ≤ c && c ≤ '~'

/-- The string terminator is a byte, which may be one of those that encode a character. -/
def closesString (c : Char) : Bool := (String.utf8EncodeChar c).contains 0x9C

namespace Mode

/-- The mode behind an escape character and one more. -/
def ofEscaped (c : Char) : Mode :=
  if isIntermediate c then intermediate
  else if c == '[' then control
  else if c == ']' then command
  else if c == 'P' then device
  else if c == 'X' || c == '^' || c == '_' then string
  else if c < '\x7f' then text
  else escape

/-- The mode behind a character of a device control string up to its final character. -/
def ofDevice (c : Char) (parameter : Bool) (here : Mode) : Mode :=
  if isIntermediate c then deviceIntermediate
  else if isFinal c then string
  else if isParameter c || isPrivate c then
    if parameter then deviceParameters else string
  else here

/-- The mode behind a character, of those that neither open nor break off a sequence. -/
def next (m : Mode) (c : Char) : Mode :=
  match m with
  | text => text
  | string => if closesString c then text else string
  | command => if c == '\x07' then text else command
  | device => ofDevice c true device
  | deviceParameters => ofDevice c (isParameter c) deviceParameters
  | deviceIntermediate => ofDevice c false deviceIntermediate
  | escape =>
    if isSpace c then text else if isControl c then escape else ofEscaped c
  | intermediate =>
    if isSpace c then text
    else if isParameter c || isPrivate c || isFinal c then text
    else intermediate
  | control => if isSpace c || isFinal c then text else control

/-- Whether white space inside a sequence is shown, and so ends it. -/
def showsSpace : Mode → Bool
  | text | escape | intermediate | control => true
  | device | deviceParameters | deviceIntermediate | string | command => false

def shows (m : Mode) (c : Char) : Bool :=
  if m = text then isVisible c else isSpace c && m.showsSpace

end Mode

/-- What is visible of a text that starts in some mode. -/
def visibleFrom (m : Mode) : List Char → List Char
  | [] => []
  | c :: cs =>
    if isCancel c then visibleFrom .text cs
    else if c == escapeCharacter then visibleFrom .escape cs
    else if m.shows c then c :: visibleFrom (m.next c) cs
    else visibleFrom (m.next c) cs

/-- What is visible of a text. -/
def visible (cs : List Char) : List Char := visibleFrom .text cs

end AluBench.Text.Terminal
