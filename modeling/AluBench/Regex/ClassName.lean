import AluBench.Regex.CharSet

/-!
# Named classes

The POSIX classes of ASCII characters. `\d`, `\s` and `\w` stand for three of them.
-/

namespace AluBench.Regex

inductive ClassName where
  | alnum | alpha | ascii | blank | cntrl | digit | graph | lower | print | punct | space | upper
  | word | xdigit
  deriving DecidableEq, Repr, Inhabited

namespace ClassName

def all : List ClassName :=
  [alnum, alpha, ascii, blank, cntrl, digit, graph, lower, print, punct, space, upper, word, xdigit]

def name : ClassName → String
  | alnum => "alnum"
  | alpha => "alpha"
  | ascii => "ascii"
  | blank => "blank"
  | cntrl => "cntrl"
  | digit => "digit"
  | graph => "graph"
  | lower => "lower"
  | print => "print"
  | punct => "punct"
  | space => "space"
  | upper => "upper"
  | word => "word"
  | xdigit => "xdigit"

def ofName? (name : List Char) : Option ClassName := all.find? (·.name.toList == name)

def ranges : ClassName → List (Char × Char)
  | alnum => [('0', '9'), ('A', 'Z'), ('a', 'z')]
  | alpha => [('A', 'Z'), ('a', 'z')]
  | ascii => [('\x00', '\x7f')]
  | blank => [('\t', '\t'), (' ', ' ')]
  | cntrl => [('\x00', '\x1f'), ('\x7f', '\x7f')]
  | digit => [('0', '9')]
  | graph => [('!', '~')]
  | lower => [('a', 'z')]
  | print => [(' ', '~')]
  | punct => [('!', '/'), (':', '@'), ('[', '\x60'), ('\x7b', '~')]
  | space => [('\t', '\r'), (' ', ' ')]
  | upper => [('A', 'Z')]
  | word => [('0', '9'), ('A', 'Z'), ('_', '_'), ('a', 'z')]
  | xdigit => [('0', '9'), ('A', 'F'), ('a', 'f')]

def set (n : ClassName) : CharSet :=
  .ofRanges (n.ranges.map fun r => (CharSet.rank r.1, CharSet.rank r.2))

/-- The class that a letter behind a backslash stands for. -/
def ofShorthand? : Char → Option ClassName
  | 'd' => some digit
  | 's' => some space
  | 'w' => some word
  | _ => none

end ClassName

end AluBench.Regex
