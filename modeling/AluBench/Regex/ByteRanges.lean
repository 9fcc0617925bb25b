import AluBench.Regex.CharSet

/-!
# Encoded ranges

The UTF-8 forms of a set of characters, as sequences of byte ranges: one sequence stands for all
encodings whose bytes lie in its ranges, byte by byte. Only the bits that a byte carries are split
here; the marks that tell the bytes of an encoding apart are added to them.
-/

namespace AluBench.Regex

/-- A sequence of byte ranges. -/
abbrev ByteRanges := List (Nat × Nat)

namespace ByteRanges

/-- The numbers that some trailing bytes carry, six bits each. -/
def capacity : Nat → Nat
  | 0 => 1
  | n + 1 => 64 * capacity n

/-- The numbers of a range, as a leading digit and some digits of six bits. -/
def split : Nat → Nat → Nat → List ByteRanges
  | 0, lo, hi => [[(lo, hi)]]
  | n + 1, lo, hi =>
    let block := capacity (n + 1)
    let first := lo / block
    let last := hi / block
    let within (lead : Nat × Nat) (lo hi : Nat) : List ByteRanges :=
      (split n (lo % block) (hi % block)).map (lead :: ·)
    if first == last then within (first, first) lo hi
    else
      let cutFront := lo % block != 0
      let cutBack := hi % block != block - 1
      let front := if cutFront then within (first, first) lo (block - 1) else []
      let back := if cutBack then within (last, last) 0 hi else []
      let first := if cutFront then first + 1 else first
      let last := if cutBack then last - 1 else last
      let middle := if first ≤ last then within (first, last) 0 (block - 1) else []
      front ++ middle ++ back

/-- The mark of a leading byte with some trailing bytes behind it. -/
def leadMark : Nat → Nat
  | 0 => 0
  | 1 => 0xC0
  | 2 => 0xE0
  | _ => 0xF0

/-- The digits with the marks of their bytes. -/
def mark (trailing : Nat) : ByteRanges → ByteRanges
  | [] => []
  | (lo, hi) :: rest =>
    (lo + leadMark trailing, hi + leadMark trailing)
      :: rest.map fun (lo, hi) => (lo + 0x80, hi + 0x80)

/-- The code points that take a number of trailing bytes; the surrogates lie between two parts. -/
def blocks : List (Nat × Nat × Nat) :=
  [(0, 0x00, 0x7F), (1, 0x80, 0x7FF), (2, 0x800, 0xD7FF), (2, 0xE000, 0xFFFF),
    (3, 0x10000, 0x10FFFF)]

/-- The code point of a rank. -/
def codePoint (rank : Nat) : Nat := if rank < 0xD800 then rank else rank + 0x800

/-- The encodings of the characters between two ranks. -/
def ofRange (lo hi : Nat) : List ByteRanges :=
  blocks.flatMap fun (trailing, first, last) =>
    let lo := max (codePoint lo) first
    let hi := min (codePoint hi) last
    if lo ≤ hi then (split trailing lo hi).map (mark trailing) else []

/-- The encodings of a set. -/
def ofSet (s : CharSet) : List ByteRanges := s.ranges.flatMap fun r => ofRange r.1 r.2

/-- What may follow the ranges that sequences start with, one entry for each of those. -/
def branches (sequences : List ByteRanges) : List (List ByteRanges) :=
  (sequences.filterMap List.head?).eraseDups.map fun lead =>
    (sequences.filter (·.head? == some lead)).map (List.drop 1)

/-- All that can be left to read of sequences of at most some length: the states of the smallest
automaton that reads them forwards, but for the last. -/
def states : Nat → List ByteRanges → List (List ByteRanges)
  | 0, _ => []
  | n + 1, sequences =>
    if sequences.all (·.isEmpty) then []
    else sequences :: (branches sequences).flatMap (states n)

/-- The beginnings of sequences, themselves included. -/
def beginnings (sequences : List ByteRanges) : List ByteRanges :=
  sequences.flatMap fun s => (List.range s.length).map fun n => s.take (n + 1)

end ByteRanges

end AluBench.Regex
