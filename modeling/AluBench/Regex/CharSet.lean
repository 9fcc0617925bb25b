/-!
# Sets of characters

A set is a list of ranges in rising order with gaps between them. Characters stand in the order of
their code points, and `rank` counts them without the surrogates, which are no characters. A list
with one more range and the list of the gaps rise as well:

    Rising least ranges → Rising least (insertRange lo hi ranges)             (rising_insertRange)
    Rising least ranges → Rising least (gaps last least ranges)                      (rising_gaps)
-/

namespace AluBench.Regex

/-! ## Ranges -/

/-- The ranges rise from a rank on, with a gap behind every range. -/
def Rising (least : Nat) : List (Nat × Nat) → Prop
  | [] => True
  | (a, b) :: rest => least ≤ a ∧ a ≤ b ∧ Rising (b + 2) rest

/-- The list of ranges with one more, which swallows those that it meets. -/
def insertRange (lo hi : Nat) : List (Nat × Nat) → List (Nat × Nat)
  | [] => [(lo, hi)]
  | (a, b) :: rest =>
    if hi + 1 < a then (lo, hi) :: (a, b) :: rest
    else if b + 1 < lo then (a, b) :: insertRange lo hi rest
    else insertRange (min a lo) (max b hi) rest

/-- The gaps of a list of ranges from a rank up to another. -/
def gaps (last : Nat) (lo : Nat) : List (Nat × Nat) → List (Nat × Nat)
  | [] => if lo ≤ last then [(lo, last)] else []
  | (a, b) :: rest => if lo < a then (lo, a - 1) :: gaps last (b + 1) rest
    else gaps last (b + 1) rest

section

variable {least below lo hi last : Nat} {ranges : List (Nat × Nat)}

theorem Rising.mono (h : Rising least ranges) (hle : below ≤ least) : Rising below ranges := by
  cases ranges with
  | nil => trivial
  | cons r rest => exact ⟨Nat.le_trans hle h.1, h.2⟩

theorem rising_insertRange (h : Rising least ranges) (hlo : least ≤ lo) (hle : lo ≤ hi) :
    Rising least (insertRange lo hi ranges) := by
  induction ranges generalizing least lo hi with
  | nil => exact ⟨hlo, hle, trivial⟩
  | cons r rest ih =>
    obtain ⟨a, b⟩ := r
    obtain ⟨ha, hab, hrest⟩ := h
    unfold insertRange
    split
    · next hbefore => exact ⟨hlo, hle, hbefore, hab, hrest⟩
    · split
      · next hbehind => exact ⟨ha, hab, ih hrest hbehind hle⟩
      · exact ih (hrest.mono (by omega)) (by omega) (by omega)

theorem rising_gaps (h : Rising lo ranges) : Rising lo (gaps last lo ranges) := by
  induction ranges generalizing lo with
  | nil =>
    unfold gaps
    split
    · next hlast => exact ⟨Nat.le_refl lo, hlast, trivial⟩
    · trivial
  | cons r rest ih =>
    obtain ⟨a, b⟩ := r
    obtain ⟨ha, hab, hrest⟩ := h
    have hgaps : Rising (b + 1) (gaps last (b + 1) rest) := ih (hrest.mono (by omega))
    unfold gaps
    split
    · exact ⟨Nat.le_refl lo, by omega, hgaps.mono (by omega)⟩
    · exact hgaps.mono (by omega)

end

/-! ## Sets -/

structure CharSet where
  ranges : List (Nat × Nat)
  rising : Rising 0 ranges
  deriving DecidableEq, Repr, Hashable

namespace CharSet

/-- The number of characters before a character. -/
def rank (c : Char) : Nat := if c.toNat < 0xD800 then c.toNat else c.toNat - 0x800

/-- The rank of the last character. -/
def lastRank : Nat := 0x10F7FF

def empty : CharSet := ⟨[], trivial⟩

instance : Inhabited CharSet := ⟨empty⟩

def isEmpty (s : CharSet) : Bool := s.ranges.isEmpty

def hasRank (s : CharSet) (n : Nat) : Bool := s.ranges.any fun r => r.1 ≤ n && n ≤ r.2

def has (s : CharSet) (c : Char) : Bool := s.hasRank (rank c)

/-- The set with all characters between two ranks besides. There are none if `hi < lo`. -/
def insert (s : CharSet) (lo hi : Nat) : CharSet :=
  if h : lo ≤ hi then ⟨insertRange lo hi s.ranges, rising_insertRange s.rising (Nat.zero_le lo) h⟩
  else s

/-- The set of all characters of some ranges of ranks. -/
def ofRanges (ranges : List (Nat × Nat)) : CharSet :=
  ranges.foldl (fun s r => s.insert r.1 r.2) empty

/-- The characters from one to another. -/
def between (first last : Char) : CharSet := empty.insert (rank first) (rank last)

def singleton (c : Char) : CharSet := between c c

def union (s t : CharSet) : CharSet := t.ranges.foldl (fun s r => s.insert r.1 r.2) s

def complement (s : CharSet) : CharSet := ⟨gaps lastRank 0 s.ranges, rising_gaps s.rising⟩

def inter (s t : CharSet) : CharSet := (s.complement.union t.complement).complement

def diff (s t : CharSet) : CharSet := s.inter t.complement

def all : CharSet := empty.complement

/-- The part of a range between two ranks, moved. -/
def moved (r : Nat × Nat) (lo hi : Nat) (move : Nat → Nat) : List (Nat × Nat) :=
  if max r.1 lo ≤ min r.2 hi then [(move (max r.1 lo), move (min r.2 hi))] else []

/-- The set with both forms of every letter from `a` to `z` that it has in one of them. -/
def foldCase (s : CharSet) : CharSet :=
  s.union (ofRanges (s.ranges.flatMap fun r =>
    moved r 0x41 0x5A (· + 0x20) ++ moved r 0x61 0x7A (· - 0x20)))

/-- Whether every character is one of ASCII. -/
def isAscii (s : CharSet) : Bool := s.ranges.all (·.2 < 0x80)

/-- The one character of a set of one. -/
def only? (s : CharSet) : Option Nat :=
  match s.ranges with
  | [(a, b)] => if a == b then some a else none
  | _ => none

end CharSet

end AluBench.Regex
