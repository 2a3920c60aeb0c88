/-!
# Sets of characters

A set of characters is a list of ranges of code points, ascending, disjoint and with a gap
between neighbours. Every operation keeps that form, so two sets with the same members are the
same list. Union merges the two lists and joins ranges that overlap or touch; complement takes the
gaps within all code points; intersection and differences are written with union and complement.
-/

namespace ControlPlane

/-- Characters as ranges of code points: ascending, disjoint and not adjacent. -/
structure CharSet where
  ranges : List (Nat × Nat)
  deriving Repr, Inhabited, BEq

namespace CharSet

def maxCode : Nat := 0x10FFFF

/-- Join a range with the ranges after it, all sorted by their first code point, where they
overlap or touch. -/
def joinSorted (cur : Nat × Nat) : List (Nat × Nat) → List (Nat × Nat)
  | [] => [cur]
  | (lo, hi) :: rest =>
    if lo ≤ cur.2 + 1 then joinSorted (cur.1, max cur.2 hi) rest else cur :: joinSorted (lo, hi) rest

def ofSorted : List (Nat × Nat) → CharSet
  | [] => ⟨[]⟩
  | r :: rest => ⟨joinSorted r rest⟩

def mergeByStart : List (Nat × Nat) → List (Nat × Nat) → List (Nat × Nat)
  | [], ys => ys
  | xs, [] => xs
  | x :: xs, y :: ys =>
    if x.1 ≤ y.1 then x :: mergeByStart xs (y :: ys) else y :: mergeByStart (x :: xs) ys

def empty : CharSet := ⟨[]⟩

def all : CharSet := ⟨[(0, maxCode)]⟩

/-- The set of the ranges given as pairs of characters; a pair whose ends are out of order is
empty. -/
def ofRanges (rs : List (Char × Char)) : CharSet :=
  let sorted := (rs.filter fun (lo, hi) => lo.toNat ≤ hi.toNat).map fun (lo, hi) => (lo.toNat, hi.toNat)
  ofSorted ((sorted.toArray.qsort fun a b => a.1 < b.1).toList)

def single (c : Char) : CharSet := ⟨[(c.toNat, c.toNat)]⟩

def has (s : CharSet) (n : Nat) : Bool :=
  s.ranges.any fun (lo, hi) => lo ≤ n && n ≤ hi

def contains (s : CharSet) (c : Char) : Bool := s.has c.toNat

def union (a b : CharSet) : CharSet := ofSorted (mergeByStart a.ranges b.ranges)

def gaps (next : Nat) : List (Nat × Nat) → List (Nat × Nat)
  | [] => if next ≤ maxCode then [(next, maxCode)] else []
  | (lo, hi) :: rest => (if next < lo then [(next, lo - 1)] else []) ++ gaps (hi + 1) rest

def complement (s : CharSet) : CharSet := ⟨gaps 0 s.ranges⟩

def inter (a b : CharSet) : CharSet := complement (union (complement a) (complement b))

def diff (a b : CharSet) : CharSet := inter a (complement b)

def symmDiff (a b : CharSet) : CharSet := union (diff a b) (diff b a)

def isAscii (s : CharSet) : Bool := s.ranges.all fun (_, hi) => hi < 128

def asciiDigit : CharSet := ofRanges [('0', '9')]

def asciiWord : CharSet := ofRanges [('0', '9'), ('A', 'Z'), ('_', '_'), ('a', 'z')]

def asciiSpace : CharSet := ofRanges [('\t', '\r'), (' ', ' ')]

/-- The part of the range from `lo` to `hi` within `fromCode` to `toCode`, moved to start at
`onto`. -/
def shifted (lo hi fromCode toCode onto : Nat) : List (Nat × Nat) :=
  let a := max lo fromCode
  let b := min hi toCode
  if a ≤ b then [(a - fromCode + onto, b - fromCode + onto)] else []

def asciiFold (s : CharSet) : CharSet :=
  let extra := s.ranges.flatMap fun (lo, hi) => shifted lo hi 0x41 0x5A 0x61 ++ shifted lo hi 0x61 0x7A 0x41
  s.union (ofSorted ((extra.toArray.qsort fun a b => a.1 < b.1).toList))

end CharSet
end ControlPlane
