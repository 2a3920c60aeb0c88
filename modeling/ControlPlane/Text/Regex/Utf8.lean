/-!
# UTF-8 byte ranges

The code points of a range, as UTF-8, are the byte strings of a few sequences of byte ranges,
each sequence a run of byte ranges of one length: the range is cut where the encoding changes
length, at the surrogates (which have no encoding), and where a leading byte changes while the
following bytes do not cover all their values. The sequences come out in ascending order.
-/

namespace ControlPlane
namespace Utf8

def encode (n : Nat) : List Nat :=
  if n < 0x80 then [n]
  else if n < 0x800 then [0xC0 + n / 64, 0x80 + n % 64]
  else if n < 0x10000 then [0xE0 + n / 4096, 0x80 + n / 64 % 64, 0x80 + n % 64]
  else [0xF0 + n / 262144, 0x80 + n / 4096 % 64, 0x80 + n / 64 % 64, 0x80 + n % 64]

def largest (n : Nat) : Nat :=
  if n = 1 then 0x7F else if n = 2 then 0x7FF else if n = 3 then 0xFFFF else 0x10FFFF

/-- The first length, of one to three bytes, whose largest code point lies within the range
without ending it. -/
def lengthCut (lo hi : Nat) : Option Nat :=
  [1, 2, 3].find? fun i => lo ≤ largest i ∧ largest i < hi

/-- The first cut of a range whose ends differ in the bits above the last `6 i` bits, for `i` of
one to three: where the lower end does not start a block of `2 ^ (6 i)` code points, the part up to
the end of its block; where the upper end does not close a block, the part before that block.
The result is the first part and the rest. -/
def blockCut (lo hi : Nat) : Option ((Nat × Nat) × (Nat × Nat)) :=
  [1, 2, 3].findSome? fun i =>
    let size := Nat.pow 2 (6 * i)
    if lo / size ≠ hi / size then
      if lo % size ≠ 0 then some ((lo, lo - lo % size + size - 1), (lo - lo % size + size, hi))
      else if hi % size ≠ size - 1 then some ((lo, hi - hi % size - 1), (hi - hi % size, hi))
      else none
    else none

/-- The sequences of the ranges on a stack, the top first, appended to `acc` reversed. Every step
either yields a sequence, drops an empty range or cuts a range in two smaller ones, so a few steps
for each code point length and block suffice for `fuel`. -/
def sequencesFrom : Nat → List (Nat × Nat) → List (List (Nat × Nat)) → List (List (Nat × Nat))
  | 0, _, acc => acc.reverse
  | _, [], acc => acc.reverse
  | fuel + 1, (lo, hi) :: stack, acc =>
    if lo < 0xE000 ∧ hi > 0xD7FF then
      sequencesFrom fuel ((lo, 0xD7FF) :: (0xE000, hi) :: stack) acc
    else if hi < lo then sequencesFrom fuel stack acc
    else match lengthCut lo hi with
      | some i => sequencesFrom fuel ((lo, largest i) :: (largest i + 1, hi) :: stack) acc
      | none =>
        if hi ≤ 0x7F then sequencesFrom fuel stack ([(lo, hi)] :: acc)
        else match blockCut lo hi with
          | some (first, rest) => sequencesFrom fuel (first :: rest :: stack) acc
          | none => sequencesFrom fuel stack ((List.zip (encode lo) (encode hi)) :: acc)

def sequences (lo hi : Nat) : List (List (Nat × Nat)) := sequencesFrom 200 [(lo, hi)] []

end Utf8
end ControlPlane
