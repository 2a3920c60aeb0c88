import ControlPlane.Text.CharSet

/-!
# Packed tables

Tables of character data are kept as text. A number is written in base 32, most significant digit
first, with the alphabet `0`–`9`, `A`–`Z`, `a`–`z`, `+`, `/`: the first 32 symbols are final
digits, and the last 32 stand for the same digits with more to follow. A list of ranges is packed
as alternating gaps and widths, a table of runs as alternating lengths and value indices.
-/

namespace ControlPlane
namespace Packed

def symbol (c : Char) : Nat :=
  if '0' ≤ c ∧ c ≤ '9' then c.toNat - '0'.toNat
  else if 'A' ≤ c ∧ c ≤ 'Z' then c.toNat - 'A'.toNat + 10
  else if 'a' ≤ c ∧ c ≤ 'z' then c.toNat - 'a'.toNat + 36
  else if c = '+' then 62
  else 63

def numbers (s : String) : List Nat :=
  (s.foldl (fun (done, cur) c =>
    let d := symbol c
    if d ≥ 32 then (done, cur * 32 + (d - 32)) else (done.push (cur * 32 + d), 0))
    ((#[] : Array Nat), 0)).1.toList

/-- Ranges from alternating gaps and widths: a range starts `gap` after the end of the one before
(the first at `gap`) and holds `width + 1` code points. -/
def rangesFrom : List Nat → Nat → List (Nat × Nat)
  | gap :: width :: rest, next => (next + gap, next + gap + width) :: rangesFrom rest (next + gap + width + 1)
  | _, _ => []

def ranges (s : String) : List (Nat × Nat) := rangesFrom (numbers s) 0

/-- Runs from alternating lengths and value indices, the first starting at `next`, as
`(first, last, value)`. -/
def runsFrom : List Nat → Nat → List (Nat × Nat × Nat)
  | len :: v :: rest, next => (next, next + len - 1, v) :: runsFrom rest (next + len)
  | _, _ => []

def runs (s : String) : List (Nat × Nat × Nat) := runsFrom (numbers s) 0

end Packed
end ControlPlane
