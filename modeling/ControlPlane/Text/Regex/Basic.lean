import ControlPlane.Text.CharSet

/-!
# Regular expressions in normal form

Reading a pattern builds a tree in a normal form, the one a pattern's meaning is compiled from:

* a class with one character is a literal, and a class with none is the class that never matches,
  a byte class;
* a sequence has at least two parts, no empty part, no sequence as a part and no two literals
  side by side;
* an alternation has at least two branches and no alternation as a branch; branches that are all
  single characters or all classes are one class, and a first part common to every branch is taken
  out in front;
* a repetition of a pattern that only matches the empty text repeats at most once, `{0}` is the
  empty pattern and `{1}` the pattern itself.

A class remembers whether it was read with Unicode off (a byte class); byte classes hold ASCII
characters only, apart from the class that never matches. Literals and classes have lengths in
UTF-8 bytes, and the smallest and largest lengths of a pattern are computed from them.
-/

namespace ControlPlane

/-- A condition on the text around a position. Word conditions take word characters in the
Unicode sense or in the ASCII sense. -/
inductive Look where
  | textStart
  | textEnd
  | lineStart (crlf : Bool)
  | lineEnd (crlf : Bool)
  | wordBoundary (unicode : Bool)
  | notWordBoundary (unicode : Bool)
  | wordStart (unicode : Bool)
  | wordEnd (unicode : Bool)
  | wordStartHalf (unicode : Bool)
  | wordEndHalf (unicode : Bool)
  deriving Repr, Inhabited, BEq

/-- A regular expression. -/
inductive Regex where
  | empty
  | literal (cs : List Char)
  | chars (bytes : Bool) (s : CharSet)
  | look (l : Look)
  | rep (r : Regex) (min : Nat) (max : Option Nat) (greedy : Bool)
  | group (index : Nat) (r : Regex)
  | seq (rs : List Regex)
  | alt (rs : List Regex)
  deriving Repr, Inhabited, BEq

namespace Regex

def utf8Width (n : Nat) : Nat :=
  if n < 0x80 then 1 else if n < 0x800 then 2 else if n < 0x10000 then 3 else 4

def never : Regex := .chars true CharSet.empty

mutual
def minLen : Regex → Option Nat
  | .empty => some 0
  | .literal cs => some (cs.map Char.utf8Size).sum
  | .chars bytes s => match s.ranges with
    | [] => none
    | (lo, _) :: _ => some (if bytes then 1 else utf8Width lo)
  | .look _ => some 0
  | .rep r min _ _ => (minLen r).map (· * min)
  | .group _ r => minLen r
  | .seq rs => minLenSeq rs
  | .alt rs => minLenAlt rs

def minLenSeq : List Regex → Option Nat
  | [] => some 0
  | r :: rs => match minLen r, minLenSeq rs with
    | some a, some b => some (a + b)
    | _, _ => none

def minLenAlt : List Regex → Option Nat
  | [] => none
  | [r] => minLen r
  | r :: rs => match minLen r, minLenAlt rs with
    | some a, some b => some (Nat.min a b)
    | _, _ => none
end

mutual
def maxLen : Regex → Option Nat
  | .empty => some 0
  | .literal cs => some (cs.map Char.utf8Size).sum
  | .chars bytes s => match s.ranges.getLast? with
    | none => none
    | some (_, hi) => some (if bytes then 1 else utf8Width hi)
  | .look _ => some 0
  | .rep r _ max _ => max.bind fun m => (maxLen r).map (· * m)
  | .group _ r => maxLen r
  | .seq rs => maxLenSeq rs
  | .alt rs => maxLenAlt rs

def maxLenSeq : List Regex → Option Nat
  | [] => some 0
  | r :: rs => match maxLen r, maxLenSeq rs with
    | some a, some b => some (a + b)
    | _, _ => none

def maxLenAlt : List Regex → Option Nat
  | [] => none
  | [r] => maxLen r
  | r :: rs => match maxLen r, maxLenAlt rs with
    | some a, some b => some (Nat.max a b)
    | _, _ => none
end

mutual
def startAnchored : Regex → Bool
  | .look l => l == .textStart
  | .rep r min _ _ => min > 0 && startAnchored r
  | .group _ r => startAnchored r
  | .seq rs => startAnchoredSeq rs
  | .alt rs => startAnchoredAlt rs
  | _ => false

def startAnchoredSeq : List Regex → Bool
  | [] => false
  | r :: rs => startAnchored r || (maxLen r == some 0 && startAnchoredSeq rs)

def startAnchoredAlt : List Regex → Bool
  | [] => true
  | r :: rs => startAnchored r && startAnchoredAlt rs
end

mutual
def endAnchored : Regex → Bool
  | .look l => l == .textEnd
  | .rep r min _ _ => min > 0 && endAnchored r
  | .group _ r => endAnchored r
  | .seq rs => endAnchoredSeq rs
  | .alt rs => endAnchoredAlt rs
  | _ => false

def endAnchoredSeq : List Regex → Bool
  | [] => false
  | r :: rs => endAnchoredSeq rs || (maxLenSeq rs == some 0 && endAnchored r)

def endAnchoredAlt : List Regex → Bool
  | [] => true
  | r :: rs => endAnchored r && endAnchoredAlt rs
end

def ofClass (bytes : Bool) (s : CharSet) : Regex :=
  match s.ranges with
  | [] => never
  | [(lo, hi)] => if lo = hi then .literal [Char.ofNat lo] else .chars bytes s
  | _ => .chars bytes s

/-- A repetition. A pattern that only matches the empty text repeats at most once; no repetition
is the empty pattern, and exactly one the pattern itself. -/
def repetition (r : Regex) (min : Nat) (max : Option Nat) (greedy : Bool) : Regex :=
  let (min, max) :=
    if maxLen r == some 0 then (Nat.min min 1, some ((max.map (Nat.min · 1)).getD 1)) else (min, max)
  if min = 0 ∧ max = some 0 then .empty
  else if min = 1 ∧ max = some 1 then r
  else .rep r min max greedy

def spread (rs : List Regex) : List Regex :=
  rs.flatMap fun r => match r with
    | .seq xs => xs
    | .empty => []
    | r => [r]

def joinLiterals (rs : List Regex) : List Regex :=
  rs.foldr (fun r acc => match r, acc with
    | .literal a, .literal b :: rest => .literal (a ++ b) :: rest
    | r, acc => r :: acc) []

def concat (rs : List Regex) : Regex :=
  match joinLiterals (spread rs) with
  | [] => .empty
  | [r] => r
  | rs => .seq rs

def singletons : List Regex → Option (List Char)
  | [] => some []
  | .literal [c] :: rest => (singletons rest).map (c :: ·)
  | _ => none

def classUnion : List Regex → Option CharSet
  | [] => some CharSet.empty
  | .chars _ s :: rest => (classUnion rest).map s.union
  | _ => none

def sharedLength : List Regex → List Regex → Nat
  | a :: as, b :: bs => if a == b then sharedLength as bs + 1 else 0
  | _, _ => 0

def seqParts : List Regex → Option (List (List Regex))
  | [] => some []
  | .seq xs :: rest => (seqParts rest).map (xs :: ·)
  | _ => none

/-- An alternation in normal form. Taking out a common first part leaves branches with fewer nodes
in all, so `fuel` at least the number of nodes of the branches suffices. -/
def alternationWith : Nat → List Regex → Regex
  | fuel, rs =>
    let flat := rs.flatMap fun r => match r with
      | .alt xs => xs
      | r => [r]
    match flat with
    | [] => never
    | [r] => r
    | _ =>
      match singletons flat with
      | some cs => ofClass false (CharSet.ofRanges (cs.map fun c => (c, c)))
      | none =>
      match classUnion flat with
      | some s => ofClass false s
      | none =>
      match fuel, seqParts flat with
      | fuel + 1, some (first :: others) =>
        let k := others.foldl (fun k xs => Nat.min k (sharedLength first xs)) first.length
        if k = 0 then .alt flat
        else concat (first.take k ++ [alternationWith fuel ((first :: others).map fun xs => concat (xs.drop k))])
      | _, _ => .alt flat

mutual
def weight : Regex → Nat
  | .rep r _ _ _ => weight r + 1
  | .group _ r => weight r + 1
  | .seq rs => weightList rs + 1
  | .alt rs => weightList rs + 1
  | _ => 1

def weightList : List Regex → Nat
  | [] => 0
  | r :: rs => weight r + weightList rs
end

def alternation (rs : List Regex) : Regex := alternationWith (weightList rs + 1) rs

end Regex
end ControlPlane
