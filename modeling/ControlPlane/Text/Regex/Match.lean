import ControlPlane.Text.Regex.Basic
import ControlPlane.Text.Property

/-!
# Matching

Matching looks for the pattern anywhere in the text. It computes the set of positions where a
match of a sub-pattern can end, given the set of positions where it may start. A repetition
applies its body at most one more time than the text has characters: a longer chain of steps
must stand still somewhere, and a step that stands still can be repeated or left out, so more
steps reach no other positions. Every loop is bounded, and matching is total.
-/

namespace ControlPlane
namespace Regex

def merge : List Nat → List Nat → List Nat
  | [], ys => ys
  | xs, [] => xs
  | x :: xs, y :: ys =>
    if x < y then x :: merge xs (y :: ys)
    else if y < x then y :: merge (x :: xs) ys
    else x :: merge xs ys

def minus (xs ys : List Nat) : List Nat := xs.filter (fun x => !ys.contains x)

def isWord (unicode : Bool) (c : Char) : Bool :=
  if unicode then Property.word.contains c else CharSet.asciiWord.contains c

def wordBefore (unicode : Bool) (s : Array Char) (i : Nat) : Bool :=
  i != 0 && (s[i - 1]?.map (isWord unicode)).getD false

def wordAfter (unicode : Bool) (s : Array Char) (i : Nat) : Bool :=
  (s[i]?.map (isWord unicode)).getD false

def holds (s : Array Char) (i : Nat) : Look → Bool
  | .textStart => i == 0
  | .textEnd => i == s.size
  | .lineStart crlf =>
    i == 0 || s[i - 1]? == some '\n' || (crlf && s[i - 1]? == some '\r' && s[i]? != some '\n')
  | .lineEnd crlf =>
    i == s.size || s[i]? == some '\n' && !(crlf && i != 0 && s[i - 1]? == some '\r') ||
      (crlf && s[i]? == some '\r')
  | .wordBoundary u => wordBefore u s i != wordAfter u s i
  | .notWordBoundary u => wordBefore u s i == wordAfter u s i
  | .wordStart u => !wordBefore u s i && wordAfter u s i
  | .wordEnd u => wordBefore u s i && !wordAfter u s i
  | .wordStartHalf u => !wordBefore u s i
  | .wordEndHalf u => !wordAfter u s i

def iterate (f : List Nat → List Nat) : Nat → List Nat → List Nat
  | 0, ps => ps
  | n + 1, ps => iterate f n (f ps)

def grow (f : List Nat → List Nat) : Nat → List Nat → List Nat → List Nat
  | 0, acc, _ => acc
  | fuel + 1, acc, frontier =>
    let fresh := minus (f frontier) acc
    if fresh.isEmpty then acc else grow f fuel (merge acc fresh) fresh

def literalEnds (s : Array Char) (cs : List Char) (ps : List Nat) : List Nat :=
  ps.filterMap fun i => if (List.range cs.length).all (fun k => s[i + k]? == cs[k]?) then some (i + cs.length) else none

mutual
/-- The positions where a match of the pattern can end, for matches starting at `starts` (an
ascending list). A repetition's body is applied at most one more time than the text has
characters, since more steps reach no other positions. -/
def ends (s : Array Char) : Regex → List Nat → List Nat
  | .empty, ps => ps
  | .literal cs, ps => literalEnds s cs ps
  | .chars _ set, ps =>
    ps.filterMap fun i => match s[i]? with
      | some c => if set.contains c then some (i + 1) else none
      | none => none
  | .look l, ps => ps.filter (holds s · l)
  | .rep r lo hi _, ps =>
    let base := iterate (fun qs => ends s r qs) (min lo (s.size + 1)) ps
    let more := match hi with
      | none => s.size + 1
      | some h => min (h - lo) (s.size + 1)
    grow (fun qs => ends s r qs) more base base
  | .group _ r, ps => ends s r ps
  | .seq rs, ps => endsSeq s rs ps
  | .alt rs, ps => endsAlt s rs ps

def endsSeq (s : Array Char) : List Regex → List Nat → List Nat
  | [], ps => ps
  | r :: rs, ps => endsSeq s rs (ends s r ps)

def endsAlt (s : Array Char) : List Regex → List Nat → List Nat
  | [], _ => []
  | r :: rs, ps => merge (ends s r ps) (endsAlt s rs ps)
end

def search (r : Regex) (text : String) : Bool :=
  let s := text.toList.toArray
  !(ends s r (List.range (s.size + 1))).isEmpty

end Regex
end ControlPlane
