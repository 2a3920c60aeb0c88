import ControlPlane.Text.Regex.Basic
import ControlPlane.Text.Regex.Utf8
import Std.Data.HashMap

/-!
# The size of a compiled pattern

A pattern is only accepted when the two programs that search with it fit in 10 MiB each: the one
that runs forwards and records the capturing groups, and the one that runs backwards without them.
A program is a list of states, built part by part:

* the empty pattern, a condition, a group's start and end, a choice and the final state are one
  state each; a literal is a state for each of its UTF-8 bytes;
* a class is a state it leaves to and states that read bytes. An ASCII class reads one byte with a
  transition for each of its ranges. Otherwise the forward program reads the UTF-8 sequences of the
  class as a tree shared at its tails, built state by state as the sequences arrive in order, and
  reuses a state with the same transitions when a table of 10000 slots, found by hashing the
  transitions, still holds it. The backward program reads each sequence from its last byte, with a
  state for each byte range, sharing the states that a table of 1000 slots still holds for the same
  range and next state;
* repetitions are unrolled: `{n}` is `n` copies, `{n,m}` adds a choice and a copy for each optional
  one, `*` is a choice before or after one copy, `+` and `{n,}` end with a choice back to the last
  copy. A sequence links its parts, an alternation adds a choice and a state to leave by.

A program that does not start (forwards) or end (backwards) at the edge of the text begins with a
loop over any byte. Each state takes 32 bytes, each transition of a reading state 8 more and each
branch of a choice 4. Building stops as soon as the limit is passed, so unbounded copying never
runs long: every part adds at least one state.
-/

namespace ControlPlane
namespace Regex
namespace Size

def limit : Nat := 10 * Nat.pow 2 20

/-- A program being built: the number of its states and the bytes it takes. -/
structure Usage where
  states : Nat := 0
  bytes : Nat := 0

abbrev Build := StateT Usage (Except Unit)

def spend (n : Nat) : Build Unit := do
  let u ← get
  if u.bytes + n > limit then throw ()
  set { u with bytes := u.bytes + n }

def addState (extra : Nat) : Build Nat := do
  let u ← get
  let bytes := u.bytes + 32 + extra
  if bytes > limit then throw ()
  set ({ states := u.states + 1, bytes } : Usage)
  pure u.states

/-- A part of a program: the state it starts at, the state it leaves from, and whether that state
is a choice, which takes a branch for each state it leads to. -/
structure Piece where
  start : Nat
  exit : Nat
  choice : Bool

def link (p : Piece) : Build Unit := if p.choice then spend 4 else pure ()

def single : Build Piece := do
  let s ← addState 0
  pure ⟨s, s, false⟩

def hash (xs : List Nat) (slots : Nat) : Nat :=
  let h := xs.foldl (fun (h : UInt64) x => (h ^^^ x.toUInt64) * 1099511628211) 14695981039346656037
  (h % slots.toUInt64).toNat

abbrev Edge := Nat × Nat × Nat

/-- A state of the tree of sequences not yet added: its finished transitions, and the range of the
last one while the state it leads to is still open. -/
structure Node where
  edges : Array Edge := #[]
  pending : Option (Nat × Nat) := none
  deriving Inhabited

/-- The tree of sequences being built: the state every sequence leaves to, the open path from the
root, and the table of states already added. -/
structure Tree where
  target : Nat
  path : Array Node
  table : Std.HashMap Nat (Array Edge × Nat) := {}

abbrev TreeBuild := StateT Tree Build

def reading (edges : Array Edge) : TreeBuild Nat := do
  let slot := hash (edges.toList.flatMap fun (lo, hi, next) => [lo, hi, next]) 10000
  if let some (key, id) := (← get).table[slot]? then
    if key == edges then return id
  let id ← (addState (8 * edges.size) : Build Nat)
  modify fun t => { t with table := t.table.insert slot (edges, id) }
  pure id

def Node.close (n : Node) (next : Nat) : Array Edge :=
  match n.pending with
  | some (lo, hi) => n.edges.push (lo, hi, next)
  | none => n.edges

/-- Add the states of the open path below the first `keep + 1` nodes, deepest first, and lead the
last kept node to them. -/
def closeFrom (keep : Nat) : Nat → Nat → TreeBuild Unit
  | fuel + 1, next => do
    let path := (← get).path
    if keep + 1 < path.size then
      let node := path.back!
      modify fun t => { t with path := t.path.pop }
      let id ← reading (node.close next)
      closeFrom keep fuel id
    else
      modify fun t => { t with path := t.path.modify (t.path.size - 1) fun n => ⟨n.close next, none⟩ }
  | 0, _ => pure ()

def sharedLead (path : Array Node) (seq : List (Nat × Nat)) : Nat :=
  ((seq.zip path.toList).takeWhile fun (r, n) => n.pending == some r).length

def addSequence (seq : List (Nat × Nat)) : TreeBuild Unit := do
  let t ← get
  let keep := sharedLead t.path seq
  closeFrom keep t.path.size t.target
  match seq.drop keep with
  | [] => pure ()
  | first :: rest =>
    modify fun t => { t with
      path := (t.path.modify (t.path.size - 1) fun n => { n with pending := some first }) ++
        (rest.map fun r => ({ pending := some r } : Node)).toArray }

def forwardClass (s : CharSet) : Build Piece := do
  let target ← addState 0
  let tree : Tree := { target, path := #[{}] }
  let (start, _) ← (do
      for (lo, hi) in s.ranges do
        for seq in Utf8.sequences lo hi do
          addSequence seq
      closeFrom 0 (← get).path.size target
      reading ((← get).path[0]?.map (·.edges) |>.getD #[]) : TreeBuild Nat).run tree
  pure ⟨start, target, false⟩

/-- The backward program of a class past ASCII: each UTF-8 sequence read from its last byte,
sharing the states the table still holds. -/
def backwardClass (s : CharSet) : Build Piece := do
  let choice ← addState 0
  let exit ← addState 0
  let mut table : Std.HashMap Nat ((Nat × Nat × Nat) × Nat) := {}
  for (lo, hi) in s.ranges do
    for seq in Utf8.sequences lo hi do
      let mut next := exit
      for (a, b) in seq do
        let key := (next, a, b)
        let slot := hash [next, a, b] 1000
        match table[slot]? with
        | some (k, id) =>
          if k == key then
            next := id
            continue
        | none => pure ()
        let id ← addState 0
        table := table.insert slot (key, id)
        next := id
      spend 4
  pure ⟨choice, exit, false⟩

def classPiece (backward bytes : Bool) (s : CharSet) : Build Piece := do
  if bytes || s.isAscii then
    let exit ← addState 0
    let start ← addState (8 * s.ranges.length)
    pure ⟨start, exit, false⟩
  else if backward then backwardClass s
  else forwardClass s

def copies (sub : Build Piece) : Nat → Option Piece → Build (Option Piece)
  | 0, acc => pure acc
  | n + 1, acc => do
    let p ← sub
    let acc ← match acc with
      | none => pure p
      | some a => do
        link a
        pure ⟨a.start, p.exit, p.choice⟩
    copies sub n (some acc)

def exactly (sub : Build Piece) (n : Nat) : Build Piece := do
  match ← copies sub n none with
  | some p => pure p
  | none => single

/-- `n` optional copies after a part that leaves from `prev`, each behind a choice that may skip
to `exit`. -/
def optionalCopies (sub : Build Piece) : Nat → Piece → Build Piece
  | 0, prev => pure prev
  | n + 1, prev => do
    let _ ← addState 0
    let p ← sub
    link prev
    spend 8
    optionalCopies sub n p

def repetition (sub : Build Piece) (subMin : Option Nat) (min : Nat) (max : Option Nat) :
    Build Piece :=
  match min, max with
  | 0, some 1 => do
    let choice ← addState 0
    let p ← sub
    let exit ← addState 0
    spend 8
    link p
    pure ⟨choice, exit, false⟩
  | 0, none =>
    if (subMin.getD 0) > 0 then do
      let choice ← addState 0
      let p ← sub
      spend 4
      link p
      pure ⟨choice, choice, true⟩
    else do
      let p ← sub
      let _ ← addState 0
      link p
      spend 4
      let choice ← addState 0
      let exit ← addState 0
      spend 12
      pure ⟨choice, exit, false⟩
  | 1, none => do
    let p ← sub
    let choice ← addState 0
    link p
    spend 4
    pure ⟨p.start, choice, true⟩
  | n + 2, none => do
    let first ← exactly sub (n + 1)
    let last ← sub
    let choice ← addState 0
    link first
    link last
    spend 4
    pure ⟨first.start, choice, true⟩
  | min, some max => do
    let first ← exactly sub min
    if min = max then return first
    let exit ← addState 0
    let last ← optionalCopies sub (max - min) first
    link last
    pure ⟨first.start, exit, false⟩

mutual
/-- The program of a pattern; `backward` for the backward program, `groups` to record the
capturing groups. -/
def piece (backward groups : Bool) : Regex → Build Piece
  | .empty => single
  | .literal cs => do
    let n := (cs.map Char.utf8Size).sum
    let first ← addState 0
    for _ in [1:n] do
      let _ ← addState 0
    pure ⟨first, first + n - 1, false⟩
  | .chars bytes s => classPiece backward bytes s
  | .look _ => single
  | .rep r min max _ => repetition (piece backward groups r) (minLen r) min max
  | .group _ r =>
    if groups then do
      let s ← addState 0
      let p ← piece backward groups r
      let e ← addState 0
      link p
      pure ⟨s, e, false⟩
    else piece backward groups r
  | .seq rs => do
    let some p ← (if backward then seqBackward backward groups rs else seqForward backward groups rs)
      | single
    pure p
  | .alt rs => do
    let (ps, joint) ← branches backward groups 0 rs
    for p in ps do
      spend 4
      link p
    match joint, ps with
    | some choice, _ => pure ⟨choice, choice + 1, false⟩
    | none, [p] => pure p
    | none, _ => single

def seqForward (backward groups : Bool) : List Regex → Build (Option Piece)
  | [] => pure none
  | r :: rs => do
    let p ← piece backward groups r
    match ← seqForward backward groups rs with
    | none => pure (some p)
    | some q => do
      link p
      pure (some ⟨p.start, q.exit, q.choice⟩)

def seqBackward (backward groups : Bool) : List Regex → Build (Option Piece)
  | [] => pure none
  | r :: rs => do
    let q? ← seqBackward backward groups rs
    let p ← piece backward groups r
    match q? with
    | none => pure (some p)
    | some q => do
      link q
      pure (some ⟨q.start, p.exit, p.choice⟩)

/-- The branches of an alternation in order; after the second, the choice and the state to leave
by are added. -/
def branches (backward groups : Bool) (seen : Nat) : List Regex → Build (List Piece × Option Nat)
  | [] => pure ([], none)
  | r :: rs => do
    let p ← piece backward groups r
    let joint ← if seen = 1 then do
        let choice ← addState 0
        let _ ← addState 0
        pure (some choice)
      else pure none
    let (ps, later) ← branches backward groups (seen + 1) rs
    pure (p :: ps, joint <|> later)
end

/-- The whole program: a loop over any byte unless anchored, the pattern (inside the group of the
whole match when recording groups) and the final state. -/
def program (backward groups anchored : Bool) (r : Regex) : Build Unit := do
  let lead ← if anchored then single
    else repetition (classPiece backward true CharSet.all) (some 1) 0 none
  let body ← if groups then do
      let s ← addState 0
      let p ← piece backward groups r
      let e ← addState 0
      link p
      pure (⟨s, e, false⟩ : Piece)
    else piece backward groups r
  let _ ← addState 0
  link body
  link lead

def fits (r : Regex) : Bool :=
  ((program false true (startAnchored r) r).run {}).toBool &&
    ((program true false (endAnchored r) r).run {}).toBool

end Size
end Regex
end ControlPlane
