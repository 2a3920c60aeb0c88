import ControlPlane.Smt.Term
import Std.Data.HashMap

/-!
# Folding constructors

Every way of building a compound term goes through one of these functions. They fold literal
arguments, drop neutral elements, splice nested conjunctions and disjunctions, and collapse an
if-then-else whose branches are the same term. A constructor that creates new nodes numbers them
`n` and `n + 1`; the caller hands out fresh numbers (`Build` does).
-/

namespace ControlPlane
namespace Term

def mkNot (n : Nat) : Term → Term
  | .bool b => .bool (!b)
  | .neg _ x => x
  | t => .neg n t

/-- Arguments of a conjunction: `true` dropped, nested conjunctions spliced in, and `none` as soon
as an argument is `false`. -/
def conjArgs : List Term → Option (List Term)
  | [] => some []
  | .bool true :: ts => conjArgs ts
  | .bool false :: _ => none
  | .conj _ inner :: ts => (conjArgs ts).map (inner ++ ·)
  | t :: ts => (conjArgs ts).map (t :: ·)

/-- Arguments of a disjunction: `false` dropped, nested disjunctions spliced in, and `none` as
soon as an argument is `true`. -/
def disjArgs : List Term → Option (List Term)
  | [] => some []
  | .bool false :: ts => disjArgs ts
  | .bool true :: _ => none
  | .disj _ inner :: ts => (disjArgs ts).map (inner ++ ·)
  | t :: ts => (disjArgs ts).map (t :: ·)

def mkAndAll (n : Nat) (ts : List Term) : Term :=
  match conjArgs ts with
  | none => ff
  | some [] => tt
  | some [t] => t
  | some args => .conj n args

def mkOrAll (n : Nat) (ts : List Term) : Term :=
  match disjArgs ts with
  | none => tt
  | some [] => ff
  | some [t] => t
  | some args => .disj n args

def mkImplies (n : Nat) (a b : Term) : Term :=
  match a.asBool?, b.asBool? with
  | some false, _ => tt
  | _, some true => tt
  | some true, _ => b
  | _, some false => mkNot n a
  | _, _ => .imp n a b

def mkIte (n : Nat) (c t e : Term) : Term :=
  match c.asBool? with
  | some true => t
  | some false => e
  | none =>
    if t.same e then t
    else match t.asBool?, e.asBool? with
      | some true, some false => c
      | some false, some true => mkNot n c
      | some true, none => mkOrAll n [c, e]
      | some false, none => mkAndAll (n + 1) [mkNot n c, e]
      | none, some true => mkOrAll (n + 1) [mkNot n c, t]
      | none, some false => mkAndAll n [c, t]
      | _, _ => .cond n c t e

def mkEq (n : Nat) (a b : Term) : Term :=
  if a.same b then tt
  else if a.isLit && b.isLit then ff
  else match a.asBool?, b.asBool? with
    | some true, _ => b
    | some false, _ => mkNot n b
    | _, some true => a
    | _, some false => mkNot n a
    | _, _ => .eq n a b

def mkLt (n : Nat) (a b : Term) : Term :=
  match a.asInt?, b.asInt? with
  | some x, some y => .bool (decide (x < y))
  | _, _ => if a.same b then ff else .lt n a b

def mkLe (n : Nat) (a b : Term) : Term :=
  match a.asInt?, b.asInt? with
  | some x, some y => .bool (decide (x ≤ y))
  | _, _ => if a.same b then tt else .le n a b

def mkAdd (n : Nat) (a b : Term) : Term :=
  match a.asInt?, b.asInt? with
  | some x, some y => .int (saturate (x + y))
  | _, some 0 => a
  | some 0, _ => b
  | _, _ => .add n a b

def mkSub (n : Nat) (a b : Term) : Term :=
  match a.asInt?, b.asInt? with
  | some x, some y => .int (saturate (x - y))
  | _, some 0 => a
  | _, _ => .sub n a b

def mkBvAnd (n : Nat) (a b : Term) : Term :=
  match a, b with
  | .bv x w, .bv y _ => mkBv (x &&& y) w
  | _, _ => .bvAnd n a b

def mkBvUle (n : Nat) (a b : Term) : Term :=
  match a.asBv?, b.asBv? with
  | some x, some y => .bool (decide (x ≤ y))
  | _, _ => .bvUle n a b

/-- State of a simplification: the result of every node seen so far (with the node itself, so
that a number is only trusted for the term it was recorded for), and the next free number. -/
structure Rebuild where
  memo : Std.HashMap Nat (Term × Term)
  next : Nat

def Rebuild.fresh : StateM Rebuild Nat :=
  modifyGet fun s => (s.next, { s with next := s.next + 2 })

def Rebuild.lookup (t : Term) : StateM Rebuild (Option Term) := do
  match t.node? with
  | none => pure none
  | some i =>
    let s ← get
    match s.memo.get? i with
    | some (orig, r) => pure (if orig == t then some r else none)
    | none => pure none

def Rebuild.record (t r : Term) : StateM Rebuild Unit :=
  match t.node? with
  | none => pure ()
  | some i => modify fun s => { s with memo := s.memo.insert i (t, r) }

mutual
/-- Rebuild a term bottom-up through the folding constructors. Each node is rebuilt once: a node
that occurs twice gets the same result both times. -/
def rebuild (t : Term) : StateM Rebuild Term := do
  match (← Rebuild.lookup t) with
  | some r => pure r
  | none =>
    let r ← match t with
      | .neg _ a => do let a ← rebuild a; let n ← Rebuild.fresh; pure (mkNot n a)
      | .conj _ xs => do let xs ← rebuildArgs xs; let n ← Rebuild.fresh; pure (mkAndAll n xs)
      | .disj _ xs => do let xs ← rebuildArgs xs; let n ← Rebuild.fresh; pure (mkOrAll n xs)
      | .imp _ a b => do
        let a ← rebuild a; let b ← rebuild b; let n ← Rebuild.fresh; pure (mkImplies n a b)
      | .cond _ c x y => do
        let c ← rebuild c; let x ← rebuild x; let y ← rebuild y; let n ← Rebuild.fresh
        pure (mkIte n c x y)
      | .eq _ a b => do let a ← rebuild a; let b ← rebuild b; let n ← Rebuild.fresh; pure (mkEq n a b)
      | .lt _ a b => do let a ← rebuild a; let b ← rebuild b; let n ← Rebuild.fresh; pure (mkLt n a b)
      | .le _ a b => do let a ← rebuild a; let b ← rebuild b; let n ← Rebuild.fresh; pure (mkLe n a b)
      | .add _ a b => do let a ← rebuild a; let b ← rebuild b; let n ← Rebuild.fresh; pure (mkAdd n a b)
      | .sub _ a b => do let a ← rebuild a; let b ← rebuild b; let n ← Rebuild.fresh; pure (mkSub n a b)
      | .bvAnd _ a b => do
        let a ← rebuild a; let b ← rebuild b; let n ← Rebuild.fresh; pure (mkBvAnd n a b)
      | .bvUle _ a b => do
        let a ← rebuild a; let b ← rebuild b; let n ← Rebuild.fresh; pure (mkBvUle n a b)
      | leaf => pure leaf
    Rebuild.record t r
    pure r
def rebuildArgs : List Term → StateM Rebuild (List Term)
  | [] => pure []
  | x :: xs => do let y ← rebuild x; let ys ← rebuildArgs xs; pure (y :: ys)
end

/-- Simplify a term, numbering new nodes from `next`. Returns the result and the next free
number. -/
def simplify (t : Term) (next : Nat) : Term × Nat :=
  let (r, s) := (rebuild t).run { memo := {}, next := next }
  (r, s.next)

end Term
end ControlPlane
