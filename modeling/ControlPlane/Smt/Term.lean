/-!
# Terms

Formulas over booleans, integers and bit-vectors, in the form an SMT solver reads them.

Every compound node carries a node number. A node number names one construction: copies of a
term share it, two separate constructions of equal terms do not. The folding constructors ask
whether two arguments are "the same" term, and that question is about construction, not about
the text: `(ite c (not x) (not x))` built from two separate `(not x)` does not fold. Literals and
variables have no number and are the same whenever they are equal.
-/

namespace ControlPlane

/-- Sort of a term: booleans, unbounded integers or bit-vectors of a fixed width. -/
inductive TermSort where
  | bool
  | int
  | bitVec (width : Nat)
  deriving DecidableEq, Repr, Inhabited

def TermSort.name : TermSort → String
  | .bool => "Bool"
  | .int => "Int"
  | .bitVec w => "BV" ++ toString w

/-- A term. Integer literals stay inside the signed 64-bit range, bit-vector literals inside
their width (and inside 64 bits). -/
inductive Term where
  | bool (b : Bool)
  | int (i : Int)
  | bv (value width : Nat)
  | var (name : String) (sort : TermSort)
  | neg (node : Nat) (a : Term)
  | conj (node : Nat) (args : List Term)
  | disj (node : Nat) (args : List Term)
  | imp (node : Nat) (a b : Term)
  | cond (node : Nat) (c t e : Term)
  | eq (node : Nat) (a b : Term)
  | lt (node : Nat) (a b : Term)
  | le (node : Nat) (a b : Term)
  | add (node : Nat) (a b : Term)
  | sub (node : Nat) (a b : Term)
  | bvAnd (node : Nat) (a b : Term)
  | bvUle (node : Nat) (a b : Term)
  deriving Repr, Inhabited

namespace Term

def minI64 : Int := -9223372036854775808

def maxI64 : Int := 9223372036854775807

def saturate (i : Int) : Int :=
  if i < minI64 then minI64 else if maxI64 < i then maxI64 else i

def bvMask (width : Nat) : Nat :=
  if 64 ≤ width then Nat.pow 2 64 - 1 else Nat.pow 2 width - 1

def tt : Term := .bool true

def ff : Term := .bool false

def mkBv (v width : Nat) : Term := .bv (v &&& bvMask width) width

def node? : Term → Option Nat
  | .bool _ | .int _ | .bv _ _ | .var _ _ => none
  | .neg n _ | .conj n _ | .disj n _ | .imp n _ _ | .cond n _ _ _ | .eq n _ _ | .lt n _ _
  | .le n _ _ | .add n _ _ | .sub n _ _ | .bvAnd n _ _ | .bvUle n _ _ => some n

def asBool? : Term → Option Bool
  | .bool b => some b
  | _ => none

def asInt? : Term → Option Int
  | .int i => some i
  | _ => none

def asBv? : Term → Option Nat
  | .bv v _ => some v
  | _ => none

def varName? : Term → Option String
  | .var n _ => some n
  | _ => none

def isLit : Term → Bool
  | .bool _ | .int _ | .bv _ _ => true
  | _ => false

def isTrue (t : Term) : Bool := t.asBool? == some true

def isFalse (t : Term) : Bool := t.asBool? == some false

/-- Sort of a term. An if-then-else has the sort of its then-branch, a bitwise and the sort of
its first argument. -/
def sort : Term → TermSort
  | .bool _ | .neg _ _ | .conj _ _ | .disj _ _ | .imp _ _ _ | .eq _ _ _ | .lt _ _ _ | .le _ _ _
  | .bvUle _ _ _ => .bool
  | .int _ | .add _ _ _ | .sub _ _ _ => .int
  | .bv _ w => .bitVec w
  | .var _ s => s
  | .cond _ _ t _ => t.sort
  | .bvAnd _ a _ => a.sort

mutual
def equal : Term → Term → Bool
  | .bool a, .bool b => a == b
  | .int a, .int b => a == b
  | .bv a w, .bv b v => a == b && w == v
  | .var a x, .var b y => a == b && x == y
  | .neg n a, .neg m b => n == m && equal a b
  | .conj n xs, .conj m ys => n == m && equalArgs xs ys
  | .disj n xs, .disj m ys => n == m && equalArgs xs ys
  | .imp n a b, .imp m c d => n == m && equal a c && equal b d
  | .cond n a b c, .cond m d e f => n == m && equal a d && equal b e && equal c f
  | .eq n a b, .eq m c d => n == m && equal a c && equal b d
  | .lt n a b, .lt m c d => n == m && equal a c && equal b d
  | .le n a b, .le m c d => n == m && equal a c && equal b d
  | .add n a b, .add m c d => n == m && equal a c && equal b d
  | .sub n a b, .sub m c d => n == m && equal a c && equal b d
  | .bvAnd n a b, .bvAnd m c d => n == m && equal a c && equal b d
  | .bvUle n a b, .bvUle m c d => n == m && equal a c && equal b d
  | _, _ => false
def equalArgs : List Term → List Term → Bool
  | [], [] => true
  | x :: xs, y :: ys => equal x y && equalArgs xs ys
  | _, _ => false
end

instance : BEq Term := ⟨equal⟩

/-- Cheap identity: equal literals, the same variable, or one construction of a compound term.
Two compound terms are the same when they carry one node number and are equal, so that `same`
never confuses different terms. -/
def same (s t : Term) : Bool :=
  match s, t with
  | .bool a, .bool b => a == b
  | .int a, .int b => a == b
  | .bv a w, .bv b v => a == b && w == v
  | .var a x, .var b y => a == b && x == y
  | _, _ =>
    match s.node?, t.node? with
    | some i, some j => i == j && equal s t
    | _, _ => false

def hexPadded (v width : Nat) : String :=
  let digits := Nat.toDigits 16 v
  String.ofList (List.replicate (width - digits.length) '0' ++ digits)

def leafText : Term → String
  | .bool b => if b then "true" else "false"
  | .int i => if i < 0 then "(- " ++ toString i.natAbs ++ ")" else toString i
  | .bv v w => if w % 4 == 0 then "#x" ++ hexPadded v (w / 4) else "(_ bv" ++ toString v ++ " " ++ toString w ++ ")"
  | .var n _ => n
  | _ => ""

mutual
def renderInto (acc : String) : Term → String
  | .neg _ a => renderInto (acc ++ "(not ") a ++ ")"
  | .conj _ xs => renderArgs (acc ++ "(and") xs ++ ")"
  | .disj _ xs => renderArgs (acc ++ "(or") xs ++ ")"
  | .imp _ a b => renderInto (renderInto (acc ++ "(=> ") a ++ " ") b ++ ")"
  | .cond _ c t e => renderInto (renderInto (renderInto (acc ++ "(ite ") c ++ " ") t ++ " ") e ++ ")"
  | .eq _ a b => renderInto (renderInto (acc ++ "(= ") a ++ " ") b ++ ")"
  | .lt _ a b => renderInto (renderInto (acc ++ "(< ") a ++ " ") b ++ ")"
  | .le _ a b => renderInto (renderInto (acc ++ "(<= ") a ++ " ") b ++ ")"
  | .add _ a b => renderInto (renderInto (acc ++ "(+ ") a ++ " ") b ++ ")"
  | .sub _ a b => renderInto (renderInto (acc ++ "(- ") a ++ " ") b ++ ")"
  | .bvAnd _ a b => renderInto (renderInto (acc ++ "(bvand ") a ++ " ") b ++ ")"
  | .bvUle _ a b => renderInto (renderInto (acc ++ "(bvule ") a ++ " ") b ++ ")"
  | t => acc ++ t.leafText
def renderArgs (acc : String) : List Term → String
  | [] => acc
  | x :: xs => renderArgs (renderInto (acc.push ' ') x) xs
end

def render (t : Term) : String := renderInto "" t

instance : ToString Term := ⟨render⟩

def spend (budget n : Nat) : Option Nat :=
  if n ≤ budget then some (budget - n) else none

/-- Budget left after a binary application whose opening part has `head` bytes, with the two
arguments spent by `fa` and `fb`. -/
def spendBin (budget head : Nat) (fa fb : Nat → Option Nat) : Option Nat :=
  spend budget head >>= fa >>= (spend · 1) >>= fb >>= (spend · 1)

mutual
/-- Byte length of the text of a term, counted only up to `budget`: `none` once the text is
longer than the budget, else the budget that is left. -/
def spendText (budget : Nat) : Term → Option Nat
  | .neg _ a => spend budget 5 >>= (spendText · a) >>= (spend · 1)
  | .conj _ xs => spend budget 4 >>= (spendArgs · xs) >>= (spend · 1)
  | .disj _ xs => spend budget 3 >>= (spendArgs · xs) >>= (spend · 1)
  | .imp _ a b => spendBin budget 4 (spendText · a) (spendText · b)
  | .cond _ c t e => spend budget 5 >>= (spendText · c) >>= (spend · 1) >>= (spendText · t)
      >>= (spend · 1) >>= (spendText · e) >>= (spend · 1)
  | .eq _ a b => spendBin budget 3 (spendText · a) (spendText · b)
  | .lt _ a b => spendBin budget 3 (spendText · a) (spendText · b)
  | .le _ a b => spendBin budget 4 (spendText · a) (spendText · b)
  | .add _ a b => spendBin budget 3 (spendText · a) (spendText · b)
  | .sub _ a b => spendBin budget 3 (spendText · a) (spendText · b)
  | .bvAnd _ a b => spendBin budget 7 (spendText · a) (spendText · b)
  | .bvUle _ a b => spendBin budget 7 (spendText · a) (spendText · b)
  | t => spend budget t.leafText.utf8ByteSize
def spendArgs (budget : Nat) : List Term → Option Nat
  | [] => some budget
  | x :: xs => spend budget 1 >>= (spendText · x) >>= (spendArgs · xs)
end

def textWithin (t : Term) (limit : Nat) : Bool := (spendText limit t).isSome

end Term
end ControlPlane
