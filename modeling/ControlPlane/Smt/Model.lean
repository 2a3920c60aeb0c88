import ControlPlane.Smt.Term
import ControlPlane.Smt.Error
import Std.Data.HashMap

/-!
# Models

A model assigns values to variable names. Evaluation is total over variables: a variable the
model does not mention takes the default value of its sort. Evaluation fails only when a value
of one sort meets an operator that expects another, and then names the offending sub-term.
-/

namespace ControlPlane

/-- Concrete value of a term. Integers stay in the signed 64-bit range, bit-vectors in 64 bits. -/
inductive Value where
  | bool (b : Bool)
  | int (i : Int)
  | bv (v : Nat)
  deriving DecidableEq, Repr, Inhabited

namespace Value

def default : TermSort → Value
  | .bool => .bool false
  | .int => .int 0
  | .bitVec _ => .bv 0

def sortName : Value → String
  | .bool _ => "Bool"
  | .int _ => "Int"
  | .bv _ => "BitVec"

def text : Value → String
  | .bool b => if b then "true" else "false"
  | .int i => toString i
  | .bv v => toString v

end Value

def signedOfBits (v : Nat) : Int :=
  if v < Nat.pow 2 63 then (v : Int) else (v : Int) - Int.pow 2 64

/-- Assignment of values to variable names. -/
structure Model where
  values : Std.HashMap String Value := {}

namespace Model

def set (m : Model) (name : String) (v : Value) : Model := { values := m.values.insert name v }

def get? (m : Model) (name : String) : Option Value := m.values.get? name

def size (m : Model) : Nat := m.values.size

def valueOf (m : Model) (name : String) (s : TermSort) : Value :=
  (m.get? name).getD (Value.default s)

def asBool (e : Term) : Value → Except SmtError Bool
  | .bool b => .ok b
  | v => .error (.sortMismatch e.render "Bool" v.sortName)

def asInt (e : Term) : Value → Except SmtError Int
  | .int i => .ok i
  | v => .error (.sortMismatch e.render "Int" v.sortName)

def asBits (e : Term) : Value → Except SmtError Nat
  | .bv b => .ok b
  | v => .error (.sortMismatch e.render "BitVec" v.sortName)

mutual
/-- Value of a term. Conjunctions, disjunctions and implications stop at the first argument that
decides them; if-then-else evaluates only the chosen branch. -/
def eval (m : Model) : Term → Except SmtError Value
  | .bool b => .ok (.bool b)
  | .int i => .ok (.int i)
  | .bv v _ => .ok (.bv v)
  | .var n s => .ok (m.valueOf n s)
  | .neg _ a => do
    let b ← asBool a (← m.eval a)
    pure (.bool (!b))
  | .conj _ xs => do pure (.bool (← m.evalAll xs))
  | .disj _ xs => do pure (.bool (← m.evalAny xs))
  | .imp _ a b => do
    let x ← asBool a (← m.eval a)
    if x then
      let y ← asBool b (← m.eval b)
      pure (.bool y)
    else pure (.bool true)
  | .cond _ c t e => do
    let x ← asBool c (← m.eval c)
    if x then m.eval t else m.eval e
  | .eq _ a b => do
    let x ← m.eval a
    let y ← m.eval b
    pure (.bool (x == y))
  | .lt _ a b => do
    let x ← asInt a (← m.eval a)
    let y ← asInt b (← m.eval b)
    pure (.bool (decide (x < y)))
  | .le _ a b => do
    let x ← asInt a (← m.eval a)
    let y ← asInt b (← m.eval b)
    pure (.bool (decide (x ≤ y)))
  | .add _ a b => do
    let x ← asInt a (← m.eval a)
    let y ← asInt b (← m.eval b)
    pure (.int (Term.saturate (x + y)))
  | .sub _ a b => do
    let x ← asInt a (← m.eval a)
    let y ← asInt b (← m.eval b)
    pure (.int (Term.saturate (x - y)))
  | .bvAnd _ a b => do
    let x ← asBits a (← m.eval a)
    let y ← asBits b (← m.eval b)
    pure (.bv (x &&& y))
  | .bvUle _ a b => do
    let x ← asBits a (← m.eval a)
    let y ← asBits b (← m.eval b)
    pure (.bool (decide (x ≤ y)))
def evalAll (m : Model) : List Term → Except SmtError Bool
  | [] => .ok true
  | x :: xs => do
    if (← asBool x (← m.eval x)) then m.evalAll xs else pure false
def evalAny (m : Model) : List Term → Except SmtError Bool
  | [] => .ok false
  | x :: xs => do
    if (← asBool x (← m.eval x)) then pure true else m.evalAny xs
end

def evalBool (m : Model) (e : Term) : Except SmtError Bool := do
  match (← m.eval e) with
  | .bool b => pure b
  | v => throw (.sortMismatch e.render "Bool" v.sortName)

def evalInt (m : Model) (e : Term) : Except SmtError Int := do
  match (← m.eval e) with
  | .int i => pure i
  | .bv v => pure (signedOfBits v)
  | v => throw (.sortMismatch e.render "Int" v.sortName)

end Model
end ControlPlane
