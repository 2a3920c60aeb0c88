import ControlPlane.Smt.Model
import ControlPlane.Encoding.Basic

/-!
# Symbolic values over a finite domain

A value of a finite domain is held as a bit-vector index into the domain. The index is wide
enough to tell all elements apart; indices past the domain are excluded by an assertion. A
domain of at most one element needs no variable: its index is the constant zero.
-/

namespace ControlPlane

def bitsFor (n : Nat) : Nat := if n ≤ 2 then 1 else (n - 1).log2 + 1

instance : ToString OspfType := ⟨OspfType.name⟩

/-- A symbolic element of a finite domain: the name of its variable, the domain, the width of
the index and the term of the index. -/
structure SymEnum (α : Type) where
  name : String
  domain : List α
  width : Nat
  bits : Term
  deriving Inhabited

namespace SymEnum

variable {α : Type} [BEq α] [ToString α]

/-- A new symbolic element. With more than one element a variable holds the index, and an
assertion keeps it inside the domain unless every index names an element. -/
def new (name : String) (domain : List α) : Build (SymEnum α) := do
  let width := bitsFor domain.length
  if domain.length ≤ 1 then return ⟨name, domain, width, Term.mkBv 0 width⟩
  let v ← Build.bvVar name width
  if domain.length < Nat.pow 2 width then
    Build.assert (← Build.bvUle v (Term.mkBv (domain.length - 1) width))
  return ⟨name, domain, width, v⟩

def indexOf (domain : List α) (v : α) (name : String) : Except EncodingError Nat :=
  match domain.findIdx? (· == v) with
  | some i => .ok i
  | none => .error (.unknownEnumValue (toString v) name)

def constant (domain : List α) (v : α) : Except EncodingError (SymEnum α) := do
  let i ← indexOf domain v "constant"
  let w := bitsFor domain.length
  pure ⟨toString v, domain, w, Term.mkBv i w⟩

def valueTerm (e : SymEnum α) (v : α) : Except EncodingError Term := do
  let i ← indexOf e.domain v e.name
  pure (Term.mkBv i e.width)

def isValue (e : SymEnum α) (v : α) : Encode Term := do
  let t ← valueTerm e v
  Build.equals e.bits t

def isDefault (e : SymEnum α) : Build Term := Build.equals e.bits (Term.mkBv 0 e.width)

def value (e : SymEnum α) (idx : Nat) : Option α := e.domain[idx]?

/-- Two elements are equal. Over one domain the indices are compared; otherwise some element of
the first domain that both can take is taken by both. -/
def mkEq (e other : SymEnum α) : Build Term := do
  if e.domain == other.domain then return ← Build.equals e.bits other.bits
  let cases ← e.domain.filterMapM fun v => do
    match valueTerm e v, valueTerm other v with
    | .ok a, .ok b => return some (← Build.both (← Build.equals e.bits a) (← Build.equals other.bits b))
    | _, _ => return none
  Build.anyOf cases

def decode (e : SymEnum α) (m : Model) : Except SmtError (Option α) := do
  let i ← m.evalInt e.bits
  pure (e.value (i % Int.pow 2 64).toNat)

end SymEnum

namespace OspfKind

def new (name : String) : Build (SymEnum OspfType) := SymEnum.new name OspfType.all

def constant (t : OspfType) : SymEnum OspfType :=
  ⟨t.name, OspfType.all, 2, Term.mkBv ((OspfType.all.findIdx? (· == t)).getD 0) 2⟩

def isInternal (e : SymEnum OspfType) : Build Term := Build.bvUle e.bits (Term.mkBv 1 e.width)

end OspfKind
end ControlPlane
