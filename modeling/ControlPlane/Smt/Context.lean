import ControlPlane.Smt.Fold
import ControlPlane.Smt.Error
import Std.Data.HashMap

/-!
# Contexts

A context owns the variables and assertions of one verification run, and hands out node numbers
to every term built for it. Two copies of a network that must be related are encoded into the
same context, with different ids in their variable names.

`Build` is the state monad of a context; all term construction of the encoder runs in it.
-/

namespace ControlPlane

/-- Variables (in creation order, looked up by name), assertions (in insertion order), the id
counter and the next free node number. -/
structure Context where
  vars : Array (String × Term) := #[]
  index : Std.HashMap String Nat := {}
  assertions : Array Term := #[]
  nextId : Nat := 0
  nextNode : Nat := 0

namespace Context

def lookupVar (c : Context) (name : String) : Option Term :=
  (c.index.get? name).bind fun i => (c.vars[i]?).map Prod.snd

def numVariables (c : Context) : Nat := c.vars.size

def numConstraints (c : Context) : Nat := c.assertions.size

def varLines (c : Context) : List String :=
  c.vars.toList.map fun (n, t) => n ++ ":" ++ t.sort.name

def assertionTexts (c : Context) : List String :=
  c.assertions.toList.map Term.render

end Context

abbrev Build := StateM Context

instance {ε : Type} : MonadLift Build (StateT Context (Except ε)) where
  monadLift x := fun s => pure (x.run s)

namespace Build

def fresh : Build Nat :=
  modifyGet fun c => (c.nextNode, { c with nextNode := c.nextNode + 2 })

/-- The variable of a name. An already registered name returns its variable, whatever sort was
asked for. -/
def mkVar (name : String) (s : TermSort) : Build Term :=
  modifyGet fun c =>
    match c.lookupVar name with
    | some v => (v, c)
    | none =>
      let v := Term.var name s
      (v, { c with vars := c.vars.push (name, v), index := c.index.insert name c.vars.size })

def boolVar (name : String) : Build Term := mkVar name .bool

def intVar (name : String) : Build Term := mkVar name .int

def bvVar (name : String) (width : Nat) : Build Term := mkVar name (.bitVec width)

def freshVar (name : String) (s : TermSort) : Build (Except SmtError Term) := do
  if (← get).index.contains name then pure (.error (.duplicateVariable name))
  else pure (.ok (← mkVar name s))

def assert (e : Term) : Build Unit :=
  if e.isTrue then pure () else modify fun c => { c with assertions := c.assertions.push e }

def generateId : Build Nat :=
  modifyGet fun c => (c.nextId, { c with nextId := c.nextId + 1 })

def neg (a : Term) : Build Term := return Term.mkNot (← fresh) a

def allOf (ts : List Term) : Build Term := return Term.mkAndAll (← fresh) ts

def anyOf (ts : List Term) : Build Term := return Term.mkOrAll (← fresh) ts

def both (a b : Term) : Build Term := allOf [a, b]

def either (a b : Term) : Build Term := anyOf [a, b]

def implies (a b : Term) : Build Term := return Term.mkImplies (← fresh) a b

def cond (c t e : Term) : Build Term := return Term.mkIte (← fresh) c t e

def equals (a b : Term) : Build Term := return Term.mkEq (← fresh) a b

def lt (a b : Term) : Build Term := return Term.mkLt (← fresh) a b

def le (a b : Term) : Build Term := return Term.mkLe (← fresh) a b

def gt (a b : Term) : Build Term := lt b a

def ge (a b : Term) : Build Term := le b a

def plus (a b : Term) : Build Term := return Term.mkAdd (← fresh) a b

def minus (a b : Term) : Build Term := return Term.mkSub (← fresh) a b

def bvAnd (a b : Term) : Build Term := return Term.mkBvAnd (← fresh) a b

def bvUle (a b : Term) : Build Term := return Term.mkBvUle (← fresh) a b

def simplify (t : Term) : Build Term :=
  modifyGet fun c =>
    let (r, n) := t.simplify c.nextNode
    (r, { c with nextNode := n })

end Build
end ControlPlane
