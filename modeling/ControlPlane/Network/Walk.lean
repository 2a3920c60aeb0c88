import ControlPlane.Network.Config

/-!
# Walking policies

The statements and expressions reachable from a policy, in the order of a depth-first walk:
a statement before its guard and branches, an expression before its operands, and the body of a
called policy (through `callExpr` or `setDefaultPolicy`) at the place of the call. Every policy
name is entered at most once per walk, so calls in a cycle end.

The walk keeps the names entered so far. A call chain enters a new defined policy at every
level, so `fuel`, the number of defined policies plus one, bounds its depth.
-/

namespace ControlPlane

/-- A node visited by a walk. -/
inductive PolicyNode where
  | stmt (s : Statement)
  | expr (e : BooleanExpr)
  deriving Repr, Inhabited

namespace PolicyWalk

mutual
def named (c : Configuration) (fuel : Nat) (name : String) : StateM (List String) (List PolicyNode) :=
  match fuel with
  | 0 => pure []
  | fuel + 1 => do
    if (← get).contains name then return []
    modify (name :: ·)
    match c.routingPolicies.get? name with
    | some p => stmts c fuel p.statements
    | none => pure []
termination_by (fuel, 0)
def stmts (c : Configuration) (fuel : Nat) :
    List Statement → StateM (List String) (List PolicyNode)
  | [] => pure []
  | s :: rest => do
    let here ← match s with
      | .ite g t e => do
        let a ← expr c fuel g
        let b ← stmts c fuel t
        let d ← stmts c fuel e
        pure (a ++ b ++ d)
      | .setDefaultPolicy name => named c fuel name
      | _ => pure []
    let more ← stmts c fuel rest
    pure (.stmt s :: here ++ more)
termination_by ss => (fuel, sizeOf ss + 1)
def expr (c : Configuration) (fuel : Nat) (e : BooleanExpr) :
    StateM (List String) (List PolicyNode) := do
  let inner ← match e with
    | .conjunction xs | .disjunction xs | .conjunctionChain xs | .firstMatchChain xs => exprs c fuel xs
    | .negation x | .withEnvironment x => expr c fuel x
    | .callExpr name => named c fuel name
    | _ => pure []
  pure (.expr e :: inner)
termination_by (fuel, sizeOf e + 1)
def exprs (c : Configuration) (fuel : Nat) :
    List BooleanExpr → StateM (List String) (List PolicyNode)
  | [] => pure []
  | x :: rest => do
    let a ← expr c fuel x
    let b ← exprs c fuel rest
    pure (a ++ b)
termination_by xs => (fuel, sizeOf xs + 1)
end

end PolicyWalk

def walkPolicy (c : Configuration) (name : String) : List PolicyNode :=
  ((PolicyWalk.named c (c.routingPolicies.size + 1) name).run []).1

def walkStatements (c : Configuration) (ss : List Statement) : List PolicyNode :=
  ((PolicyWalk.stmts c (c.routingPolicies.size + 1) ss).run []).1

end ControlPlane
