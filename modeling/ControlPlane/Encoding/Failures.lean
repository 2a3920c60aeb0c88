import ControlPlane.Network.Graph
import ControlPlane.Encoding.Basic

/-!
# Link and router failures

Every link and router that can fail has an integer variable, `1` when it is down and `0`
otherwise. A link between two routers has one variable for both directions; a link leaving the
network has one per edge. Abstract and null-routed edges never fail.
-/

namespace ControlPlane

/-- The failure variables of one copy of the network. -/
structure Failures where
  internal : List ((String × String) × Term) := []
  external : List (GraphEdge × Term) := []
  nodes : List (String × Term) := []
  deriving Inhabited

namespace Failures

def pairCmp (a b : String × String) : Ordering := (compare a.1 b.1).then (compare a.2 b.2)

def linkKey (a b : String) : String × String := if a ≤ b then (a, b) else (b, a)

def new (g : Graph) (pre : String) : Build Failures := do
  let links ← g.allRealEdges.foldlM (fun (f : Failures) e => do
    if e.isNullEdge then return f
    match e.peer with
    | some peer =>
      let key := linkKey e.router peer
      if Ordered.mem pairCmp key f.internal then return f
      let v ← Build.intVar (pre ++ "FAILED-EDGE_" ++ key.1 ++ "_" ++ key.2)
      return { f with internal := Ordered.put pairCmp key v f.internal }
    | none =>
      let v ← Build.intVar (pre ++ "FAILED-EDGE_" ++ e.router ++ "_" ++ e.start.name)
      return { f with external := Ordered.put GraphEdge.cmp e v f.external }) {}
  let nodes ← g.routers.mapM fun r => do pure (r, ← Build.intVar (pre ++ "FAILED-NODE_" ++ r))
  return { links with nodes }

def failedVariable (f : Failures) (e : GraphEdge) : Except EncodingError Term :=
  if e.isAbstract || e.isNullEdge then .ok (.int 0)
  else
    let v := match e.peer with
      | some peer => Ordered.find? pairCmp (linkKey e.router peer) f.internal
      | none => Ordered.find? GraphEdge.cmp e f.external
    match v with
    | some t => .ok t
    | none => .error (.missingVariable ("failure of " ++ e.text))

def failedNode (f : Failures) (r : String) : Term := (f.nodes.lookup r).getD (.int 0)

def allLinks (f : Failures) : List Term := f.internal.map (·.2) ++ f.external.map (·.2)

def mkEq (f o : Failures) : Build Term := do
  let a ← f.internal.filterMapM fun (k, v) =>
    match Ordered.find? pairCmp k o.internal with
    | some w => some <$> Build.equals v w
    | none => pure none
  let b ← f.external.filterMapM fun (k, v) =>
    match Ordered.find? GraphEdge.cmp k o.external with
    | some w => some <$> Build.equals v w
    | none => pure none
  let c ← f.nodes.filterMapM fun (k, v) =>
    match o.nodes.lookup k with
    | some w => some <$> Build.equals v w
    | none => pure none
  Build.allOf (a ++ b ++ c)

end Failures
end ControlPlane
