import ControlPlane.Encoding.LogicalGraph

/-!
# Decisions

The decision variables of a slice: the best route of every router (overall, and per protocol
for routers with several protocols), the choice of each import edge as best route of its
protocol, and per edge whether the router's best route points out of it (control forwarding)
and whether packets leave on it after the outbound filter (data forwarding). Abstract edges have
no data forwarding variable.
-/

namespace ControlPlane

/-- The decision variables of a slice. -/
structure Decisions where
  best : NameMap Route := {}
  bestPerProtocol : NameMap (List (Protocol × Route)) := {}
  choices : NameMap (List (Protocol × List (LogicalEdgeId × Term))) := {}
  control : NameMap (List (GraphEdge × Term)) := {}
  data : NameMap (List (GraphEdge × Term)) := {}
  deriving Inhabited

namespace Decisions

/-- The best route of a router for one protocol: its overall best route if it models one
protocol only. -/
def bestOf? (d : Decisions) (s : Scope) (r : String) (p : Protocol) : Option Route :=
  if s.isSingle r then d.best.get? r
  else Ordered.find? compare p (d.bestPerProtocol.getD r [])

def controlOf? (d : Decisions) (e : GraphEdge) : Option Term :=
  Ordered.find? GraphEdge.cmp e (d.control.getD e.router [])

def dataOf? (d : Decisions) (e : GraphEdge) : Option Term :=
  Ordered.find? GraphEdge.cmp e (d.data.getD e.router [])

def choiceOf? (d : Decisions) (r : String) (i : LogicalEdgeId) : Option Term :=
  (Ordered.find? compare i.proto (d.choices.getD r [])).bind (Ordered.find? LogicalEdgeId.cmp i)

end Decisions
end ControlPlane
