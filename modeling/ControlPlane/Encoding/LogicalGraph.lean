import ControlPlane.Encoding.Route

/-!
# The logical graph

For every router and modeled protocol, each graph edge that carries the protocol's routes has
up to two logical edges: one for routes received over it (import) and one for routes sent
(export). Each logical edge holds the route crossing it. The import edge of one router is linked
to the export edge of its neighbor, and an import edge from outside the network reads a route of
the environment.
-/

namespace ControlPlane

/-- Direction of a logical edge: routes received, or routes sent. -/
inductive EdgeKind where
  | importing
  | exporting
  deriving DecidableEq, Repr, Inhabited, Ord

def EdgeKind.title : EdgeKind → String
  | .importing => "Import"
  | .exporting => "Export"

/-- The identity of a logical edge: graph edge, direction and protocol. -/
structure LogicalEdgeId where
  edge : GraphEdge
  kind : EdgeKind
  proto : Protocol
  deriving Inhabited

namespace LogicalEdgeId

def cmp (a b : LogicalEdgeId) : Ordering :=
  (GraphEdge.cmp a.edge b.edge).then ((compare a.kind b.kind).then (compare a.proto b.proto))

def text (i : LogicalEdgeId) : String := i.kind.title ++ " " ++ i.proto.name ++ " " ++ i.edge.text

end LogicalEdgeId

/-- A graph edge in one direction, with the route crossing it. -/
structure LogicalEdge where
  edge : GraphEdge
  kind : EdgeKind
  route : Route
  deriving Inhabited

namespace LogicalEdge

def proto (e : LogicalEdge) : Protocol := e.route.proto.getD .connected

def id (e : LogicalEdge) : LogicalEdgeId := ⟨e.edge, e.kind, e.proto⟩

def text (e : LogicalEdge) : String := e.id.text

end LogicalEdge

/-- The logical edges of every router and protocol, grouped by graph edge, with the links
between opposite ends, the environment routes and the redistributed protocols. -/
structure LogicalGraph where
  groups : NameMap (List (Protocol × List (List LogicalEdge))) := {}
  otherEnds : List (LogicalEdgeId × LogicalEdgeId) := []
  environment : List (LogicalEdgeId × Route) := []
  redistributed : NameMap (List (Protocol × List Protocol)) := {}
  deriving Inhabited

namespace LogicalGraph

def addProtocol (lg : LogicalGraph) (r : String) (p : Protocol) : LogicalGraph :=
  let per := lg.groups.getD r []
  { lg with groups := lg.groups.insert r (Ordered.update compare p [] id per) }

def addGroup (lg : LogicalGraph) (r : String) (p : Protocol) (group : List LogicalEdge) :
    LogicalGraph :=
  let per := lg.groups.getD r []
  { lg with groups := lg.groups.insert r (Ordered.update compare p [] (· ++ [group]) per) }

def groupsOf (lg : LogicalGraph) (r : String) (p : Protocol) : List (List LogicalEdge) :=
  (Ordered.find? compare p (lg.groups.getD r [])).getD []

def edgesOf (lg : LogicalGraph) (r : String) (p : Protocol) : List LogicalEdge :=
  (lg.groupsOf r p).flatten

def allWithProto (lg : LogicalGraph) : List (Protocol × LogicalEdge) :=
  lg.groups.values.flatMap fun per => per.flatMap fun (p, gs) => gs.flatten.map (p, ·)

def importEdges (lg : LogicalGraph) (g : Graph) (c : Configuration) (p : Protocol) :
    List LogicalEdge :=
  (lg.edgesOf c.hostname p).filter fun e => e.kind == .importing && g.isEdgeUsed c p e.edge

def get? (lg : LogicalGraph) (i : LogicalEdgeId) : Option LogicalEdge :=
  (lg.edgesOf i.edge.router i.proto).find? fun e => GraphEdge.cmp e.edge i.edge == .eq && e.kind == i.kind

def setOtherEnd (lg : LogicalGraph) (a b : LogicalEdgeId) : LogicalGraph :=
  { lg with otherEnds := Ordered.put LogicalEdgeId.cmp a b lg.otherEnds }

def otherEnd? (lg : LogicalGraph) (e : LogicalEdge) : Option LogicalEdge :=
  (Ordered.find? LogicalEdgeId.cmp e.id lg.otherEnds).bind lg.get?

def setEnvironment (lg : LogicalGraph) (i : LogicalEdgeId) (r : Route) : LogicalGraph :=
  { lg with environment := Ordered.put LogicalEdgeId.cmp i r lg.environment }

def otherRoute? (lg : LogicalGraph) (e : LogicalEdge) : Option Route :=
  match lg.otherEnd? e with
  | some o => some o.route
  | none => Ordered.find? LogicalEdgeId.cmp e.id lg.environment

def redistributedOf? (lg : LogicalGraph) (r : String) (p : Protocol) : Option (List Protocol) :=
  Ordered.find? compare p (lg.redistributed.getD r [])

def setRedistributed (lg : LogicalGraph) (r : String) (p : Protocol) (ps : List Protocol) :
    LogicalGraph :=
  { lg with redistributed := lg.redistributed.insert r (Ordered.put compare p ps (lg.redistributed.getD r [])) }

def routerIdTerm (g : Graph) (e : GraphEdge) (p : Protocol) : Except EncodingError Term :=
  match g.routerId? e p with
  | some i => .ok (.int i)
  | none => .error (.missingRouterId e.text p)

end LogicalGraph
end ControlPlane
