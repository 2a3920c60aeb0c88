import ControlPlane.Check.Pattern
import ControlPlane.Check.Question
import ControlPlane.Network.Graph

/-!
# Locations of a question

A location question names its endpoints by patterns: the source routers, the destination
interfaces, and the links and routers that may fail. This module resolves the patterns against
a graph, and narrows the header space to the destinations when the question leaves it open.
-/

namespace ControlPlane
namespace Locate

/-- Non-abstract, non-null edges of the routers matching the final node patterns, whose
interface matches the final interface patterns; sorted. -/
def matchingEdges (g : Graph) (q : LocationQuestion) : Except QueryError (List GraphEdge) := do
  let nodes ← PatternMatch.make q.finalNodeRegex q.notFinalNodeRegex
  let ifaces ← PatternMatch.make q.finalIfaceRegex q.notFinalIfaceRegex
  let edges := g.edgeMap.entries.filter (fun (r, _) => nodes.admits r) |>.flatMap (·.2)
  pure (Ordered.setOf GraphEdge.cmp (edges.filter fun e =>
    !e.isAbstract && !e.isNullEdge && ifaces.admits e.start.name))

/-- Edges of the routers matching `n1` towards a peer matching `n2`; an edge without a peer is
matched by its interface name. Sorted. -/
def matchingLinks (g : Graph) (n1 n2 : PatternMatch) : List GraphEdge :=
  let edges := g.edgeMap.entries.filter (fun (r, _) => n1.admits r) |>.flatMap (·.2)
  Ordered.setOf GraphEdge.cmp (edges.filter fun e => n2.admits (e.peer.getD e.start.name))

def matchingNodes (g : Graph) (p : PatternMatch) : List String := g.routers.filter p.admits

def sourceNodes (g : Graph) (q : LocationQuestion) : Except QueryError (List String) := do
  pure (matchingNodes g (← PatternMatch.make q.ingressNodeRegex q.notIngressNodeRegex))

/-- Narrow an open destination header space to the destination edges: an edge leaving the
network keeps it open; otherwise each edge with an address adds its subnet (an edge without a
peer, or of a host, whose peer's address is excluded) or its own address. -/
def destinationHeaderSpace (g : Graph) (dests : List GraphEdge) (hs : HeaderSpace) : HeaderSpace :=
  if !hs.dstIps.isEmpty then hs else go dests hs
where
  go : List GraphEdge → HeaderSpace → HeaderSpace
    | [], hs => hs
    | e :: rest, hs =>
      if g.isExternal e then { hs with dstIps := [], notDstIps := [] }
      else match e.startAddress with
        | none => go rest hs
        | some a =>
          if e.peer.isNone then go rest { hs with dstIps := hs.dstIps ++ [Prefix.make a.ip a.len] }
          else if g.isHost e.router then
            let hs := { hs with dstIps := hs.dstIps ++ [Prefix.make a.ip a.len] }
            match e.endAddress with
            | some b => go rest { hs with notDstIps := hs.notDstIps ++ [Prefix.make b.ip 32] }
            | none => go rest hs
          else go rest { hs with dstIps := hs.dstIps ++ [Prefix.make a.ip 32] }

def narrowed (g : Graph) (q : LocationQuestion) (dests : List GraphEdge) : LocationQuestion :=
  { q with header := { q.header with headerSpace := destinationHeaderSpace g dests q.header.headerSpace } }

/-- Links that may fail: between routers matching the two failure patterns (either way round),
without those between routers matching the two excluded patterns. -/
def failLinkSet (g : Graph) (q : LocationQuestion) : Except QueryError (List GraphEdge) := do
  let n1 ← PatternMatch.make q.failNode1Regex ""
  let n2 ← PatternMatch.make q.failNode2Regex ""
  let not1 ← PatternMatch.make q.notFailNode1Regex ""
  let not2 ← PatternMatch.make q.notFailNode2Regex ""
  let choices := Ordered.setOf GraphEdge.cmp (matchingLinks g n1 n2 ++ matchingLinks g n2 n1)
  let excluded := matchingLinks g not1 not2 ++ matchingLinks g not2 not1
  pure (choices.filter fun e => !Ordered.contains GraphEdge.cmp e (Ordered.setOf GraphEdge.cmp excluded))

def failNodeSet (g : Graph) (q : LocationQuestion) : Except QueryError (List String) := do
  pure (matchingNodes g (← PatternMatch.make q.failNodeRegex q.notFailNodeRegex))

end Locate
end ControlPlane
