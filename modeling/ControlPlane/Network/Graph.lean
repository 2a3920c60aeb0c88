import ControlPlane.Network.Topology
import ControlPlane.Network.Community

/-!
# The network graph

The graph has one directed edge per interface of a router: towards the interface at the other
end of a link, or, for an interface with an address but no link (or too many), towards the
outside. Null-routed static routes get an edge of their own, and every iBGP session an abstract
edge. Besides the edges, the graph records the BGP sessions of every edge, route reflectors,
OSPF areas, the domains of routers connected without crossing an eBGP session, and the
community variables of all policies.

Edges are identified by router, start interface name and address, peer, end interface name and
the two flags; maps keyed by edges keep the first key inserted and the last value.
-/

namespace ControlPlane

def ibgpInterfacePrefix : String := "iBGP-"

/-- A directed edge of the graph, starting at `router` on interface `start`. -/
structure GraphEdge where
  router : String
  start : Interface
  peer : Option String := none
  finish : Option Interface := none
  isAbstract : Bool := false
  isNullEdge : Bool := false
  deriving Repr, Inhabited

namespace GraphEdge

def cmp (a b : GraphEdge) : Ordering :=
  (compare a.router b.router).then <| (compare a.start.name b.start.name).then <|
  (compare a.start.address b.start.address).then <| (compare a.peer b.peer).then <|
  (compare (a.finish.map (·.name)) (b.finish.map (·.name))).then <|
  (compare a.isAbstract b.isAbstract).then (compare a.isNullEdge b.isNullEdge)

instance : BEq GraphEdge := ⟨fun a b => cmp a b == .eq⟩

def startAddress (e : GraphEdge) : Option InterfaceAddress := e.start.address

def endAddress (e : GraphEdge) : Option InterfaceAddress := e.finish.bind (·.address)

def text (e : GraphEdge) : String :=
  e.router ++ "," ++ e.start.name ++ " --> " ++
    match e.peer, e.finish with
    | some p, some i => p ++ "," ++ i.name
    | none, some i => "_," ++ i.name
    | _, _ => "_"

instance : ToString GraphEdge := ⟨text⟩

end GraphEdge

abbrev EdgeMap (α : Type) := List (GraphEdge × α)

/-- Kind of a BGP session, seen from the sending router. -/
inductive BgpSendType where
  | toEbgp
  | toNonclient
  | toClient
  | toRr
  deriving DecidableEq, Repr, Inhabited

def BgpSendType.name : BgpSendType → String
  | .toEbgp => "ToEbgp"
  | .toNonclient => "ToNonclient"
  | .toClient => "ToClient"
  | .toRr => "ToRr"

/-- The network graph. -/
structure Graph where
  configs : NameMap Configuration
  edgeMap : NameMap (List GraphEdge)
  allRealEdges : List GraphEdge
  allEdges : List GraphEdge
  otherEnds : EdgeMap GraphEdge
  neighborMap : NameMap (List String)
  staticRouteMap : NameMap (NameMap (List StaticRoute))
  dynamicNextHop : Bool
  ebgpNeighbors : EdgeMap BgpNeighbor
  ibgpNeighbors : EdgeMap BgpNeighbor
  rrParent : NameMap String
  rrClients : NameMap (List String)
  originatorId : NameMap Nat
  areaIds : NameMap (List Nat)
  domainOf : NameMap Nat
  domains : List (List String)
  allCommunities : List CommunityVar
  communityDeps : List (CommunityVar × List CommunityVar)
  namedCommunities : NameMap String
  deriving Inhabited

namespace GraphBuild

def configsOf (cs : List Configuration) : Except NetworkError (NameMap Configuration) :=
  cs.foldlM (fun (m : NameMap Configuration) c =>
    if m.contains c.hostname then .error (.duplicateRouter c.hostname)
    else .ok (m.insert c.hostname c)) {}

def checkLinks (configs : NameMap Configuration) (t : Topology) : Except NetworkError Unit :=
  t.links.forM fun (a, b) => [a, b].forM fun n =>
    match configs.get? n.router with
    | none => .error (.inconsistentTopology n.debugText)
    | some c =>
      if c.interfaces.contains n.iface then .ok () else .error (.interfaceNotFound n.router n.iface)

def addEdge (e : GraphEdge) (es : List GraphEdge) : List GraphEdge := Ordered.insert GraphEdge.cmp e es

def farInterface (configs : NameMap Configuration) (n : NodeInterface) : Interface :=
  ((configs.get? n.router).bind fun c2 => c2.interfaces.get? n.iface).getD { name := n.iface }

def linkEdge (configs : NameMap Configuration) (router : String) (iface : Interface)
    (n : NodeInterface) : GraphEdge :=
  { router := router, start := iface, peer := some n.router, finish := some (farInterface configs n) }

def linkBack (configs : NameMap Configuration) (router : String) (iface : Interface)
    (n : NodeInterface) : GraphEdge :=
  { router := n.router, start := farInterface configs n, peer := some router, finish := some iface }

/-- One end `n` of a link from interface `iface` of `router`: the edge towards it, the other
direction as the edge's other end, and `n`'s router as a neighbor. A link back to the router
itself also gives the interface its edge towards the outside. -/
def addLinkEnd (configs : NameMap Configuration) (router : String) (iface : Interface)
    (acc : List GraphEdge × EdgeMap GraphEdge × List String) (n : NodeInterface) :
    List GraphEdge × EdgeMap GraphEdge × List String :=
  let (edges, others, neighs) := acc
  let ext : GraphEdge := { router := router, start := iface }
  let edges := if n.router = router then addEdge ext edges else edges
  (addEdge (linkEdge configs router iface n) edges,
    Ordered.put GraphEdge.cmp (linkEdge configs router iface n) (linkBack configs router iface n) others,
    Ordered.insert compare n.router neighs)

/-- The edges of one interface of `router`: one edge per end of its links, or, with no link
(and an address) or more than two ends, one edge towards the outside. -/
def addInterface (configs : NameMap Configuration) (t : Topology) (router : String)
    (acc : List GraphEdge × EdgeMap GraphEdge × List String) (iface : Interface) :
    List GraphEdge × EdgeMap GraphEdge × List String :=
  let (edges, others, neighs) := acc
  let ext : GraphEdge := { router := router, start := iface }
  let ns := t.neighbors ⟨router, iface.name⟩
  if ns.isEmpty then
    (if iface.address.isSome then addEdge ext edges else edges, others, neighs)
  else if ns.length > 2 then (addEdge ext edges, others, neighs)
  else ns.foldl (addLinkEnd configs router iface) (edges, others, neighs)

def routerEdges (configs : NameMap Configuration) (t : Topology) (router : String) (c : Configuration) :
    List GraphEdge × EdgeMap GraphEdge × List String :=
  c.interfaces.values.foldl (addInterface configs t router) ([], [], [])

/-- Static routes of a router by the interface they leave through, and whether some route has a
next hop that is not directly connected. -/
def staticRoutesOf (edges : List GraphEdge) (c : Configuration) : NameMap (List StaticRoute) × Bool :=
  c.staticRoutes.foldl (fun (acc : NameMap (List StaticRoute) × Bool) sr =>
    let (m, dynamic) := acc
    let (m, found) := edges.foldl (fun (acc : NameMap (List StaticRoute) × Bool) ge =>
      let (m, found) := acc
      let here := ge.start.name
      let push (m : NameMap (List StaticRoute)) := m.insert here (((m.get? here).getD []) ++ [sr])
      let (m, found) := if sr.nextHopInterface == some here then (push m, true) else (m, found)
      let isNextHop := match ge.endAddress, sr.nextHopIp with
        | some a, some nh => a.ip == nh
        | _, _ => false
      if isNextHop then (push m, true) else (m, found)) (m, false)
    (m, dynamic || (!found && !sr.isNullRouted))) ({}, false)

def nullInterface (sr : StaticRoute) : Interface :=
  Interface.make nullInterfaceName (InterfaceAddress.make sr.network.start sr.network.len)

/-- iBGP sessions likely to come up: for every router, the routers whose session addresses its
iBGP sessions point at, with the session. -/
def ibgpSessions (configs : NameMap Configuration) : NameMap (NameMap BgpNeighbor) :=
  let localIps : NameMap (List Ip) := configs.entries.foldl (fun (acc : NameMap (List Ip)) (router, c) =>
    match c.bgp with
    | none => acc
    | some b => b.neighbors.foldl (fun acc n =>
        if n.isIbgp then
          match n.localIp with
          | some ip => acc.insert router (Ordered.insert compare ip ((acc.get? router).getD []))
          | none => acc
        else acc) acc) {}
  configs.entries.foldl (fun (acc : NameMap (NameMap BgpNeighbor)) (router, c) =>
    match c.bgp with
    | none => acc
    | some b => b.neighbors.foldl (fun acc n =>
        if !n.isIbgp then acc
        else localIps.entries.foldl (fun (acc : NameMap (NameMap BgpNeighbor)) (cand, ips) =>
          if cand ≠ router ∧ ips.contains n.peerAddress then
            acc.insert router ((acc.getD router {}).insert cand n)
          else acc) acc) acc) {}

def ibgpInterface (n : BgpNeighbor) (peer : String) : Interface :=
  Interface.make (ibgpInterfacePrefix ++ peer) (InterfaceAddress.make n.peerAddress 32)

/-- The physical edges of every router, the other ends of their links, the physical neighbors
of every router, and all physical edges as an ascending set. -/
def physicalEdges (configs : NameMap Configuration) (t : Topology) :
    NameMap (List GraphEdge) × EdgeMap GraphEdge × NameMap (List String) × List GraphEdge :=
  configs.entries.foldl
    (fun (acc : NameMap (List GraphEdge) × EdgeMap GraphEdge × NameMap (List String) × List GraphEdge)
        (router, c) =>
      let (em, others, nm, all) := acc
      let (edges, others', neighs) := routerEdges configs t router c
      (em.insert router edges, others'.foldl (fun acc (k, v) => Ordered.put GraphEdge.cmp k v acc) others,
        nm.insert router neighs, edges.foldl (fun acc e => addEdge e acc) all))
    ({}, [], {}, [])

/-- An edge of its own for every null-routed static route, after the edges of its router, with
the route filed under the null interface. -/
def addNullEdges (configs : NameMap Configuration)
    (init : NameMap (List GraphEdge) × NameMap (NameMap (List StaticRoute)) × List GraphEdge) :
    NameMap (List GraphEdge) × NameMap (NameMap (List StaticRoute)) × List GraphEdge :=
  configs.entries.foldl (fun (acc : NameMap (List GraphEdge) ×
      NameMap (NameMap (List StaticRoute)) × List GraphEdge) (router, c) =>
    let (em, sm, all) := acc
    (c.staticRoutes.filter (·.isNullRouted)).foldl (fun (em, sm, all) sr =>
      let ge : GraphEdge := { router := router, start := nullInterface sr, isNullEdge := true }
      let routes := sm.getD router {}
      let routes := routes.insert nullInterfaceName (routes.getD nullInterfaceName [] ++ [sr])
      (em.insert router (em.getD router [] ++ [ge]), sm.insert router routes, addEdge ge all))
      (em, sm, all)) init

/-- An abstract edge for every iBGP session, after the other edges of its router: the edge map,
all edges as an ascending set, the sessions of the edges, and the edges by their two routers in
the order made. -/
def addIbgpEdges (sessions : NameMap (NameMap BgpNeighbor)) (edgeMap : NameMap (List GraphEdge))
    (realEdges : List GraphEdge) :
    NameMap (List GraphEdge) × List GraphEdge × EdgeMap BgpNeighbor × List ((String × String) × GraphEdge) :=
  sessions.entries.foldl (fun acc (r1, ns) =>
    ns.entries.foldl (fun (acc : NameMap (List GraphEdge) × List GraphEdge × EdgeMap BgpNeighbor ×
        List ((String × String) × GraphEdge)) (r2, n1) =>
      let (em, all, ib, rev) := acc
      let back := (sessions.get? r2).bind (·.get? r1)
      let ge : GraphEdge := { router := r1, start := ibgpInterface n1 r2, peer := back.map fun _ => r2,
                              finish := back.map fun n2 => ibgpInterface n2 r1, isAbstract := true }
      (em.insert r1 (em.getD r1 [] ++ [ge]), addEdge ge all, Ordered.put GraphEdge.cmp ge n1 ib,
        rev ++ [((r1, r2), ge)])) acc) (edgeMap, realEdges, ([] : EdgeMap BgpNeighbor), ([] : List ((String × String) × GraphEdge)))

def pairIbgpEdges (reverse : List ((String × String) × GraphEdge)) (otherEnds : EdgeMap GraphEdge) :
    EdgeMap GraphEdge :=
  reverse.foldl (fun acc ((r1, r2), ge1) =>
    match reverse.lookup (r2, r1) with
    | some ge2 => Ordered.put GraphEdge.cmp ge1 ge2 acc
    | none => acc) otherEnds

/-- Labels of connected components: every element gets the smallest index it is connected to.
Each round lets labels travel one more edge, so as many rounds as elements suffice. -/
def componentLabels (n : Nat) (links : List (Nat × Nat)) : Array Nat :=
  let round (labels : Array Nat) : Array Nat :=
    links.foldl (fun labels (a, b) =>
      let l := min (labels.getD a a) (labels.getD b b)
      (labels.set! a l).set! b l) labels
  (List.range n).foldl (fun labels _ => round labels) (Array.range n)

end GraphBuild

open GraphBuild in
def Graph.build (cs : List Configuration) (topology : Option Topology) : Except NetworkError Graph := do
  let configs ← configsOf cs
  let topo := topology.getD (Topology.infer configs)
  checkLinks configs topo
  let (edgeMap, otherEnds, neighborMap, realEdges) := physicalEdges configs topo
  let (staticRouteMap, dynamicNextHop) := configs.entries.foldl (fun (acc : NameMap (NameMap (List StaticRoute)) × Bool)
      (router, c) =>
    let (sm, dyn) := acc
    let (m, d) := staticRoutesOf (edgeMap.getD router []) c
    (sm.insert router m, dyn || d)) ({}, false)
  let (edgeMap, staticRouteMap, realEdges) := addNullEdges configs (edgeMap, staticRouteMap, realEdges)
  let ebgp : EdgeMap BgpNeighbor := configs.entries.foldl (fun acc (router, c) =>
    match c.bgp with
    | none => acc
    | some b => (edgeMap.getD router []).foldl (fun acc ge =>
        match ge.start.subnet? with
        | none => acc
        | some p => b.neighbors.foldl (fun acc n =>
            if !n.isIbgp && p.containsIp n.peerAddress then Ordered.put GraphEdge.cmp ge n acc
            else acc) acc) acc) []
  let sessions := ibgpSessions configs
  let (edgeMap, allEdges, ibgp, reverse) := addIbgpEdges sessions edgeMap realEdges
  let otherEnds := pairIbgpEdges reverse otherEnds
  let (originatorId, rrParent, rrClients, _) := sessions.entries.foldl (fun (acc : NameMap Nat × NameMap String ×
      NameMap (List String) × Nat) (r1, ns) =>
    let (ids, parent, clients, next) := acc
    let (ids, next) := if ids.contains r1 then (ids, next) else (ids.insert r1 next, next + 1)
    let (cl, parent) := ns.entries.foldl (fun (acc : List String × NameMap String) (r2, n) =>
      let (cl, parent) := acc
      if n.routeReflectorClient then (Ordered.insert compare r2 cl, parent.insert r2 r1) else (cl, parent))
      (([] : List String), parent)
    (ids, parent, clients.insert r1 cl, next)) ({}, {}, {}, 1)
  let areaIds : NameMap (List Nat) := configs.mapValues fun _ c =>
    if c.ospf.isSome then Ordered.setOf compare c.ospfAreas else []
  let routers := configs.keys
  let indexOf (r : String) : Option Nat := routers.findIdx? (· = r)
  let links := edgeMap.entries.flatMap fun (router, edges) =>
    edges.filterMap fun ge =>
      if Ordered.mem GraphEdge.cmp ge ebgp then none
      else match indexOf router, ge.peer.bind indexOf with
        | some a, some b => some (a, b)
        | _, _ => none
  let labels := componentLabels routers.length links
  let roots := Ordered.setOf compare (labels.toList)
  let domains := roots.map fun l => (routers.zipIdx.filter fun (_, i) => labels.getD i i = l).map Prod.fst
  let domainOf : NameMap Nat := domains.zipIdx.foldl (fun acc (d, i) =>
    d.foldl (fun acc r => acc.insert r i) acc) {}
  let found ← configs.values.mapM findCommunities
  let comms := CommunityVar.setOf found.flatten
  let comms := CommunityVar.setOf (comms ++ (comms.filter CommunityVar.isRegex).map fun c => CommunityVar.other c.value)
  let communityDeps ← communityDependencies comms
  let namedCommunities : NameMap String := configs.entries.foldl (fun acc (_, c) =>
    c.communityLists.entries.foldl (fun acc (name, l) =>
      match l.lines with
      | [line] => match line.matcher with
        | .regex r => acc.insert r name
        | .exact _ => acc
      | _ => acc) acc) {}
  pure { configs, edgeMap, allRealEdges := realEdges, allEdges, otherEnds, neighborMap, staticRouteMap,
         dynamicNextHop, ebgpNeighbors := ebgp, ibgpNeighbors := ibgp, rrParent, rrClients, originatorId,
         areaIds, domainOf, domains, allCommunities := comms, communityDeps, namedCommunities }

namespace Graph

def routers (g : Graph) : List String := g.configs.keys

def config (g : Graph) (router : String) : Except NetworkError Configuration :=
  match g.configs.get? router with
  | some c => .ok c
  | none => .error (.routerNotFound router)

def edges (g : Graph) (router : String) : List GraphEdge := g.edgeMap.getD router []

def otherEnd? (g : Graph) (e : GraphEdge) : Option GraphEdge := Ordered.find? GraphEdge.cmp e g.otherEnds

def neighbors (g : Graph) (router : String) : List String := g.neighborMap.getD router []

def staticRoutes (g : Graph) (router iface : String) : List StaticRoute :=
  ((g.staticRouteMap.get? router).bind (·.get? iface)).getD []

def ebgpNeighbor? (g : Graph) (e : GraphEdge) : Option BgpNeighbor := Ordered.find? GraphEdge.cmp e g.ebgpNeighbors

def ibgpNeighbor? (g : Graph) (e : GraphEdge) : Option BgpNeighbor := Ordered.find? GraphEdge.cmp e g.ibgpNeighbors

def isEbgp (g : Graph) (e : GraphEdge) : Bool := (g.ebgpNeighbor? e).isSome

def isIbgp (g : Graph) (e : GraphEdge) : Bool := (g.ibgpNeighbor? e).isSome

def bgpNeighbor? (g : Graph) (e : GraphEdge) : Option BgpNeighbor :=
  if e.isAbstract then g.ibgpNeighbor? e else g.ebgpNeighbor? e

def peerType (g : Graph) (e : GraphEdge) : Except NetworkError BgpSendType :=
  if g.isEbgp e then .ok .toEbgp
  else if g.isIbgp e then
    let clientOf (rr : Option String) (client : String) : Bool :=
      (rr.bind fun r => g.rrClients.get? r).any (·.contains client)
    if clientOf e.peer e.router then .ok .toRr
    else if e.peer.isSome && clientOf (some e.router) (e.peer.getD "") then .ok .toClient
    else .ok .toNonclient
  else .error (.inconsistentTopology ("Invalid BGP edge: " ++ e.text))

def isExternal (g : Graph) (e : GraphEdge) : Bool := e.peer.isNone && g.isEbgp e

def isHost (g : Graph) (router : String) : Bool := ((g.configs.get? router).map (·.isHost)).getD false

def isLoopback (e : GraphEdge) : Bool := e.start.isLoopback

def isInterfaceActive (proto : Protocol) (i : Interface) : Bool :=
  if proto = .ospf then i.active && i.ospfEnabled else i.active

def isEdgeUsed (g : Graph) (c : Configuration) (proto : Protocol) (e : GraphEdge) : Bool :=
  let iface := e.start
  if e.isNullEdge then proto = .static
  else if !isInterfaceActive proto iface then false
  else if iface.name.startsWith ibgpInterfacePrefix then proto = .bgp
  else if iface.isLoopback then proto = .connected
  else
    let toOutside := match e.peer with
      | none => true
      | some p => g.isHost p
    if toOutside && proto = .ospf then false
    else match proto with
      | .static => !(g.staticRoutes c.hostname iface.name).isEmpty
      | .bgp => g.isEbgp e || g.isIbgp e
      | _ => true

def importPolicy? (g : Graph) (proto : Protocol) (e : GraphEdge) : Option String :=
  match proto with
  | .bgp => (g.bgpNeighbor? e).bind (·.importPolicy)
  | _ => none

def exportPolicy? (g : Graph) (c : Configuration) (proto : Protocol) (e : GraphEdge) : Option String :=
  match proto with
  | .ospf => c.ospf.bind (·.exportPolicy)
  | .bgp => (g.bgpNeighbor? e).bind (·.exportPolicy)
  | _ => none

def redistributedProtocols (c : Configuration) (policy : String) (proto : Protocol) : List Protocol :=
  Ordered.setOf compare ((walkPolicy c policy).flatMap fun n =>
    match n with
    | .expr (.matchProtocol ps) => (ps.filterMap RoutingProtocol.toProtocol).filter (· ≠ proto)
    | _ => [])

def routerId? (g : Graph) (e : GraphEdge) (proto : Protocol) : Option Nat :=
  if proto ≠ .bgp then some 0
  else match g.otherEnd? e with
    | some other => (g.configs.get? other.router).map (·.bgpRouterId.toNat)
    | none => (g.bgpNeighbor? e).map (·.peerAddress.toNat)

def originatedNetworks (c : Configuration) (proto : Protocol) : List Prefix :=
  Ordered.setOf compare <| match proto with
    | .ospf => c.interfaces.values.filterMap fun i => if i.active && i.ospfEnabled then i.subnet? else none
    | .connected => c.interfaces.values.filterMap (·.subnet?)
    | .static => c.staticRoutes.map (·.network)
    | .bgp => (c.bgp.map (·.networks)).getD []

def domain? (g : Graph) (router : String) : Option (List String) :=
  (g.domainOf.get? router).bind fun i => g.domains[i]?

def areas (g : Graph) (router : String) : List Nat := g.areaIds.getD router []

def text (g : Graph) : String :=
  let edgeLines := g.edgeMap.entries.flatMap fun (router, es) =>
    ("Router: " ++ router) :: es.map fun ge =>
      "  edge from: " ++ ge.start.name ++
        (match ge.peer, ge.finish with
          | some p, some e => " to: " ++ p ++ "," ++ e.name
          | _, _ => " to: null") ++
        (match ge.start.address with
          | some a => " " ++ a.text
          | none => "")
  let sessionLines (lookup : GraphEdge → Option BgpNeighbor) := g.allEdges.filterMap fun ge =>
    (lookup ge).map fun n => "Edge: " ++ ge.text ++ " (" ++ n.peerAddress.text ++ ")"
  let staticLines := g.staticRouteMap.entries.flatMap fun (router, m) =>
    m.entries.flatMap fun (iface, srs) => srs.map fun sr =>
      "Router: " ++ router ++ ", Interface: " ++ iface ++ " --> " ++ sr.network.text
  let lines := ["---------- Router to edges map ----------"] ++ edgeLines ++
    ["---------------- eBGP Neighbors ----------------"] ++ sessionLines g.ebgpNeighbor? ++
    ["---------------- iBGP Neighbors ----------------"] ++ sessionLines g.ibgpNeighbor? ++
    ["---------- Static Routes by Interface ----------"] ++ staticLines
  String.join (lines.map (· ++ "\n"))

end Graph
end ControlPlane
