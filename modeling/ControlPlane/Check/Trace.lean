import ControlPlane.Encoding.Encoder

/-!
# Counterexamples

A model of the encoding describes one behaviour of the network: a packet, the routes received
from outside, the failed links, and the forwarding decisions. This module reads that behaviour
back: the path of the packet from a router (`flowTrace`), the failed links, and the external
routes that a router selects. A flow history collects the paths of the routers that miss the
destination, or, comparing two copies of the network, of those whose reachability differs.
-/

namespace ControlPlane

/-- A link as reported in counterexamples: both ends, router and interface. -/
structure TraceEdge where
  node1 : String
  int1 : String
  node2 : String
  int2 : String
  deriving DecidableEq, Repr, Inhabited

namespace TraceEdge

def cmp (a b : TraceEdge) : Ordering :=
  (compare a.node1 b.node1).then ((compare a.int1 b.int1).then
    ((compare a.node2 b.node2).then (compare a.int2 b.int2)))

def text (e : TraceEdge) : String := e.node1 ++ ":" ++ e.int1 ++ " -> " ++ e.node2 ++ ":" ++ e.int2

end TraceEdge

/-- What happens to a packet at the end of its path. -/
inductive Disposition where
  | accepted
  | deniedIn
  | deniedOut
  | loop
  | noRoute
  | exitsNetwork
  deriving DecidableEq, Repr, Inhabited

def Disposition.name : Disposition → String
  | .accepted => "ACCEPTED"
  | .deniedIn => "DENIED_IN"
  | .deniedOut => "DENIED_OUT"
  | .loop => "LOOP"
  | .noRoute => "NO_ROUTE"
  | .exitsNetwork => "NEIGHBOR_UNREACHABLE_OR_EXITS_NETWORK"

def exitsNetworkNote : String := "NEIGHBOR_UNREACHABLE_OR_EXITS_NETWORK - insufficient information to decide"

/-- One hop of a path: the link crossed, and the routes used (a sorted set of texts). -/
structure Hop where
  edge : TraceEdge
  routes : List String
  deriving DecidableEq, Repr, Inhabited

/-- The path of a packet. -/
structure FlowTrace where
  disposition : Disposition
  hops : List Hop
  notes : String
  deriving DecidableEq, Repr, Inhabited

def FlowTrace.text (t : FlowTrace) : String :=
  let lines := (List.range t.hops.length).zip t.hops |>.map fun (i, h) =>
    toString (i + 1) ++ ". " ++ h.edge.text ++ " [" ++ ", ".intercalate h.routes ++ "]\n"
  String.join lines ++ t.notes

def lexCmp {α : Type} (cmp : α → α → Ordering) : List α → List α → Ordering
  | [], [] => .eq
  | [], _ :: _ => .lt
  | _ :: _, [] => .gt
  | a :: as, b :: bs => (cmp a b).then (lexCmp cmp as bs)

/-- A route received from outside the network. -/
structure Advertisement where
  advType : String
  network : Prefix
  srcNode : String
  dstNode : String
  dstIp : Ip
  protocol : Protocol
  localPref : Nat
  med : Nat
  asPath : List Int
  communities : List Community
  deriving DecidableEq, Repr, Inhabited

def Advertisement.cmp (a b : Advertisement) : Ordering :=
  (compare a.advType b.advType).then <| (compare a.network b.network).then <|
  (compare a.srcNode b.srcNode).then <| (compare a.dstNode b.dstNode).then <|
  (compare a.dstIp b.dstIp).then <| (compare a.protocol b.protocol).then <|
  (compare a.localPref b.localPref).then <| (compare a.med b.med).then <|
  (lexCmp compare a.asPath b.asPath).then (lexCmp compare a.communities b.communities)

/-- The failures and external routes of a counterexample. -/
structure Environment where
  name : String
  failedLinks : List TraceEdge
  advertisements : List Advertisement
  deriving DecidableEq, Repr, Inhabited

/-- The network a trace belongs to. -/
inductive Scenario where
  | base
  | delta
  deriving DecidableEq, Repr, Inhabited

def Scenario.name : Scenario → String
  | .base => "BASE"
  | .delta => "DELTA"

/-- A trace with its packet, network and environment. -/
structure HistoryEntry where
  flow : Flow
  scenario : Scenario
  environment : Environment
  trace : FlowTrace
  deriving DecidableEq, Repr, Inhabited

/-- Traces, in the order they were added. -/
structure FlowHistory where
  traces : List HistoryEntry := []
  deriving DecidableEq, Repr, Inhabited

/-- The lines of a text: split at line feeds, a final empty line dropped, and a carriage return
before each line feed removed. -/
def textLines (s : String) : List String :=
  let parts := s.splitOn "\n"
  let parts := if parts.getLast? == some "" then parts.dropLast else parts
  parts.map fun l => if l.endsWith "\r" then String.ofList (l.toList.dropLast) else l

/-- Per trace: the scenario and packet, the failed links, the received routes, and the path,
indented. -/
def FlowHistory.text (h : FlowHistory) : String :=
  String.join <| h.traces.map fun e =>
    e.scenario.name ++ " " ++ e.flow.text ++ "\n" ++
    String.join (e.environment.failedLinks.map fun l => "  failed " ++ l.text ++ "\n") ++
    String.join (e.environment.advertisements.map fun a =>
      "  received " ++ a.network.text ++ " from " ++ a.srcNode ++ " at " ++ a.dstNode ++ "\n") ++
    String.join ((textLines e.trace.text).map fun l => "  " ++ l ++ "\n")

namespace Counterexample

def buildFlow (m : Model) (p : Packet) (router : String) : Except SmtError Flow := do
  let word (t : Term) : Except SmtError Nat := do pure ((← m.evalInt t) % Int.pow 2 32).toNat
  let flag (t : Term) : Except SmtError Bool := m.evalBool t
  pure { ingressNode := router, srcIp := Ip.ofNat (← word p.srcIp), dstIp := Ip.ofNat (← word p.dstIp),
         srcPort := ← word p.srcPort, dstPort := ← word p.dstPort, ipProtocol := ← word p.ipProtocol,
         icmpType := ← word p.icmpType, icmpCode := ← word p.icmpCode,
         tcpFlags := { ack := ← flag p.tcpAck, cwr := ← flag p.tcpCwr, ece := ← flag p.tcpEce,
                       fin := ← flag p.tcpFin, psh := ← flag p.tcpPsh, rst := ← flag p.tcpRst,
                       syn := ← flag p.tcpSyn, urg := ← flag p.tcpUrg },
         tag := "SMT" }

def buildPrefix (m : Model) (r : Route) (f : Flow) : Except SmtError Prefix := do
  let len ← m.evalInt r.prefixLength
  pure (Prefix.make f.dstIp (min (max len 0) 32).toNat)

def buildProtocol (m : Model) (r : Route) (s : Slice) (router : String) : Except SmtError Protocol := do
  if let some h := r.history then
    if let some p ← h.decode m then
      return p
  return ((s.scope.protocolsOf router).head?).getD .connected

def linkOf (e : GraphEdge) : TraceEdge :=
  ⟨e.router, e.start.name, e.peer.getD "none", (e.finish.map (·.name)).getD "none"⟩

def hopOf (e : GraphEdge) (route : String) : Hop :=
  { edge := ⟨e.router, e.start.name, e.peer.getD "(none)", (e.finish.map (·.name)).getD nullInterfaceName⟩,
    routes := [route] }

def routeText (p : Prefix) (proto : Protocol) (e : GraphEdge) : String :=
  if proto == .connected then
    "ConnectedRoute<" ++ p.text ++ ",nhip:AUTO/NONE(-1l),nhint:" ++ e.start.name ++ ">"
  else
    let nhip := (e.startAddress.map fun a => a.ip.text).getD "none"
    proto.title ++ "Route<" ++ p.text ++ ",nhip:" ++ nhip ++ ",nhint:dynamic>"

/-- The note of a dropped packet: the kind, with the filter and its matching line if a filter
dropped it. -/
def deniedNote (kind : String) (g : Graph) (router : String) (filter : Option String) (f : Flow) :
    Except NetworkError String := do
  match filter with
  | none => pure kind
  | some name =>
    let conf ← g.config router
    let acl ← match conf.acls.get? name with
      | some a => pure a
      | none => throw (.aclNotFound router name)
    let r ← acl.run f conf.acls
    let line := ((r.matchedLine.bind fun i => acl.lines[i]?).map (·.name)).getD "default deny"
    pure (kind ++ "\x7b" ++ acl.name ++ "\x7d\x7b" ++ line ++ "\x7d")

def failedLinks (m : Model) (enc : Encoder) : Except EncodingError (List TraceEdge) := do
  let g := enc.graph
  let mut failed : List GraphEdge := []
  for (_, edges) in g.edgeMap.entries do
    for e in edges do
      let v ← enc.failures.failedVariable e
      if (← m.evalInt v) != 0 then
        let reverseKnown := (g.otherEnd? e).any fun o => Ordered.contains GraphEdge.cmp o failed
        if !reverseKnown then
          failed := Ordered.insert GraphEdge.cmp e failed
  return Ordered.setOf TraceEdge.cmp (failed.map linkOf)

def envRoutingTable (m : Model) (enc : Encoder) : Except EncodingError (List Advertisement) := do
  let s := enc.main
  let d := s.decisions
  let mut routes : List Advertisement := []
  for (id, record) in s.logical.environment do
    if !(← m.evalBool record.permitted) then continue
    let e := id.edge
    let ctrl ← match d.controlOf? e with
      | some c => pure c
      | none => throw (.missingVariable ("control forwarding of " ++ e.text))
    if !(← m.evalBool ctrl) then continue
    let some best := d.best.get? e.router | continue
    let flow ← buildFlow m s.packet e.router
    let network ← buildPrefix m best flow
    let pathLen := (max (← m.evalInt best.metric) 0).toNat
    let neighbor := s.graph.ebgpNeighbor? e
    let srcNode := (neighbor.map fun n => "as" ++ toString n.remoteAs).getD ""
    let dstIp := ((neighbor.bind (·.localIp)).orElse fun _ => e.startAddress.map (·.ip)).getD Ip.zero
    let mut communities : List Community := []
    for (c, t) in best.communities do
      if c.kind == .exact then
        if ← m.evalBool t then
          communities := Ordered.insert compare (← Community.parse c.value) communities
    routes := Ordered.insert Advertisement.cmp
      { advType := "EBGP_RECEIVED", network, srcNode, dstNode := e.router, dstIp, protocol := .bgp,
        localPref := 100, med := 80, asPath := List.replicate pathLen (-1), communities } routes
  return routes

/-- How the path of a packet continues after a router: it stops, or goes on to a neighbor. -/
inductive Next where
  | stop (d : Disposition) (notes : String)
  | forward (router : String)

/-- The first entry of a router's data forwarding list that the packet leaves on: the first whose
data forwarding variable holds (`true`), or whose control forwarding variable does (`false`). -/
def firstForwarding (m : Model) (d : Decisions) : List (GraphEdge × Term) →
    Except EncodingError (Option (GraphEdge × Bool))
  | [] => pure none
  | (e, dfwd) :: rest => do
    if ← m.evalBool dfwd then return some (e, true)
    match d.controlOf? e with
    | some ctrl => if ← m.evalBool ctrl then return some (e, false) else firstForwarding m d rest
    | none => firstForwarding m d rest

/-- How the path goes on when the packet leaves `current` on `e`, whose data forwarding variable
holds: it loops back to a visited router, is dropped by the next router's inbound filter, is
accepted, leaves the network, or goes on to the peer. -/
def leave (m : Model) (s : Slice) (f : Flow) (current : String) (visited : List String)
    (e : GraphEdge) : Except EncodingError Next := do
  let g := s.graph
  if e.peer.any visited.contains then
    return .stop .loop "LOOP"
  let across ← match s.forwardsAcross? current e with
    | some t => pure t
    | none => throw (.missingVariable ("forwards across " ++ e.text))
  if !(← m.evalBool across) then
    let (peer, filter) := match e.peer, e.finish with
      | some p, some fin => (p, fin.incomingFilter)
      | _, _ => (current, none)
    return .stop .deniedIn (← deniedNote "DENIED_IN" g peer filter f)
  if Graph.isLoopback e then
    return .stop .accepted "ACCEPTED"
  match e.peer with
  | none =>
    if g.isEbgp e then return .stop .accepted "ACCEPTED"
    else return .stop .exitsNetwork exitsNetworkNote
  | some peer =>
    if g.isHost peer then return .stop .accepted "ACCEPTED"
    else return .forward peer

def permittedBest (m : Model) (s : Slice) (current : String) : Except EncodingError Bool :=
  match s.decisions.best.get? current with
  | some b => liftM (m.evalBool b.permitted)
  | none => pure false

/-- How the path ends at `current` when the packet leaves on no edge: without a permitted best
route there is no route; otherwise the packet is accepted if its destination is an address of the
router, and leaves the network if not. -/
def stopAt (m : Model) (s : Slice) (f : Flow) (current : String) :
    Except EncodingError (Disposition × String) := do
  if !(← permittedBest m s current) then
    return (.noRoute, "NO_ROUTE")
  let isLocal := (s.graph.edges current).any fun e => (e.startAddress.map (·.ip == f.dstIp)).getD false
  if isLocal then return (.accepted, "ACCEPTED")
  else return (.exitsNetwork, exitsNetworkNote)

/-- The prefix and protocol of the route the router uses for the packet: those of its best route,
or the packet's destination and `connected` without one. -/
def routeOf (m : Model) (s : Slice) (f : Flow) (current : String) :
    Except EncodingError (Prefix × Protocol) :=
  match s.decisions.best.get? current with
  | some b => do pure (← buildPrefix m b f, ← buildProtocol m b s current)
  | none => pure (Prefix.make f.dstIp 0, Protocol.connected)

def routerStep (m : Model) (s : Slice) (f : Flow) (current : String) (visited : List String)
    (hops : List Hop) : Except EncodingError (List Hop × Next) := do
  let route ← routeOf m s f current
  match ← firstForwarding m s.decisions (s.decisions.data.getD current []) with
  | some (e, true) =>
    pure (hops ++ [hopOf e (routeText route.1 route.2 e)], ← leave m s f current visited e)
  | some (e, false) =>
    let note ← deniedNote "DENIED_OUT" s.graph current e.start.outgoingFilter f
    pure (hops ++ [hopOf e (routeText route.1 route.2 e)], .stop .deniedOut note)
  | none =>
    let stop ← stopAt m s f current
    pure (hops, .stop stop.1 stop.2)

/-- Follow the packet from router to router. Every step visits a new router, so the number of
routers plus one bounds the walk. -/
def walk (m : Model) (s : Slice) (f : Flow) : Nat → String → List String → List Hop →
    Except EncodingError FlowTrace
  | 0, _, _, hops => pure { disposition := .loop, hops, notes := "LOOP" }
  | fuel + 1, current, visited, hops => do
    let visited := if visited.contains current then visited else visited ++ [current]
    match ← routerStep m s f current visited hops with
    | (hops, .stop d notes) => pure { disposition := d, hops, notes }
    | (hops, .forward next) => walk m s f fuel next visited hops

/-- The packet of the model entering at `router`, and its path through the main slice, following
the data forwarding decisions until it is accepted, dropped, or loops. -/
def flowTrace (m : Model) (enc : Encoder) (router : String) : Except EncodingError (Flow × FlowTrace) := do
  let s := enc.main
  let f ← buildFlow m s.packet router
  let t ← walk m s f (s.graph.routers.length + 1) router [] []
  return (f, t)

def environment (m : Model) (name : String) (enc : Encoder) : Except EncodingError Environment := do
  pure { name, failedLinks := ← failedLinks m enc, advertisements := ← envRoutingTable m enc }

def flowHistory (m : Model) (name : String) (sources : List String) (enc : Encoder)
    (reach : NameMap Bool) : Except EncodingError FlowHistory := do
  let mut h : FlowHistory := {}
  for source in sources do
    if reach.getD source false then continue
    let (f, t) ← flowTrace m enc source
    let env ← environment m name enc
    h := { traces := h.traces ++ [{ flow := f, scenario := .base, environment := env, trace := t }] }
  return h

/-- Traces, in both copies, of every source whose reachability differs between the `base` and
the `delta` copy. -/
def flowHistoryDiff (m : Model) (name : String) (sources : List String) (delta base : Encoder)
    (reachDelta reachBase : NameMap Term) : Except EncodingError FlowHistory := do
  let mut h : FlowHistory := {}
  for source in sources do
    let (some d, some b) := (reachDelta.get? source, reachBase.get? source) | continue
    if (← m.evalBool d) == (← m.evalBool b) then continue
    let (fb, tb) ← flowTrace m base source
    let (fd, td) ← flowTrace m delta source
    let eb ← environment m name base
    let ed ← environment m (name ++ "-with-delta") delta
    h := { traces := h.traces ++ [{ flow := fb, scenario := .base, environment := eb, trace := tb },
      { flow := fd, scenario := .delta, environment := ed, trace := td }] }
  return h

end Counterexample
end ControlPlane
