import ControlPlane.Encoding.Acl
import ControlPlane.Encoding.Decisions
import ControlPlane.Encoding.Failures

/-!
# Slices

A slice is one copy of the network's control plane, specialized to a set of packets (its header
space). The main slice models every protocol for the packet of the question; the other slices
model the IGP towards the address of an iBGP speaker, which tells whether its sessions come up.

A slice is built in two phases. Creating it registers all its variables: forwarding decisions,
best routes, the routes on every logical edge, choices, environment routes and access lists.
Its constraints come later, once every slice exists, because the main slice refers to the
variables of the others.
-/

namespace ControlPlane

def mainSliceName : String := "SLICE-MAIN_"

def sliceName (r : String) : String := "SLICE-" ++ r ++ "_"

def defaultLocalPref : Int := 100

/-- One copy of the control plane for a header space, with all its variables. -/
structure Slice where
  id : Nat
  name : String
  isMain : Bool
  modelIgp : Bool
  graph : Graph
  headerSpace : HeaderSpace
  scope : Scope
  logical : LogicalGraph
  decisions : Decisions
  packet : Packet
  inboundAcls : List (GraphEdge × Term)
  outboundAcls : List (GraphEdge × Term)
  forwards : NameMap (List (GraphEdge × Term))
  ospfRedistributed : NameMap Route
  originated : NameMap (List (Protocol × List Prefix))
  routes : List Route
  deriving Inhabited

namespace Slice

def pre (s : Slice) : String := toString s.id ++ "_" ++ s.name

def bestOf? (s : Slice) (r : String) (p : Protocol) : Option Route := s.decisions.bestOf? s.scope r p

def forwardsAcross? (s : Slice) (r : String) (e : GraphEdge) : Option Term :=
  Ordered.find? GraphEdge.cmp e (s.forwards.getD r [])

def newRoute (s : Slice) (name router : String) (p : Option Protocol) (isEnv : Bool) : Build Route :=
  Route.new name router p s.scope s.graph s.modelIgp isEnv

def addRoute (s : Slice) (r : Route) : Slice := { s with routes := s.routes ++ [r] }

def initOriginated (s : Slice) : Except EncodingError Slice := do
  let mut originated : NameMap (List (Protocol × List Prefix)) := {}
  for (router, protos) in s.scope.protocols.entries do
    let c ← (s.graph.config router).mapError .network
    let per := protos.foldl (fun m p => Ordered.put compare p (Graph.originatedNetworks c p) m)
      (originated.getD router [])
    originated := originated.insert router per
  return { s with originated := originated }

/-- The protocols redistributed into each protocol of each router: the protocol itself and those
its export policies match, when the slice models them. -/
def initRedistribution (s : Slice) : Except EncodingError Slice := do
  let mut lg := s.logical
  for (router, protos) in s.scope.protocols.entries do
    let c ← (s.graph.config router).mapError .network
    for p in protos do
      let policies : List String := match p with
        | .ospf => (c.ospf.bind (·.exportPolicy)).toList
        | .bgp => ((c.bgp.map (·.neighbors)).getD []).filterMap (·.exportPolicy)
        | _ => []
      let others := policies.flatMap fun pol =>
        (Graph.redistributedProtocols c pol p).filter protos.contains
      lg := lg.setRedistributed router p (Ordered.setOf compare (p :: others))
  return { s with logical := lg }

/-- Control forwarding variables of every edge, and data forwarding variables of every edge
that is not abstract. -/
def addForwardingVariables (s : Slice) : Build Slice := do
  let mut d := s.decisions
  for (router, edges) in s.graph.edgeMap.entries do
    for e in edges do
      let base := router ++ "_" ++ e.start.name
      let cf ← Build.boolVar (s.pre ++ "CONTROL-FORWARDING_" ++ base)
      d := { d with control := d.control.insert router (Ordered.put GraphEdge.cmp e cf (d.control.getD router [])) }
      if !e.isAbstract then
        let df ← Build.boolVar (s.pre ++ "DATA-FORWARDING_" ++ base)
        d := { d with data := d.data.insert router (Ordered.put GraphEdge.cmp e df (d.data.getD router [])) }
  return { s with decisions := d }

/-- The overall best route of every router, and the best route per protocol of routers with
several protocols. -/
def addBestVariables (s : Slice) : Build Slice := do
  let mut s := s
  for (router, protos) in s.scope.protocols.entries do
    let best ← s.newRoute (s.pre ++ router ++ "_OVERALL_BEST_None") router none false
    s := s.addRoute best
    s := { s with decisions := { s.decisions with best := s.decisions.best.insert router best } }
    if !s.scope.isSingle router then
      for p in protos do
        let r ← s.newRoute (s.pre ++ router ++ "_" ++ p.name ++ "_BEST_None") router (some p) false
        s := s.addRoute r
        let d := s.decisions
        let per := Ordered.put compare p r (d.bestPerProtocol.getD router [])
        s := { s with decisions := { d with bestPerProtocol := d.bestPerProtocol.insert router per } }
  return s

/-- The logical edges of a used graph edge: an import edge unless it carries connected routes
for a prefix outside the header space, and an export edge for OSPF and BGP. -/
def edgeGroup (s : Slice) (router : String) (p : Protocol) (e : GraphEdge) :
    StateT Slice Build (List LogicalEdge) := do
  let mut group : List LogicalEdge := []
  for kind in [EdgeKind.importing, EdgeKind.exporting] do
    let needed := match kind with
      | .importing =>
        if p == Protocol.connected then (e.start.subnet?.map s.headerSpace.relevantPrefix).getD false else true
      | .exporting => p == Protocol.ospf || p == Protocol.bgp
    if needed then
      let dir := match kind with
        | .importing => "IMPORT"
        | .exporting => "EXPORT"
      let name := s.pre ++ router ++ "_" ++ p.name ++ "_" ++ dir ++ "_" ++ e.start.name
      let route ← s.newRoute name router (some p) false
      modify fun (t : Slice) => t.addRoute route
      group := group ++ [{ edge := e, kind, route }]
  return group

def linkEnds (lg : LogicalGraph) (g : Graph) : LogicalGraph :=
  let links := lg.allWithProto.filterMap fun (p, le) =>
    let opposite := match le.kind with
      | .importing => EdgeKind.exporting
      | .exporting => EdgeKind.importing
    (g.otherEnd? le.edge).bind fun opp =>
      ((lg.edgesOf opp.router p).find? fun x => GraphEdge.cmp x.edge opp == .eq && x.kind == opposite).map
        fun o => (le.id, o.id)
  links.foldl (fun lg (a, b) => lg.setOtherEnd a b) lg

/-- The route records of every logical edge, their links, and the records of routes that OSPF
redistributes from other protocols. -/
def addRecords (s : Slice) : Encode Slice := do
  let mut s := s
  for (router, protos) in s.scope.protocols.entries do
    let c ← s.graph.config router
    for p in protos do
      s := { s with logical := s.logical.addProtocol router p }
      for e in s.graph.edges router do
        if s.graph.isEdgeUsed c p e then
          let (group, s') ← (s.edgeGroup router p e).run s
          s := s'
          if !group.isEmpty then
            s := { s with logical := s.logical.addGroup router p group }
  s := { s with logical := linkEnds s.logical s.graph }
  for (router, protos) in s.scope.protocols.entries do
    if protos.contains .ospf then
      let multiple := ((s.logical.redistributedOf? router .ospf).map fun l => decide (l.length > 1)).getD false
      let hasExport := (s.logical.edgesOf router .ospf).any (·.kind == .exporting)
      if multiple && hasExport then
        let r ← s.newRoute (s.pre ++ router ++ "_OSPF_Redistributed") router (some .ospf) false
        s := s.addRoute r
        s := { s with ospfRedistributed := s.ospfRedistributed.insert router r }
  return s

def addChoices (s : Slice) : Build Slice := do
  let mut choices := s.decisions.choices
  for (router, per) in s.logical.groups.entries do
    for (p, groups) in per do
      for le in groups.flatten do
        if le.kind == .importing then
          let v ← Build.boolVar (le.route.name ++ "_choice")
          let m := choices.getD router []
          choices := choices.insert router (Ordered.update compare p [] (Ordered.put LogicalEdgeId.cmp le.id v) m)
  return { s with decisions := { s.decisions with choices := choices } }

/-- Routes announced by eBGP peers outside the network, one per external BGP import edge. Only
the main slice models BGP. -/
def addEnvironment (s : Slice) : Build Slice := do
  if !s.isMain then return s
  let envs := s.logical.groups.entries.flatMap fun (router, per) =>
    match Ordered.find? compare Protocol.bgp per with
    | none => []
    | some groups => groups.flatten.filterMap fun le =>
      if le.kind == .importing && s.graph.isExternal le.edge then
        (s.graph.ebgpNeighbor? le.edge).map fun n =>
          (router, le.id, s.pre ++ router ++ "_BGP_EXPORT_ENV-" ++ n.peerAddress.text)
      else none
  let mut s := s
  for (router, i, name) in envs do
    let r ← s.newRoute name router (some .bgp) true
    s := s.addRoute r
    s := { s with logical := s.logical.setEnvironment i r }
  return s

def addAcls (s : Slice) : Encode Slice := do
  let mut s := s
  for (router, edges) in s.graph.edgeMap.entries do
    let c ← s.graph.config router
    for e in edges do
      for (filter, dir) in [(e.start.outgoingFilter, "OUTBOUND"), (e.start.incomingFilter, "INBOUND")] do
        if let some name := filter then
          let acl ← match c.acls.get? name with
            | some a => pure a
            | none => throw (.network (.aclNotFound router name))
          let v ← Build.boolVar (s.pre ++ "_" ++ router ++ "_" ++ e.start.name ++ "_" ++ dir ++ "_" ++ name)
          let compiled ← PacketFormula.compileAcl s.packet acl
          Build.assert (← Build.equals v compiled)
          if dir == "OUTBOUND" then
            s := { s with outboundAcls := Ordered.put GraphEdge.cmp e v s.outboundAcls }
          else
            s := { s with inboundAcls := Ordered.put GraphEdge.cmp e v s.inboundAcls }
  return s

/-- Packets cross an edge: they leave on it, and the inbound filter at the other end, if any,
lets them in. -/
def addForwardsAcross (s : Slice) : Build Slice := do
  let mut forwards := s.forwards
  for (router, edges) in s.decisions.data.entries do
    for (e, df) in edges do
      let inAcl := match e.finish with
        | none => Term.tt
        | some _ => ((s.graph.otherEnd? e).bind fun o => Ordered.find? GraphEdge.cmp o s.inboundAcls).getD Term.tt
      let t ← Build.both df inAcl
      forwards := forwards.insert router (Ordered.put GraphEdge.cmp e t (forwards.getD router []))
  return { s with forwards := forwards }

/-- A new slice with all its variables. Names start with the copy's id and the slice's name;
the empty name and the main slice name make the main slice. -/
def new (id : Nat) (name : String) (g : Graph) (hs : HeaderSpace) (modelIgp : Bool) : Encode Slice := do
  let isMain := name.isEmpty || name == mainSliceName
  let scope := Scope.make g hs isMain
  let packet ← Packet.new (toString id ++ "_" ++ name)
  let s : Slice :=
    { id, name, isMain, modelIgp, graph := g, headerSpace := hs, scope, logical := {},
      decisions := {}, packet, inboundAcls := [], outboundAcls := [], forwards := {},
      ospfRedistributed := {}, originated := {}, routes := [] }
  let s ← s.initOriginated
  let s ← s.initRedistribution
  let s ← s.addForwardingVariables
  let s ← s.addBestVariables
  let s ← s.addRecords
  let s ← s.addChoices
  let s ← s.addEnvironment
  let s ← s.addAcls
  s.addForwardsAcross

def importEdgeIds (s : Slice) (r : String) : List LogicalEdgeId :=
  (s.scope.protocolsOf r).flatMap fun p =>
    ((s.logical.edgesOf r p).filter (·.kind == .importing)).map (·.id)

end Slice
end ControlPlane
