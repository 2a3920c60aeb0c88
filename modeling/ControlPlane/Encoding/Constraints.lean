import ControlPlane.Encoding.Transfer

/-!
# The constraints of a slice

Once every slice exists, each adds its constraints: value bounds, community dependencies, the
transfer function of every used logical edge, the choice of best routes per protocol and
overall, control and data forwarding, defaults of routes that do not exist, the header space of
the slice's packet, and for the main slice the shape of environment routes.
-/

namespace ControlPlane
namespace Slice

/-- Integer variables stay in their ranges: packet fields, router ids, administrative distances,
local preferences, metrics and prefix lengths. -/
def addBounds (s : Slice) : Build Unit := do
  let zero : Term := .int 0
  let range (x : Term) (upper : Int) : Build Term := do
    Build.both (← Build.ge x zero) (← Build.lt x (.int upper))
  let pkt := s.packet
  Build.assert (← range pkt.dstPort 65536)
  Build.assert (← range pkt.srcPort 65536)
  Build.assert (← range pkt.icmpType 256)
  Build.assert (← Build.both (← Build.ge pkt.ipProtocol zero) (← Build.le pkt.ipProtocol (.int 256)))
  Build.assert (← range pkt.icmpCode 16)
  for r in s.routes do
    if let some id := r.routerId then Build.assert (← Build.ge id zero)
    if let some ad := r.adminDist then Build.assert (← range ad 256)
    if let some med := r.med then Build.assert (← range med 4294967296)
    if let some lp := r.localPref then Build.assert (← range lp 4294967296)
    Build.assert (← Build.ge r.metric zero)
    if r.isEnv then Build.assert (← Build.lt r.metric (.int 256))
    Build.assert (← Build.lt r.metric (.int 65536))
    if let some igp := r.igpMetric then Build.assert (← Build.ge igp zero)
    Build.assert (← Build.both (← Build.ge r.prefixLength zero) (← Build.le r.prefixLength (.int 32)))

def addCommunityConstraints (s : Slice) : Build Unit := do
  for r in s.routes do
    for (c, e) in r.communities do
      if c.isRegex then
        let deps := (Ordered.find? compare c s.graph.communityDeps).getD []
        let any ← Build.anyOf (deps.filterMap fun d => Ordered.find? compare d r.communities)
        Build.assert (← Build.equals any e)

def policyStatements (c : Configuration) : Option String → Except EncodingError (Option (List Statement))
  | none => .ok none
  | some name =>
    match c.routingPolicies.get? name with
    | some p => .ok (some p.statements)
    | none => .error (.network (.policyNotFound c.hostname name))

def notFailed (env : SliceEnv) (e : GraphEdge) : Encode Term := do
  let f ← env.failures.failedVariable e
  Build.equals f (.int 0)

def notFailedNode (env : SliceEnv) (r : String) : Build Term :=
  Build.equals (env.failures.failedNode r) (.int 0)

/-- Condition for receiving the route of a session. With IGP modeling, an iBGP route needs the
sender to be reachable in its slice. -/
def receiveMessage (s : Slice) (env : SliceEnv) (p : Protocol) (e : GraphEdge) (other : Route)
    (notFailed : Term) : Encode Term := do
  if p != .bgp || !env.modelIgp then return notFailed
  let pt ← s.graph.peerType e
  let current := e.router
  match pt, e.peer with
  | .toEbgp, _ => return notFailed
  | .toRr, _ =>
    let mut acc : List Term := []
    if let some cid := other.clientId then
      for (r, id) in s.graph.originatorId.entries do
        if r != current then
          acc := acc ++ [← Build.implies (← cid.isValue id) (env.reaches current r)]
    Build.allOf acc
  | _, some peer => return env.reaches current peer
  | _, none => return notFailed

/-- The route on an import edge: a connected or static route that the router originates, or the
neighbor's route through the import policy. -/
def addImport (s : Slice) (env : SliceEnv) (c : Configuration) (p : Protocol) (le : LogicalEdge) :
    Encode Unit := do
  let e := le.edge
  let iface := e.start
  let vars := le.route
  let notPermitted ← Build.neg vars.permitted
  let nf ← notFailed env e
  let nfNode ← notFailedNode env e.router
  let active : Term := .bool (Graph.isInterfaceActive p iface)
  let dst := s.packet.dstIp
  let origin (pfx : Prefix) (ad : Int) : Build (Term × Term) := do
    let relevant ← Build.allOf [active, ← PacketFormula.firstBitsEqual dst pfx, nf, nfNode]
    let values ← Build.allOf [vars.permitted, ← Build.equals vars.prefixLength (.int pfx.len),
      ← safeEq vars.adminDist (.int ad), ← safeEq vars.localPref (.int 0),
      ← Build.equals vars.metric (.int 0)]
    pure (relevant, values)
  match p with
  | .connected =>
    let t ← match iface.subnet? with
      | some pfx => do
        let (relevant, values) ← origin pfx 1
        Build.cond relevant values notPermitted
      | none => pure notPermitted
    Build.assert t
  | .static =>
    let srs := (s.graph.staticRoutes e.router iface.name).mergeSort fun a b => a.network.len ≤ b.network.len
    let acc ← srs.foldlM (fun acc sr => do
      let (relevant, values) ← origin sr.network sr.adminCost
      Build.cond relevant values acc) notPermitted
    Build.assert acc
  | .ospf | .bgp =>
    match s.logical.otherRoute? le with
    | none => Build.assert notPermitted
    | some other =>
      let receive ← s.receiveMessage env p e other nf
      let loop := if p == .bgp && e.peer.isSome then
          ((s.graph.otherEnd? e).bind s.decisions.controlOf?).getD Term.ff
        else Term.ff
      let usable ← Build.allOf [← Build.neg loop, active, other.permitted, receive, nfNode]
      let stmts ← policyStatements c (s.graph.importPolicy? p e)
      let cost : Int := if p == .ospf then iface.ospfCost.getD 1 else 0
      let f : TransferFunction :=
        { slice := s, env, conf := c, other, current := vars, proto := p,
          statements := stmts.getD [.exitAccept], cost, edge := e, isExport := false }
      let imported ← f.compute
      Build.assert (← Build.cond usable imported notPermitted)

/-- The route on an export edge: the router's best route through the export policy, for OSPF
also the better of it and the redistributed route, and the networks OSPF originates. -/
def addExport (s : Slice) (env : SliceEnv) (c : Configuration) (p : Protocol) (le : LogicalEdge) :
    Encode Unit := do
  let e := le.edge
  let iface := e.start
  let router := e.router
  let vars := le.route
  let notPermitted ← Build.neg vars.permitted
  if !(p == .ospf || p == .bgp) then return ← Build.assert notPermitted
  let (other, redistributed, overallBest) := if p == .ospf then
      (s.bestOf? router p, s.ospfRedistributed.get? router, s.decisions.best.get? router)
    else (s.decisions.best.get? router, none, none)
  let some other := other | Build.assert notPermitted
  let nf ← notFailed env e
  let nfNode ← match e.peer with
    | some peer => notFailedNode env peer
    | none => pure Term.tt
  let active : Term := .bool (Graph.isInterfaceActive p iface)
  let mut cost : Int := if p == .bgp then 1 else 0
  let mut doExport := Term.tt
  if p == .bgp && s.scope.needsBgpInternal router then
    match ← s.graph.peerType e with
    | .toEbgp => pure ()
    | .toClient => cost := 0
    | .toNonclient | .toRr =>
      let bestBgp := (s.bestOf? router p).getD other
      if let some internal := bestBgp.bgpInternal then
        doExport ← Build.neg internal
        cost := 0
  let policy ← policyStatements c (s.graph.exportPolicy? c p e)
  let statements : List Statement := if p == .ospf then
      [.ite (.matchProtocol [.ospf]) [.exitAccept] (policy.getD [.exitReject])]
    else policy.getD [.exitAccept]
  let f : TransferFunction :=
    { slice := s, env, conf := c, other, current := vars, proto := p, statements, cost, edge := e,
      isExport := true }
  let exported ← f.compute
  let usable ← Build.allOf [active, doExport, other.permitted, nf, nfNode]
  let mut acc ← match redistributed, overallBest with
    | some redist, some best => do
      let g : TransferFunction := { f with other := best, current := redist }
      let redistTransfer ← g.compute
      Build.assert redistTransfer
      let usableRedist ← Build.allOf [active, doExport, redist.permitted, nf, nfNode]
      let geq ← s.greaterOrEqual env p redist other (some le)
      let usesOspf ← Build.both other.permitted (← Build.neg (← Build.both redist.permitted geq))
      let eq ← Build.both (← s.equal c p redist (some vars) (some le) false)
        (← Build.equals redist.permitted vars.permitted)
      Build.cond usesOspf (← Build.cond usable exported notPermitted)
        (← Build.cond usableRedist eq notPermitted)
    | _, _ => Build.cond usable exported notPermitted
  if p == .ospf then
    let origins := ((Ordered.find? compare p (s.originated.getD router [])).getD []).mergeSort
      fun a b => a.len ≤ b.len
    for pfx in origins do
      let len : Term := .int pfx.len
      let mut relevant ← Build.both active (← PacketFormula.firstBitsEqual s.packet.dstIp pfx)
      if let some redist := redistributed then
        let ad := redist.adminDist.getD (.int 110)
        let better ← Build.either (← Build.gt redist.prefixLength len)
          (← Build.both (← Build.equals redist.prefixLength len) (← Build.lt ad (.int 110)))
        relevant ← Build.both relevant (← Build.neg (← Build.both redist.permitted better))
      let mut values := [vars.permitted, ← safeEq vars.localPref (.int 0),
        ← safeEq vars.adminDist (.int 110), ← Build.equals vars.metric (.int cost),
        ← safeEq vars.med (.int 100), ← Build.equals vars.prefixLength len,
        ← safeEq vars.bgpInternal Term.ff, ← safeEq vars.igpMetric (.int 0)]
      if let some t := vars.ospfType then values := values ++ [← t.isValue .o]
      if let (some area, some a) := (vars.ospfArea, iface.ospfArea) then
        values := values ++ [← area.isValue a]
      values := values ++ (← vars.communities.mapM fun (_, c) => Build.neg c)
      acc ← Build.cond relevant (← Build.allOf values) acc
  Build.assert acc

/-- The transfer function of every used logical edge. A protocol of a router without used edges
has no best route. -/
def addTransferFunctions (s : Slice) (env : SliceEnv) : Encode Unit := do
  for (router, protos) in s.scope.protocols.entries do
    let c ← s.graph.config router
    for p in protos do
      let mut hasEdge := false
      for le in s.logical.edgesOf router p do
        if s.graph.isEdgeUsed c p le.edge then
          hasEdge := true
          match le.kind with
          | .importing => s.addImport env c p le
          | .exporting => s.addExport env c p le
      if !hasEdge then
        if let some best := s.bestOf? router p then
          Build.assert (← Build.neg best.permitted)

def addHistoryConstraints (s : Slice) : Encode Unit := do
  for (router, best) in s.decisions.best.entries do
    if s.scope.isSingle router then
      if let (some h, some p) := (best.history, (s.scope.protocolsOf router).head?) then
        Build.assert (← Build.implies best.permitted (← h.isValue p))

/-- The best route of each protocol is at least as good as every route imported for it, and
equals one of them if any exists. -/
def addBestPerProtocol (s : Slice) (env : SliceEnv) : Encode Unit := do
  for (router, protos) in s.scope.protocols.entries do
    let c ← s.graph.config router
    for p in protos do
      if let some best := s.bestOf? router p then
        let mut somePermitted : List Term := []
        let mut acc : List Term := []
        for le in s.logical.importEdges s.graph c p do
          let vars := le.route
          somePermitted := somePermitted ++ [vars.permitted]
          acc := acc ++ [← Build.both vars.permitted (← s.equal c p best (some vars) (some le) true)]
          let geq ← s.greaterOrEqual env p best vars (some le)
          Build.assert (← Build.implies vars.permitted geq)
        if !somePermitted.isEmpty then
          let some ← Build.anyOf somePermitted
          Build.assert (← Build.equals some best.permitted)
          Build.assert (← Build.implies some (← Build.anyOf acc))

def addChoicePerProtocol (s : Slice) : Encode Unit := do
  for (router, protos) in s.scope.protocols.entries do
    let c ← s.graph.config router
    for p in protos do
      if let some best := s.bestOf? router p then
        for le in s.logical.importEdges s.graph c p do
          let choice ← Encode.need (.missingVariable ("choice of " ++ le.text)) (s.decisions.choiceOf? router le.id)
          let isBest ← Build.both le.route.permitted (← s.equal c p best (some le.route) (some le) false)
          Build.assert (← Build.equals choice isBest)

/-- The overall best route of a router with several protocols is at least as good as each
protocol's best route, and equals one of them if any exists. -/
def addBestOverall (s : Slice) (env : SliceEnv) : Encode Unit := do
  for (router, protos) in s.scope.protocols.entries do
    if !s.scope.isSingle router then
      let c ← s.graph.config router
      if let some best := s.decisions.best.get? router then
        let mut somePermitted : List Term := []
        let mut acc : List Term := []
        for p in protos do
          if let some bv := s.bestOf? router p then
            somePermitted := somePermitted ++ [bv.permitted]
            acc := acc ++ [← Build.both bv.permitted (← s.equal c p best (some bv) none true)]
            let geq ← s.greaterOrEqual env p best bv none
            Build.assert (← Build.implies bv.permitted geq)
        if somePermitted.isEmpty then
          Build.assert (← Build.neg best.permitted)
        else
          let some ← Build.anyOf somePermitted
          Build.assert (← Build.equals some best.permitted)
          Build.assert (← Build.implies some (← Build.anyOf acc))

/-- A connected route forwards packets that are not addressed to the router itself: towards the
neighbor's address, or, on an edge without a router neighbor, anything but the own address. -/
def connectedWillSend (s : Slice) (e : GraphEdge) : Build Term := do
  let dst := s.packet.dstIp
  let toHost := (e.peer.map s.graph.isHost).getD false
  match s.graph.otherEnd? e with
  | some other =>
    if !toHost then
      match other.startAddress with
      | some a => return ← Build.equals dst (ipTerm a)
      | none => return Term.ff
    else
      match e.startAddress with
      | some a => Build.neg (← Build.equals dst (ipTerm a))
      | none => pure Term.tt
  | none =>
    match e.startAddress with
    | some a => Build.neg (← Build.equals dst (ipTerm a))
    | none => pure Term.tt

def controlVar (s : Slice) (e : GraphEdge) : Encode Term :=
  Encode.need (.missingVariable ("control forwarding of " ++ e.text)) (s.decisions.controlOf? e)

/-- The router forwards over the edge of an import edge whose route is its best route; with a
connected route, only the packets that the route forwards. Gives, by edge, the conditions under
which the router sends over it, and whether the router has an import edge at all. -/
def addSendingEdges (s : Slice) (router : String) (c : Configuration) (best : Route) :
    Encode (List (GraphEdge × List Term) × Bool) := do
  let mut sendsOver : List (GraphEdge × List Term) := []
  let mut someEdge := false
  for p in s.scope.protocolsOf router do
    for le in s.logical.importEdges s.graph c p do
      someEdge := true
      let e := le.edge
      let choice ← Encode.need (.missingVariable ("choice of " ++ le.text)) (s.decisions.choiceOf? router le.id)
      let isBest ← Build.both choice (← s.equal c p best (some le.route) (some le) false)
      let canSend ← if p == .connected then s.connectedWillSend e else pure Term.tt
      let sends ← Build.both canSend isBest
      Build.assert (← Build.implies sends (← s.controlVar e))
      sendsOver := Ordered.update GraphEdge.cmp e [] (· ++ [sends]) sendsOver
  return (sendsOver, someEdge)

def forbidSilentEdges (s : Slice) (router : String) (sendsOver : List (GraphEdge × List Term)) :
    Encode Unit := do
  for e in s.graph.edges router do
    if !Ordered.mem GraphEdge.cmp e sendsOver then
      Build.assert (← Build.neg (← s.controlVar e))

/-- The router forwards over the edge of a logical edge only under one of its conditions for
that edge; asserted once per edge. -/
def requireSending (s : Slice) (router : String) (sendsOver : List (GraphEdge × List Term)) :
    Encode Unit := do
  let mut seen : List GraphEdge := []
  for p in s.scope.protocolsOf router do
    for le in s.logical.edgesOf router p do
      if !Ordered.contains GraphEdge.cmp le.edge seen then
        seen := Ordered.insert GraphEdge.cmp le.edge seen
        let cf ← s.controlVar le.edge
        match Ordered.find? GraphEdge.cmp le.edge sendsOver with
        | some sends => Build.assert (← Build.implies (← Build.neg (← Build.anyOf sends)) (← Build.neg cf))
        | none => Build.assert (← Build.neg cf)

def addControlForwarding (s : Slice) : Encode Unit := do
  for (router, c) in s.graph.configs.entries do
    let (sendsOver, someEdge) ← match s.decisions.best.get? router with
      | some best => s.addSendingEdges router c best
      | none => pure ([], false)
    s.forbidSilentEdges router sendsOver
    if someEdge then s.requireSending router sendsOver

/-- Conditions under which packets leave on edge `e` of `router` through an iBGP session of the
router: it forwards over the session's abstract edge, and the slice of the session's next hop
lets them leave on `e`. -/
def nextHopForwarding (s : Slice) (env : SliceEnv) (router : String) (edges : List GraphEdge)
    (e : GraphEdge) : Encode (List Term) := do
  let mut fwd : List Term := []
  for e2 in edges do
    if e2.isAbstract then
      if let some ctrl := s.decisions.controlOf? e2 then
        if (← s.graph.peerType e2) == .toRr then
          let cid := (s.decisions.best.get? router).bind (·.clientId)
          for (r, id) in s.graph.originatorId.entries do
            let next := (env.slice? r).bind (·.decisions.dataOf? e)
            if let (some cid, some next) := (cid, next) then
              fwd := fwd ++ [← Build.allOf [ctrl, ← cid.isValue id, next]]
        else if let some peer := e2.peer then
          if let some next := (env.slice? peer).bind (·.decisions.dataOf? e) then
            fwd := fwd ++ [← Build.both ctrl next]
  return fwd

/-- Packets leave on an edge when the router forwards over it, or over an iBGP session whose
next hop the IGP reaches over it, and the outbound filter lets them out. -/
def addDataForwarding (s : Slice) (env : SliceEnv) : Encode Unit := do
  for (router, edges) in s.graph.edgeMap.entries do
    for e in edges do
      if !e.isAbstract then
        let missing (what : String) : EncodingError := .missingVariable (what ++ " of " ++ e.text)
        let cf ← Encode.need (missing "control forwarding") (s.decisions.controlOf? e)
        let df ← Encode.need (missing "data forwarding") (s.decisions.dataOf? e)
        let viaSessions ← if s.isMain then s.nextHopForwarding env router edges e else pure []
        let acl := (Ordered.find? GraphEdge.cmp e s.outboundAcls).getD Term.tt
        Build.assert (← Build.equals (← Build.both (← Build.anyOf (cf :: viaSessions)) acl) df)

def addUnusedDefaults (s : Slice) : Build Unit := do
  let zero : Term := .int 0
  for r in s.routes do
    let notPermitted ← Build.neg r.permitted
    let mut defaults := [← Build.equals r.prefixLength zero, ← Build.equals r.metric zero]
    for x in [r.adminDist, r.med, r.localPref, r.igpMetric, r.routerId] do
      if let some x := x then defaults := defaults ++ [← Build.equals x zero]
    if let some a := r.ospfArea then defaults := defaults ++ [← a.isDefault]
    if let some t := r.ospfType then defaults := defaults ++ [← t.isDefault]
    if let some h := r.history then defaults := defaults ++ [← h.isDefault]
    if let some c := r.clientId then defaults := defaults ++ [← c.isDefault]
    if let some i := r.bgpInternal then defaults := defaults ++ [← Build.neg i]
    defaults := defaults ++ (← r.communities.mapM fun (_, c) => Build.neg c)
    for d in defaults do
      Build.assert (← Build.implies notPermitted d)

def addEnvironmentConstraints (s : Slice) : Encode Unit := do
  for (_, r) in s.logical.environment do
    if let some i := r.bgpInternal then Build.assert (← Build.neg i)
    if let some c := r.clientId then Build.assert (← c.isValue 0)

def computeEncoding (s : Slice) (env : SliceEnv) : Encode Unit := do
  s.addBounds
  s.addCommunityConstraints
  s.addTransferFunctions env
  s.addHistoryConstraints
  s.addBestPerProtocol env
  s.addChoicePerProtocol
  s.addBestOverall env
  s.addControlForwarding
  s.addDataForwarding env
  s.addUnusedDefaults
  Build.assert (← PacketFormula.headerSpace s.packet s.headerSpace)
  if s.isMain then s.addEnvironmentConstraints

end Slice
end ControlPlane
