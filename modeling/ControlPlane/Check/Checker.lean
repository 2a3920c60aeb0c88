import ControlPlane.Check.Verify
import ControlPlane.Check.Locate

/-!
# Properties

Each property is checked by encoding the network (once, or twice for properties that compare two
copies), adding the negation of the property, and asking the solver for a model: the property
holds iff there is none. A model is a counterexample.

The checks share one monad: the current context, the solver's state, and the errors of
verification. Each check starts from a fresh context; the solver's state survives errors.
-/

namespace ControlPlane

abbrev Check (σ : Type) := ExceptT VerifyError (Solve σ)

instance {σ : Type} : MonadLift Encode (Check σ) where
  monadLift x := ExceptT.mk (StateT.lift (do pure ((← x.run).mapError .encoding)))

instance {σ : Type} : MonadLift (Verify σ) (Check σ) where
  monadLift x := ExceptT.mk (do pure ((← x.run).mapError .encoding))

instance {σ : Type} : MonadLift (Except QueryError) (Check σ) where
  monadLift x := ExceptT.mk (pure (x.mapError .query))

instance {σ : Type} : MonadLift (Except NetworkError) (Check σ) where
  monadLift x := ExceptT.mk (pure (x.mapError .network))

instance {σ : Type} : MonadLift (Except SmtError) (Check σ) where
  monadLift x := ExceptT.mk (pure (x.mapError .smt))

instance {σ : Type} : MonadLift (Except EncodingError) (Check σ) where
  monadLift x := ExceptT.mk (pure (x.mapError .encoding))

/-- A network, a solver, and the name of the network used in counterexamples. -/
structure Checker (σ : Type) where
  graph : Graph
  solver : Solver σ
  name : String := "network"

def saneMetricBound : Int := 50

/-- What a property check leaves for the counterexample. -/
structure PropertyRun where
  result : VerificationResult
  model : Option Model
  sources : List String
  enc : Encoder
  prop : NameMap Term
  base : Option (Encoder × NameMap Term)

namespace Checker

variable {σ : Type}

def fresh : Check σ Unit := modifyThe Context fun _ => {}

def addEnvironmentConstraints (enc : Encoder) (t : EnvironmentType) : Build Unit := do
  match t with
  | .any => pure ()
  | .none =>
    for (_, r) in enc.main.logical.environment do
      Build.assert (← Build.neg r.permitted)
  | .sane =>
    for (_, r) in enc.main.logical.environment do
      Build.assert (← Build.le r.metric (.int saneMetricBound))

/-- Only the links of `failSet` may fail, and a destination edge fails only for packets outside
its subnet. -/
def addLinkFailureConstraints (enc : Encoder) (dests failSet : List GraphEdge) : Encode Unit := do
  let zero : Term := .int 0
  let dstIp := enc.main.packet.dstIp
  for (_, edges) in enc.graph.edgeMap.entries do
    for e in edges do
      let f ← enc.failures.failedVariable e
      if !Ordered.contains GraphEdge.cmp e failSet then
        Build.assert (← Build.equals f zero)
      else if Ordered.contains GraphEdge.cmp e dests then
        if let some a := e.startAddress then
          let relevant ← PacketFormula.firstBitsEqual dstIp (Prefix.make a.ip a.len)
          Build.assert (← Build.implies relevant (← Build.equals f zero))

def addNodeFailureConstraints (enc : Encoder) (failNodes : List String) : Build Unit := do
  for r in enc.graph.routers do
    if !failNodes.contains r then
      Build.assert (← Build.equals (enc.failures.failedNode r) (.int 0))

def sameRoute (s : Slice) (conf : Configuration) (r1 r2 : Route) : Encode Term := do
  let eq ← s.equal conf .connected r1 (some r2) none true
  Build.both eq (← Build.equals r1.permitted r2.permitted)

def relateEnvironments (enc1 enc2 : Encoder) : Check σ Term := do
  let env2 := enc2.main.logical.environment
  let s := enc1.main
  let mut related : List Term := []
  for (id, r1) in s.logical.environment do
    let conf ← enc1.graph.config id.edge.router
    let r2 ← match (env2.reverse.find? fun (i, _) => GraphEdge.cmp i.edge id.edge == .eq && i.kind == id.kind) with
      | some (_, r) => pure r
      | none => throw (.encoding (.missingVariable ("environment of " ++ id.edge.text ++ " in the second copy")))
    related := related ++ [← sameRoute s conf r1 r2]
  Build.allOf related

def interfaceEdges (g : Graph) (router : String) : NameMap GraphEdge :=
  (g.edges router).foldl (fun m e =>
    if !e.isAbstract && !e.isNullEdge then m.insert e.start.name e else m) {}

def ignoredDestinations (s : Slice) (router : String) (conf : Configuration) : Build Term := do
  let dstIp := s.packet.dstIp
  let parts ← (s.scope.protocolsOf router).mapM fun p => do
    let hits ← (Graph.originatedNetworks conf p).mapM (PacketFormula.firstBitsEqual dstIp)
    Build.neg (← Build.anyOf hits)
  Build.allOf parts

def manyAnswer (results : NameMap VerificationResult) (benchmark : Bool) : ManyAnswer :=
  { results, stats := if benchmark then some (StatsSummary.ofStats (results.values.filterMap (·.stats))) else none }

def endpoints (c : Checker σ) (q : LocationQuestion) : Check σ (List GraphEdge × List String) := do
  let dests ← Locate.matchingEdges c.graph q
  let sources ← Locate.sourceNodes c.graph q
  if dests.isEmpty then throw (.query .noDestinations)
  if sources.isEmpty then throw (.query .noSources)
  return (dests, sources)

def verify (c : Checker σ) (enc : Encoder) : Check σ (VerificationResult × Option Model) :=
  enc.verify c.solver

def forwarding (c : Checker σ) (q : HeaderQuestion) : Check σ OneAnswer := do
  let q := { q with failures := 0 }
  fresh
  let enc ← Encoder.new c.graph q
  enc.computeEncoding
  addEnvironmentConstraints enc q.environmentType
  let (result, _) ← c.verify enc
  return { result }

/-- The shared part of the checks between sources and destination edges. `instrument` gives,
per router, the property that must hold for it. With `diff`, a copy without failures is the
base, and the property of each source must change as the question's diff type allows. -/
def property (c : Checker σ) (q : LocationQuestion)
    (instrument : Encoder → List String → List GraphEdge → Check σ (NameMap Term)) :
    Check σ PropertyRun := do
  let (dests, sources) ← c.endpoints q
  let q := Locate.narrowed c.graph q dests
  let failLinks ← Locate.failLinkSet c.graph q
  let failNodes ← Locate.failNodeSet c.graph q
  fresh
  let enc ← Encoder.new c.graph q.header
  enc.computeEncoding
  if !q.header.diff then
    addEnvironmentConstraints enc q.header.environmentType
  let prop ← instrument enc sources dests
  let base ← if q.header.diff then do
      let base ← Encoder.new c.graph { q.header with failures := 0 }
      base.computeEncoding
      addEnvironmentConstraints base q.header.environmentType
      let baseProp ← instrument base sources dests
      let mut required : List Term := []
      for source in sources do
        if let (some d, some b) := (prop.get? source, baseProp.get? source) then
          required := required ++ [← match q.header.diffType with
            | .increased => Build.implies b d
            | .reduced => Build.implies d b
            | .any => Build.equals d b]
      Build.assert (← relateEnvironments enc base)
      Build.assert (← enc.main.packet.mkEq base.main.packet)
      Build.assert (← Build.neg (← Build.allOf required))
      pure (some (base, baseProp))
    else do
      let all ← (sources.filterMap prop.get?).mapM fun p =>
        if q.negate then Build.neg p else pure p
      Build.assert (← Build.neg (← Build.allOf all))
      pure none
  addLinkFailureConstraints enc dests failLinks
  addNodeFailureConstraints enc failNodes
  let (result, model) ← c.verify enc
  return { result, model, sources, enc, prop, base }

/-- Every source router reaches one of the destination edges. A counterexample comes with the
paths of the sources that miss it (or, for differential questions, whose reachability
changes). -/
def reachability (c : Checker σ) (q : LocationQuestion) : Check σ ReachabilityAnswer := do
  let run ← c.property q fun enc _ dests => Instrument.reachability enc.main dests
  match run.model with
  | some m =>
    if run.result.verified then return { result := run.result, flowHistory := none }
    let history ← match run.base with
      | some (base, baseProp) =>
        Counterexample.flowHistoryDiff m c.name run.sources run.enc base run.prop baseProp
      | none => do
        let mut reach : NameMap Bool := {}
        for (router, p) in run.prop.entries do
          reach := reach.insert router ((← m.evalBool p) ^^ q.negate)
        Counterexample.flowHistory m c.name run.sources run.enc reach
    return { result := run.result, flowHistory := some history }
  | none => return { result := run.result, flowHistory := none }

def boundedLength (c : Checker σ) (q : LocationQuestion) : Check σ OneAnswer := do
  let run ← c.property q fun enc _ dests => do
    let lens ← Instrument.pathLength enc.main dests
    let mut out : NameMap Term := {}
    for (r, len) in lens.entries do
      out := out.insert r (← Build.le len (.int q.bound))
    return out
  return { result := run.result }

def equalLength (c : Checker σ) (q : LocationQuestion) : Check σ OneAnswer := do
  let run ← c.property q fun enc sources dests => do
    let lens ← Instrument.pathLength enc.main dests
    let same ← Instrument.allEqual (sources.filterMap lens.get?)
    return lens.mapValues fun r _ => if sources.contains r then same else Term.tt
  return { result := run.result }

/-- Traffic towards each destination edge is balanced: source routers that are neighbors of the
same source router carry loads differing by at most `q.bound`. Each destination edge is checked
on its own; the results are keyed by `router,interface`. -/
def loadBalancing (c : Checker σ) (q : LocationQuestion) : Check σ ManyAnswer := do
  let (dests, sources) ← c.endpoints q
  let q := Locate.narrowed c.graph q dests
  let failLinks ← Locate.failLinkSet c.graph q
  let failNodes ← Locate.failNodeSet c.graph q
  let bound : Term := .int (max q.bound 0)
  let mut results : NameMap VerificationResult := {}
  for dest in dests do
    fresh
    let enc ← Encoder.new c.graph q.header
    enc.computeEncoding
    addEnvironmentConstraints enc q.header.environmentType
    let loads ← Instrument.load enc.main [dest]
    let mut balanced : List Term := []
    for source in sources do
      let peers := ((c.graph.neighbors source).filter sources.contains).filterMap loads.get?
      for (a, b) in pairs peers do
        balanced := balanced ++ [← Build.both (← Build.le (← Build.minus a b) bound)
          (← Build.le (← Build.minus b a) bound)]
    Build.assert (← Build.neg (← Build.allOf balanced))
    addLinkFailureConstraints enc dests failLinks
    addNodeFailureConstraints enc failNodes
    let (result, _) ← c.verify enc
    results := results.insert (dest.router ++ "," ++ dest.start.name) result
  return manyAnswer results q.header.benchmark
where
  pairs {α : Type} : List α → List (α × α)
    | [] => []
    | x :: rest => rest.map (x, ·) ++ pairs rest

def forwardingPairs (c : Checker σ) (enc1 enc2 : Encoder) : List (GraphEdge × Term × Term) :=
  c.graph.allRealEdges.filterMap fun e =>
    match enc1.main.decisions.dataOf? e, enc2.main.decisions.dataOf? e with
    | some a, some b => some (e, a, b)
    | _, _ => none

/-- Forwarding is determined by the packet, the failures and the environment: two copies of the
network with the same inputs forward over the same edges. A counterexample lists the edges
only one copy uses, with their routes. -/
def determinism (c : Checker σ) (q : HeaderQuestion) : Check σ DeterminismAnswer := do
  fresh
  let enc1 ← Encoder.new c.graph q
  let enc2 ← Encoder.new c.graph q
  enc1.computeEncoding
  enc2.computeEncoding
  addEnvironmentConstraints enc1 q.environmentType
  let related ← Build.allOf [← enc1.failures.mkEq enc2.failures, ← relateEnvironments enc1 enc2,
    ← enc1.main.packet.mkEq enc2.main.packet]
  let edges := c.forwardingPairs enc1 enc2
  let required ← Build.allOf (← edges.mapM fun (_, d1, d2) => Build.equals d1 d2)
  Build.assert related
  Build.assert (← Build.neg required)
  let (result, model) ← c.verify enc1
  let some m := model | return { result, flow := none, case1 := [], case2 := [] }
  if result.verified then return { result, flow := none, case1 := [], case2 := [] }
  let flow ← Counterexample.buildFlow m enc1.main.packet "(none)"
  let mut case1 : List String := []
  let mut case2 : List String := []
  for (e, d1, d2) in edges do
    let b1 ← m.evalBool d1
    let b2 ← m.evalBool d2
    if b1 == b2 then continue
    let s := if b1 then enc1.main else enc2.main
    let best ← match s.decisions.best.get? e.router with
      | some b => pure b
      | none => throw (.encoding (.missingVariable ("best route of " ++ e.router)))
    let pfx ← Counterexample.buildPrefix m best flow
    let proto ← Counterexample.buildProtocol m best s e.router
    let line := e.text ++ " -- " ++ Counterexample.routeText pfx proto e
    if b1 then case1 := Ordered.insert compare line case1
    else case2 := Ordered.insert compare line case2
  let swap := match case2.head?, case1.head? with
    | none, some _ => true
    | some a, some b => a < b
    | _, _ => false
  let (f1, f2) := if swap then (case2, case1) else (case1, case2)
  return { result, flow := some flow, case1 := f1, case2 := f2 }

/-- No router inside the network receives traffic and then drops it. Routers with an edge
leaving the network are not checked. -/
def blackHole (c : Checker σ) (q : HeaderQuestion) : Check σ OneAnswer := do
  fresh
  let enc ← Encoder.new c.graph q
  enc.computeEncoding
  let d := enc.main.decisions
  let mut holes : List Term := []
  for (router, edges) in c.graph.edgeMap.entries do
    if edges.any (·.finish.isNone) then continue
    let doesNotForward ← Build.allOf (← (d.data.getD router []).mapM fun (_, t) => Build.neg t)
    let incoming := (c.graph.neighbors router).flatMap fun n =>
      ((d.data.getD n []).filter fun (e, _) => e.peer == some router).map (·.2)
    let isForwardedTo ← Build.anyOf incoming
    holes := holes ++ [← Build.both isForwardedTo doesNotForward]
  Build.assert (← Build.anyOf holes)
  let (result, _) ← c.verify enc
  return { result }

/-- Traffic is treated alike on all paths: a router that reaches the destination forwards over
every edge its best route points to, towards routers that reach it as well. -/
def multipath (c : Checker σ) (q : LocationQuestion) : Check σ OneAnswer := do
  if q.negate then throw (.query .negatedMultipath)
  let dests ← Locate.matchingEdges c.graph q
  if dests.isEmpty then throw (.query .noDestinations)
  let q := Locate.narrowed c.graph q dests
  fresh
  let enc ← Encoder.new c.graph q.header
  enc.computeEncoding
  let s := enc.main
  let reach ← Instrument.reachability s dests
  let mut acc : List Term := []
  for (router, edges) in c.graph.edgeMap.entries do
    let some reaches := reach.get? router | continue
    let mut all : List Term := []
    for e in edges do
      let (some fwd, some ctrl) := (s.forwardsAcross? router e, s.decisions.controlOf? e) | continue
      let peerReach := (e.peer.bind reach.get?).getD Term.tt
      all := all ++ [← Build.implies ctrl (← Build.both fwd peerReach)]
    acc := acc ++ [← Build.neg (← Build.implies reaches (← Build.allOf all))]
  Build.assert (← Build.anyOf acc)
  let (result, _) ← c.verify enc
  return { result }

/-- No packet towards a destination of a static route loops. Only routers with static routes
are considered part of a loop, since the dynamic protocols prevent loops themselves. -/
def routingLoop (c : Checker σ) (q : HeaderQuestion) : Check σ OneAnswer := do
  let mut routers : List String := []
  let mut prefixes : List Prefix := []
  for (router, conf) in c.graph.configs.entries do
    if !conf.staticRoutes.isEmpty then
      routers := routers ++ [router]
    for sr in conf.staticRoutes do
      prefixes := Ordered.insert compare sr.network prefixes
  let q := { q with headerSpace := { q.headerSpace with dstIps := prefixes } }
  fresh
  let enc ← Encoder.new c.graph q
  enc.computeEncoding
  let mut someLoop : List Term := []
  for r in routers do
    someLoop := someLoop ++ [← Instrument.loop enc.main r]
  Build.assert (← Build.anyOf someLoop)
  let (result, _) ← c.verify enc
  return { result }

/-- Two routers behave alike: given the same environment on each interface, they forward the
same packets out of the same interfaces and export the same routes. In strict mode, at most one
environment route is permitted and the best routes must be equal. -/
def pairEquivalence (c : Checker σ) (r1 r2 : String) (q : HeaderQuestion) (strict : Bool) :
    Check σ VerificationResult := do
  let conf1 ← c.graph.config r1
  let conf2 ← c.graph.config r2
  fresh
  let e1 ← Encoder.new (← Graph.build [conf1] none) q
  e1.computeEncoding
  let e2 ← Encoder.new (← Graph.build [conf2] none) q
  e2.computeEncoding
  let s1 := e1.main
  let s2 := e2.main
  let edges1 := interfaceEdges e1.graph r1
  let edges2 := interfaceEdges e2.graph r2
  if edges1.keys != edges2.keys then throw (.query (.mismatchedInterfaces r1 r2))
  let mut lgeMap2 : List ((Protocol × String × EdgeKind) × LogicalEdge) := []
  for p in s2.scope.protocolsOf r2 do
    for lge in s2.logical.edgesOf r2 p do
      let key := (p, lge.edge.start.name, lge.kind)
      lgeMap2 := (key, lge) :: lgeMap2.filter (·.1 != key)
  let env1 := s1.logical.environment
  let env2 := s2.logical.environment
  let find (env : List (LogicalEdgeId × Route)) (i : LogicalEdgeId) : Option Route :=
    (env.find? fun (j, _) => LogicalEdgeId.cmp i j == .eq).map (·.2)
  let mut equalEnvs : List Term := []
  let mut equalOutputs : List Term := []
  let mut records : List Route := []
  for p in s1.scope.protocolsOf r1 do
    for lge1 in s1.logical.edgesOf r1 p do
      let iface := lge1.edge.start.name
      let lge2 ← match lgeMap2.lookup (p, iface, lge1.kind) with
        | some l => pure l
        | none => throw (.query (.mismatchedProtocols r1 r2 iface))
      if lge1.kind == .exporting then
        equalOutputs := equalOutputs ++ [← s1.equal conf1 p lge1.route (some lge2.route) (some lge1) false]
        continue
      match find env1 lge1.id, find env2 lge2.id with
      | some v1, some v2 =>
        let mut parts := [← Build.equals v1.permitted v2.permitted]
        for (cv, c1) in v1.communities do
          match Ordered.find? compare cv v2.communities with
          | some c2 => parts := parts ++ [← Build.equals c1 c2]
          | none => parts := parts ++ [← Build.neg c1]
        for (cv, c2) in v2.communities do
          if (Ordered.find? compare cv v1.communities).isNone then
            parts := parts ++ [← Build.neg c2]
        parts := parts ++ [← s1.equal conf1 p v1 (some v2) (some lge1) true]
        equalEnvs := equalEnvs ++ [← Build.allOf parts]
        records := records ++ [v1]
      | none, none => pure ()
      | _, _ => throw (.query (.oneSidedEnvironment (r1 ++ " " ++ lge1.text)))
  if strict then
    for (a, i) in records.zipIdx do
      for (b, j) in records.zipIdx do
        if i != j then
          Build.assert (← Build.implies a.permitted (← Build.neg b.permitted))
  let assumptions ← Build.allOf [← Build.allOf equalEnvs, ← s1.packet.mkEq s2.packet,
    ← ignoredDestinations s1 r1 conf1, ← ignoredDestinations s2 r2 conf2]
  let required ← if strict then do
      let best1 ← match s1.decisions.best.get? r1 with
        | some b => pure b
        | none => throw (.encoding (.missingVariable ("best route of " ++ r1)))
      let best2 ← match s2.decisions.best.get? r2 with
        | some b => pure b
        | none => throw (.encoding (.missingVariable ("best route of " ++ r2)))
      sameRoute s2 conf2 best1 best2
    else do
      let mut same : List Term := []
      for (iface, ge1) in edges1.entries do
        let d1 := s1.decisions.dataOf? ge1
        let d2 := (edges2.get? iface).bind s2.decisions.dataOf?
        if let (some d1, some d2) := (d1, d2) then
          same := same ++ [← Build.equals d1 d2]
      Build.both (← Build.allOf same) (← Build.allOf equalOutputs)
  Build.assert assumptions
  Build.assert (← Build.neg required)
  let (result, _) ← c.verify e2
  return result

/-- Compare each pair of consecutive routers (in name order) matching the router pattern;
results are keyed by `r1<-->r2`. -/
def localEquivalence (c : Checker σ) (q : ConsistencyQuestion) : Check σ ManyAnswer := do
  let pattern ← PatternMatch.make q.routerRegex ""
  let routers := Locate.matchingNodes c.graph pattern
  let hq := { q.header with failures := 0, environmentType := .any }
  let mut results : NameMap VerificationResult := {}
  for (r1, r2) in routers.zip routers.tail do
    let result ← c.pairEquivalence r1 r2 hq q.strict
    results := results.insert (r1 ++ "<-->" ++ r2) result
  return manyAnswer results hq.benchmark

end Checker
end ControlPlane
