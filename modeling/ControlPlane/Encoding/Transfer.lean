import ControlPlane.Encoding.Preference

/-!
# Transfer functions

The transfer function of a logical edge relates the route sent by the neighbor (`other`) to the
route after the edge's policy (`current`). The policy's statements run on a working copy of the
input route. Every update makes a new version of a field: the term itself when its text is
short, else a fresh `SSA_` variable equal to it. The two branches of a conditional run on
separate copies, and a field changed by either branch is merged with an if-then-else on the
guard. Control flow is tracked the same way, as the pseudo-fields "returned" and "fell through".
-/

namespace ControlPlane
namespace Transfer

/-- How the current policy was entered. -/
inductive CallContext where
  | top
  | exprCall
  | stmtCall
  deriving DecidableEq, Repr, Inhabited

/-- A field of the working route that a statement may update. The control flow pseudo-fields
come first in the order of fields. -/
inductive Field where
  | ret
  | fallthrough
  | metric
  | prefixLen
  | localPref
  | ospfType
  | community (c : CommunityVar)
  deriving DecidableEq, Repr, Inhabited, Ord

namespace Field

def isControl : Field → Bool
  | .ret | .fallthrough => true
  | _ => false

def text : Field → String
  | .ret => "RETURN"
  | .fallthrough => "FALLTHROUGH"
  | .metric => "METRIC"
  | .prefixLen => "PREFIX-LEN"
  | .localPref => "LOCAL-PREF"
  | .ospfType => "OSPF-TYPE"
  | .community c => c.text

def get? (r : Route) : Field → Option Term
  | .ret | .fallthrough => none
  | .metric => some r.metric
  | .prefixLen => some r.prefixLength
  | .localPref => r.localPref
  | .ospfType => r.ospfType.map (·.bits)
  | .community c => Ordered.find? compare c r.communities

def set (r : Route) (f : Field) (e : Term) : Route :=
  match f with
  | .ret | .fallthrough => r
  | .metric => { r with metric := e }
  | .prefixLen => { r with prefixLength := e }
  | .localPref => { r with localPref := some e }
  | .ospfType => { r with ospfType := r.ospfType.map fun t => { t with bits := e } }
  | .community c => { r with communities := Ordered.put compare c e r.communities }

end Field

/-- Parameters of one step of the evaluation. -/
structure Param where
  callContext : CallContext := .top
  inChain : Bool := false
  defaultAccept : Bool := true
  defaultAcceptLocal : Bool := false
  defaultPolicy : Option String := none
  indent : Nat := 0
  deriving Inhabited

def Param.deeper (p : Param) : Param := { p with indent := p.indent + 1 }

/-- Partial result: the value returned, whether the policy fell through, whether either
happened, and the latest version of every field changed so far. -/
structure Outcome where
  returnValue : Term := Term.ff
  fallthroughValue : Term := Term.ff
  returnAssigned : Term := Term.ff
  changed : List (Field × Term) := []
  deriving Inhabited

namespace Outcome

def ofTerm (e : Term) : Outcome := { returnValue := e, returnAssigned := Term.tt }

def note (r : Outcome) (f : Field) (e : Term) : Outcome := { r with changed := Ordered.put compare f e r.changed }

def merge (r o : Outcome) (withControl : Bool) : Outcome :=
  o.changed.foldl (fun r (f, e) => if withControl || !f.isControl then r.note f e else r) r

def isChanged (r : Outcome) (f : Field) : Bool := Ordered.mem compare f r.changed

end Outcome

def inlineLimit : Nat := 3000

/-- Nesting that a policy evaluation may reach: calls and conditionals, each one level. No run
gets this deep: calls are followed without a record of the policies under way, so a policy that
calls itself nests until the machine's stack is exhausted. -/
def maxDepth : Nat := 1000000000

end Transfer

/-- The transfer function of a logical edge. -/
structure TransferFunction where
  slice : Slice
  env : SliceEnv
  conf : Configuration
  other : Route
  current : Route
  proto : Protocol
  statements : List Statement
  cost : Int
  edge : GraphEdge
  isExport : Bool
  inlineLimit : Nat := Transfer.inlineLimit

namespace TransferFunction

open Transfer

abbrev Eval := ReaderT TransferFunction (StateT Route Encode)

def direction (t : TransferFunction) : String := if t.isExport then "export" else "import"

def unsupported (t : TransferFunction) (construct : String) : EncodingError :=
  .unsupportedConstruct construct t.conf.hostname t.proto t.direction t.edge.text

def createVar (name : String) (e : Term) : Eval Term := do
  let e ← Build.simplify e
  if e.textWithin (← read).inlineLimit then return e
  let id ← Build.generateId
  match ← Build.freshVar ("SSA_" ++ name ++ "_" ++ toString id) e.sort with
  | .ok v =>
    Build.assert (← Build.equals v e)
    return v
  | .error err => throw (.smt err)

def relevantFor (len : Term) (range : PrefixRange) : Eval Term := do
  let t ← read
  let lower : Int := range.lengths.start
  let upper : Int := range.lengths.finish
  let inPrefix ← PacketFormula.firstBitsEqual t.slice.packet.dstIp range.net
  let inLen ← if lower == upper then Build.equals len (.int lower)
    else do Build.both (← Build.le (.int lower) len) (← Build.le len (.int upper))
  Build.both inPrefix inLen

/-- Exported BGP routes shrink to an aggregate of the router that covers the packet, when the
aggregate suppresses more specific routes. -/
def intermediatePrefixLen : Eval Unit := do
  let t ← read
  if !(t.isExport && t.proto == .bgp) then return
  let router := t.conf.hostname
  let aggregates := t.slice.scope.aggregatesOf router
  if aggregates.isEmpty then return
  let data ← get
  let mut len := data.prefixLength
  for gr in aggregates do
    let l : Term := .int gr.network.len
    let pfx ← PacketFormula.firstBitsEqual t.slice.packet.dstIp gr.network
    let longer ← Build.gt data.prefixLength l
    let suppressed : Term := .bool (t.slice.scope.isSuppressed router gr.network)
    let relevant ← Build.allOf [pfx, longer, suppressed]
    len ← Build.cond relevant l len
  let v ← createVar Field.prefixLen.text len
  modify fun r => { r with prefixLength := v }

/-- The metric grows by the cost on OSPF import and BGP export. A BGP route redistributed from
an IGP starts with the cost alone. -/
def metricUpdate : Eval Unit := do
  let t ← read
  let updateOspf := !t.isExport && t.proto == .ospf
  let updateBgp := t.isExport && t.proto == .bgp
  if !(updateOspf || updateBgp) then return
  let cost : Term := .int t.cost
  let data ← get
  let sum ← Build.plus data.metric cost
  let metric ← if t.proto == .bgp then do
      let isBgp ← match t.other.history with
        | some h => h.isValue .bgp
        | none => pure (.bool (t.slice.scope.isSingle t.conf.hostname))
      Build.cond isBgp sum cost
    else pure sum
  modify fun r => { r with metric }

def returnWith (r : Outcome) (val : Term) : Eval Outcome := do
  let b ← Build.cond r.returnAssigned r.returnValue val
  let v ← createVar "RETURN" b
  return { r with returnValue := v, returnAssigned := Term.tt }.note .ret v

def fallThrough (r : Outcome) : Eval Outcome := do
  let b ← Build.cond r.returnAssigned r.fallthroughValue Term.tt
  let v ← createVar "FALLTHROUGH" b
  return { r with fallthroughValue := v, returnAssigned := Term.tt }.note .fallthrough v

def updateField (r : Outcome) (f : Field) (value : Term) : Eval Outcome := do
  match Field.get? (← get) f with
  | none => return r
  | some old =>
    let x ← createVar f.text (← Build.cond r.returnAssigned old value)
    modify fun d => Field.set d f x
    return r.note f x

def applyLong (x : Term) : LongExpr → Build Term
  | .literal v => pure (.int v)
  | .increment v => Build.plus x (.int v)
  | .decrement v => Build.minus x (.int v)

/-- The route matches a prefix set. A single exact range of a network that the router announces
into BGP matches when the route that originates it does, and the working route then takes the
network's length. -/
def matchPrefixSet (e : PrefixSetExpr) : Eval Outcome := do
  let t ← read
  let otherLen := (← get).prefixLength
  match e with
  | .explicit [] => return { returnValue := Term.tt }
  | .explicit ranges =>
    if let [r] := ranges then
      let pfx := r.net
      let exact := r.lengths.start == r.lengths.finish && r.lengths.start == pfx.len
      if exact && (Graph.originatedNetworks t.conf .bgp).contains pfx then
        let originLen : Term := .int pfx.len
        let direct := (Graph.originatedNetworks t.conf .static).contains pfx ||
          (Graph.originatedNetworks t.conf .connected).contains pfx
        let ospfBest := (t.slice.decisions.bestPerProtocol.get? t.conf.hostname).bind
          (Ordered.find? compare Protocol.ospf)
        let relevant ← if direct then some <$> relevantFor originLen r
          else match ospfBest with
            | some best => some <$> relevantFor best.prefixLength r
            | none => pure none
        if let some relevant := relevant then
          let x ← createVar Field.prefixLen.text (← Build.cond relevant originLen otherLen)
          modify fun d => { d with prefixLength := x }
          return ({ returnValue := relevant } : Outcome).note .prefixLen x
    return { returnValue := ← Build.anyOf (← ranges.mapM (relevantFor otherLen)) }
  | .named name =>
    let rfl ← match t.conf.routeFilterLists.get? name with
      | some l => pure l
      | none => throw (.network (.routeFilterListNotFound t.conf.hostname name))
    let acc ← rfl.lines.reverse.foldlM (fun acc line => do
      Build.cond (← relevantFor otherLen line.range) (.bool (line.action == .permit)) acc) Term.ff
    return { returnValue := acc }

/-- The route carries a community set: all communities of a literal set, or by the first
matching line of a community list. -/
def matchCommunitySet (e : CommunitySetExpr) : Eval Term := do
  let t ← read
  let data ← get
  match e with
  | .literal _ =>
    let comms ← collectCommunityVars t.conf e
    Build.allOf (comms.map data.community)
  | .named name =>
    let cl ← match t.conf.communityLists.get? name with
      | some l => pure l
      | none => throw (.network (.communityListNotFound t.conf.hostname name))
    cl.lines.reverse.foldlM (fun acc line =>
      Build.cond (data.community line.matcher.toVar) (.bool (line.action == .permit)) acc) Term.ff

def chainWithDefault (xs : List BooleanExpr) (p : Param) : List BooleanExpr :=
  xs ++ (p.defaultPolicy.map BooleanExpr.callExpr).toList

def matchProtocolTerm (p : Protocol) : Eval Term := do
  let t ← read
  match t.other.history with
  | none => pure (.bool (p == t.proto))
  | some h => if h.domain.contains p then h.isValue p else pure Term.ff

/-- Relate the working route after the policy to `current`: every attribute is copied, or set
as the edge's kind requires (router ids on import, iBGP flags, OSPF areas and types, client
ids, IGP costs towards iBGP peers). -/
def relate (result : Outcome) (data : Route) : Eval Term := do
  let t ← read
  let g := t.slice.graph
  let current := t.current
  let iface := t.edge.start
  let router := t.edge.router
  let defaultAd ← defaultAdminDistance t.proto data
  let isIbgp := t.edge.isAbstract && t.proto == .bgp
  let peerType ← if t.edge.isAbstract then some <$> (liftM (g.peerType t.edge) : Eval BgpSendType)
    else pure none
  let isNonClient := match peerType with
    | some .toEbgp | none => false
    | some _ => true
  let isClient := match peerType with
    | some .toRr => true
    | _ => false
  let per ← Build.equals current.permitted data.permitted
  let len ← Build.equals current.prefixLength data.prefixLength
  let id ← if t.isExport then pure Term.tt else safeEq current.routerId (data.routerId.getD (.int 0))
  let area ← match data.ospfArea, iface.ospfArea, current.ospfArea with
    | some _, some a, some c => c.isValue a
    | _, _, _ => pure Term.tt
  let mut igpMet := Term.tt
  if let (true, some curIgp) := (t.edge.isAbstract, current.igpMetric) then
    if isClient then
      let mut acc : List Term := []
      if let some cid := data.clientId then
        for (r, oid) in g.originatorId.entries do
          if r != router then
            if let some best := (t.env.slice? r).bind (·.decisions.best.get? r) then
              acc := acc ++ [← Build.implies (← cid.isValue oid) (← Build.equals curIgp best.metric)]
      igpMet ← Build.allOf acc
    else if isNonClient then
      if let some best := (t.env.slice? (t.edge.peer.getD "")).bind (·.decisions.best.get? router) then
        igpMet ← Build.equals curIgp best.metric
  let isInternal ← safeEq current.bgpInternal (.bool isIbgp)
  let copyType ← match current.ospfType, data.ospfType with
    | some x, some y => x.mkEq y
    | _, _ => pure Term.tt
  let typ ← if result.isChanged .ospfType then pure copyType
    else match data.ospfType, data.ospfArea, iface.ospfArea, current.ospfType with
      | some ty, some a, some ia, some ct => do
        let crossed ← Build.both (← OspfKind.isInternal ty) (← Build.neg (← a.isValue ia))
        Build.cond crossed (← ct.isValue .oia) copyType
      | _, _, _, _ => pure copyType
  let send := t.proto == .bgp && (!t.isExport || ((g.bgpNeighbor? t.edge).map (·.sendCommunity)).getD false)
  let comms ← Build.allOf (← current.communities.filterMapM fun (c, e) =>
    if !send then some <$> Build.neg e
    else if !c.isRegex then some <$> Build.equals e (data.community c)
    else pure none)
  let otherAd := data.adminDist.getD defaultAd
  let otherMed := data.med.getD (.int (defaultMed t.proto))
  let otherLp := data.localPref.getD (.int defaultLocalPref)
  let otherMet := data.metric
  let ad ← safeEq current.adminDist otherAd
  let history ← equalHistories current data
  let med ← safeEq current.med otherMed
  let met ← Build.equals current.metric otherMet
  let lp ← safeEq current.localPref otherLp
  let mut cid := Term.tt
  if t.proto == .bgp then
    if let (some dataCid, some curCid) := (data.clientId, current.clientId) then
      let copyOver ← curCid.mkEq dataCid
      if t.isExport then
        cid ← if (g.ebgpNeighbor? t.edge).isSome then curCid.isValue 0 else pure copyOver
      else
        let fromExternal ← dataCid.isValue 0
        let edgeIsInternal : Term := .bool (!isClient && !isNonClient)
        let setNew ← curCid.isValue ((g.originatorId.get? router).getD 0)
        cid ← Build.cond (← Build.both fromExternal edgeIsInternal) setNew copyOver
  let updates ← Build.allOf [per, len, ad, med, lp, met, id, cid, typ, area, comms, history, isInternal, igpMet]
  let noOverflow ← if !t.env.question.modelOverflow then pure Term.tt
    else match t.proto with
      | .ospf => Build.le otherMet (.int 65535)
      | .bgp => Build.le otherMet (.int 255)
      | _ => pure Term.tt
  Build.cond noOverflow updates (← Build.neg current.permitted)

def tooDeep {α : Type} : Eval α := do throw ((← read).unsupported "nesting too deep")

mutual
def evalExpr (fuel : Nat) (e : BooleanExpr) (p : Param) : Eval Outcome := do
  let t ← read
  match fuel with
  | 0 => tooDeep
  | fuel + 1 =>
  match e with
  | .always | .matchIpv4 => return .ofTerm Term.tt
  | .never | .matchIpv6 | .matchPrefix6Set => return .ofTerm Term.ff
  | .conjunction xs => evalAll fuel xs p true
  | .disjunction xs => evalAll fuel xs p false
  | .conjunctionChain xs =>
    let subs := chainWithDefault xs p
    if subs.isEmpty then return .ofTerm Term.tt
    evalChain fuel subs p
  | .firstMatchChain xs =>
    let subs := chainWithDefault xs p
    if subs.isEmpty then throw (.emptyFirstMatchChain t.conf.hostname)
    evalChain fuel subs p
  | .negation x =>
    let r ← evalExpr fuel x p.deeper
    return { r with returnValue := ← Build.neg r.returnValue }
  | .matchProtocol ps =>
    if ps.length > 1 then
      evalAll fuel (ps.map fun rp => .matchProtocol [rp]) p false
    else match ps.head?.bind RoutingProtocol.toProtocol with
      | none => return .ofTerm Term.ff
      | some proto => return .ofTerm (← matchProtocolTerm proto)
  | .matchPrefixSet s =>
    let r ← matchPrefixSet s
    return { r with returnAssigned := Term.tt }
  | .callExpr name =>
    let pol ← match t.conf.routingPolicies.get? name with
      | some pol => pure pol
      | none => throw (.network (.policyNotFound t.conf.hostname name))
    evalStatements fuel pol.statements { p.deeper with callContext := .exprCall } {}
  | .withEnvironment x => evalExpr fuel x p
  | .matchCommunitySet s => return .ofTerm (← matchCommunitySet s)
  | .callExprContext => return .ofTerm (.bool (p.callContext == .exprCall))
  | .callStatementContext => return .ofTerm Term.ff
  | .matchAsPath _ => return .ofTerm Term.ff
  | .matchSrcInterface _ | .permittedByAcl _ | .matchTag _ => throw (t.unsupported e.construct)

def evalAll (fuel : Nat) (xs : List BooleanExpr) (p : Param) (conjunction : Bool) : Eval Outcome := do
  match fuel with
  | 0 => tooDeep
  | fuel + 1 =>
  let mut result : Outcome := {}
  let mut terms : List Term := []
  for x in xs do
    let r ← evalExpr fuel x p.deeper
    result := result.merge r false
    terms := terms ++ [r.returnValue]
  let v ← if conjunction then Build.allOf terms else Build.anyOf terms
  return { result with returnValue := v, returnAssigned := Term.tt }

def evalChain (fuel : Nat) (xs : List BooleanExpr) (p : Param) : Eval Outcome := do
  match fuel with
  | 0 => tooDeep
  | fuel + 1 =>
  let param := { p.deeper with defaultPolicy := none, inChain := true }
  let mut result : Outcome := {}
  let mut acc := Term.ff
  for x in xs.reverse do
    let r ← evalExpr fuel x param
    result := result.merge r false
    acc ← Build.cond r.fallthroughValue acc r.returnValue
  return { result with returnValue := acc, returnAssigned := Term.tt }

/-- Evaluate statements in order. At the top level, a policy that never returns takes the
default action, and the result is related to `current`. -/
def evalStatements (fuel : Nat) (ss : List Statement) (p : Param) (input : Outcome) : Eval Outcome := do
  match fuel with
  | 0 => tooDeep
  | fuel + 1 =>
  let t ← read
  let mut p := p
  let mut cur := input
  let mut doesReturn := false
  for s in ss do
    match s with
    | .exitAccept | .returnTrue | .unsuppress =>
      doesReturn := true
      cur ← returnWith cur Term.tt
    | .exitReject | .returnFalse | .suppress =>
      doesReturn := true
      cur ← returnWith cur Term.ff
    | .returnLocalDefaultAction =>
      doesReturn := true
      cur ← returnWith cur (.bool p.defaultAcceptLocal)
    | .fallThrough =>
      doesReturn := true
      cur ← fallThrough cur
    | .returnFromPolicy | .removePrivateAs | .setOrigin _ | .setNextHop _ => pure ()
    | .setDefaultActionAccept => p := { p with defaultAccept := true }
    | .setDefaultActionReject => p := { p with defaultAccept := false }
    | .setLocalDefaultActionAccept => p := { p with defaultAcceptLocal := true }
    | .setLocalDefaultActionReject => p := { p with defaultAcceptLocal := false }
    | .ite g ts fs => cur ← evalIf fuel g ts fs p cur
    | .setDefaultPolicy name => p := { p with defaultPolicy := some name }
    | .setMetric e =>
      if t.current.proto != some .bgp then
        cur ← updateField cur .metric (← applyLong (← get).metric e)
    | .setOspfMetricType mt =>
      let ty := match mt with
        | .e1 => OspfType.e1
        | .e2 => OspfType.e2
      cur ← updateField cur .ospfType (OspfKind.constant ty).bits
    | .setLocalPreference e =>
      let old := ((← get).localPref).getD (.int defaultLocalPref)
      cur ← updateField cur .localPref (← applyLong old e)
    | .addCommunity cs | .setCommunity cs =>
      for c in ← collectCommunityVars t.conf cs do
        cur ← updateField cur (.community c) Term.tt
    | .deleteCommunity cs =>
      let mut deleted : List CommunityVar := []
      for c in ← collectCommunityVars t.conf cs do
        if c.isRegex then
          if let some deps := Ordered.find? compare c t.slice.graph.communityDeps then
            deleted := deps.foldl (fun acc d => CommunityVar.insertSorted d acc) deleted
        else deleted := CommunityVar.insertSorted c deleted
      for c in deleted do
        cur ← updateField cur (.community c) Term.ff
    | .prependAsPath l =>
      cur ← updateField cur .metric (← Build.plus (← get).metric (.int l.prependLength))
    | .setTag _ | .setWeight _ => throw (t.unsupported s.construct)
  if p.indent == 0 then
    if !doesReturn then
      cur ← returnWith cur (.bool p.defaultAccept)
    let related ← relate cur (← get)
    let v ← Build.cond cur.returnValue related (← Build.neg t.current.permitted)
    cur := { cur with returnValue := v }
  return cur

/-- Evaluate a conditional. A guard that folds to a constant picks its branch; otherwise both
branches run on copies of the working route and their changes merge on the guard. -/
def evalIf (fuel : Nat) (guard : BooleanExpr) (ts fs : List Statement) (p : Param) (cur : Outcome) :
    Eval Outcome := do
  match fuel with
  | 0 => tooDeep
  | fuel + 1 =>
  let g ← evalExpr fuel guard p.deeper
  let cur := cur.merge g false
  let guard ← Build.simplify g.returnValue
  if guard.isTrue then return ← evalStatements fuel ts p.deeper cur
  if guard.isFalse then return ← evalStatements fuel fs p.deeper cur
  let data ← get
  let rT ← evalStatements fuel ts p.deeper {}
  let dataT ← get
  set data
  let rF ← evalStatements fuel fs p.deeper {}
  let dataF ← get
  set data
  let fields := Ordered.setOf compare (rT.changed.map (·.1) ++ rF.changed.map (·.1))
  let assignedBefore := cur.returnAssigned
  let mut cur := cur
  if fields.any Field.isControl then
    let ret ← Build.cond assignedBefore cur.returnValue (← Build.cond guard rT.returnValue rF.returnValue)
    let ft ← Build.cond assignedBefore cur.fallthroughValue
      (← Build.cond guard rT.fallthroughValue rF.fallthroughValue)
    let assigned ← Build.either assignedBefore (← Build.cond guard rT.returnAssigned rF.returnAssigned)
    let rv ← createVar "RETURN" ret
    let fv ← createVar "FALLTHROUGH" ft
    let av ← createVar "ASSIGNED" assigned
    cur := { cur with returnValue := rv, fallthroughValue := fv, returnAssigned := av }
    if fields.contains .ret then cur := cur.note .ret rv
    if fields.contains .fallthrough then cur := cur.note .fallthrough fv
  for f in fields do
    if !f.isControl then
      if let some old := Field.get? data f then
        let tv := (Field.get? dataT f).getD old
        let ev := (Field.get? dataF f).getD old
        let x ← createVar f.text (← Build.cond assignedBefore old (← Build.cond guard tv ev))
        modify fun d => Field.set d f x
        cur := cur.note f x
  return cur
end

/-- The formula of the transfer function: `current` is the result of the policy applied to
`other`, or `current` is not permitted when the policy rejects the route. -/
def compute (t : TransferFunction) : Encode Term := do
  let run : Eval Term := do
    intermediatePrefixLen
    metricUpdate
    if (← get).localPref.isNone then
      modify fun r => { r with localPref := some (.int defaultLocalPref) }
    let r ← evalStatements maxDepth t.statements {} {}
    return r.returnValue
  let (v, _) ← (run.run t).run t.other
  return v

end TransferFunction
end ControlPlane
