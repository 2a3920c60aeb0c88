import ControlPlane.Encoding.Slice
import ControlPlane.Check.Question

/-!
# Route preference

Two routes compare attribute by attribute: prefix length first (longer wins), then
administrative distance (lower wins), then the BGP attributes in the order the question ranks
them, then OSPF type, and the router id last. An attribute a record does not track takes the
protocol's default value.
-/

namespace ControlPlane

/-- What a slice needs to know about the rest of the encoding while it adds its constraints. -/
structure SliceEnv where
  failures : Failures
  slices : NameMap Slice
  reachability : NameMap (NameMap Term)
  question : HeaderQuestion
  modelIgp : Bool
  deriving Inhabited

namespace SliceEnv

def slice? (env : SliceEnv) (r : String) : Option Slice := env.slices.get? (sliceName r)

def reaches (env : SliceEnv) (sliceOf r : String) : Term :=
  ((env.reachability.get? sliceOf).bind (·.get? r)).getD Term.ff

end SliceEnv

/-- Administrative distance of a route that carries none: connected 0, static 1, OSPF 110 and
BGP 20, or 200 for a BGP route learned over iBGP. -/
def defaultAdminDistance (p : Protocol) (r : Route) : Build Term := do
  let d : Term := .int (match p with
    | .connected => 0
    | .static => 1
    | .ospf => 110
    | .bgp => 20)
  match r.bgpInternal, p with
  | some internal, .bgp => Build.cond internal (.int 200) d
  | _, _ => pure d

def defaultMed (p : Protocol) : Int := if p == .bgp then 100 else 0

def equalHistories (best vars : Route) : Encode Term :=
  match best.history, vars.history, vars.proto with
  | none, _, _ => pure Term.tt
  | some b, some v, _ => b.mkEq v
  | some b, none, some p => b.isValue p
  | some _, none, none => pure Term.tt

def safeEq (x : Option Term) (v : Term) : Build Term :=
  match x with
  | some x => Build.equals x v
  | none => pure Term.tt

/-- Equality of an attribute of `best` and of `vars` (or the default, when `vars` lacks it); true
when `best` lacks it. -/
def eqHelper (best vars : Option Term) (d : Term) : Build Term :=
  match best, vars with
  | none, _ => pure Term.tt
  | some b, some v => Build.equals b v
  | some b, none => Build.equals b d

/-- The attribute of `best` is better than that of `vars` (or the default): smaller if `less`,
else larger; false when `best` lacks it. -/
def betterHelper (best vars : Option Term) (d : Term) (less : Bool) : Build Term :=
  match best with
  | none => pure Term.ff
  | some b =>
    let o := vars.getD d
    if less then Build.lt b o else Build.gt b o

def ipTerm (a : InterfaceAddress) : Term := Term.mkBv a.ip.toNat 32

/-- One step of a lexicographic comparison: `best` is better on this attribute, or equal on it
and at least as good on the rest. -/
def lexStep (better same rest : Term) : Build Term := do Build.either better (← Build.both same rest)

/-- Whether `best` is better than `vars` on the OSPF type (a lower type is better), and whether
the two are equal. A `vars` without a type counts as type `O`; a `best` without one as equal. -/
def typeComparison (best vars : Route) : Build (Term × Term) :=
  match best.ospfType, vars.ospfType with
  | some b, some v => do pure (← Build.neg (← Build.bvUle v.bits b.bits), ← b.mkEq v)
  | some b, none => do pure (Term.ff, ← b.isDefault)
  | _, _ => pure (Term.ff, Term.tt)

/-- Whether `best` is better than `vars` on a ranked BGP attribute, and whether the two are
equal: local preference (higher wins), path length, MED and IGP cost (lower wins), eBGP over
iBGP. -/
def rankComparison (p : Protocol) (best vars : Route) : BgpRank → Build (Term × Term)
  | .localPref => do
    let d : Term := .int defaultLocalPref
    pure (← betterHelper best.localPref vars.localPref d false, ← eqHelper best.localPref vars.localPref d)
  | .pathLength => do
    pure (← betterHelper (some best.metric) (some vars.metric) (.int 0) true,
      ← eqHelper (some best.metric) (some vars.metric) (.int 0))
  | .med => do
    let d : Term := .int (defaultMed p)
    pure (← betterHelper best.med vars.med d true, ← eqHelper best.med vars.med d)
  | .ebgpOverIbgp =>
    match best.bgpInternal, vars.bgpInternal with
    | some bi, some vi => do pure (← Build.both (← Build.neg bi) vi, ← Build.equals bi vi)
    | _, _ => pure (Term.ff, Term.tt)
  | .igpCost => do
    pure (← betterHelper best.igpMetric vars.igpMetric (.int 0) true,
      ← eqHelper best.igpMetric vars.igpMetric (.int 0))

/-- The equalities of the attributes compared by value: prefix length, administrative
distance, local preference, metric, MED and IGP cost. -/
def valueEqualities (p : Protocol) (best : Route) (vars : Option Route) : Build (List Term) := do
  let v {α : Type} (f : Route → Option α) : Option α := vars.bind f
  let defaultAd ← defaultAdminDistance p (vars.getD best)
  pure [← eqHelper (some best.prefixLength) (v fun r => some r.prefixLength) (.int 0),
    ← eqHelper best.adminDist (v (·.adminDist)) defaultAd,
    ← eqHelper best.localPref (v (·.localPref)) (.int defaultLocalPref),
    ← eqHelper (some best.metric) (v fun r => some r.metric) (.int 0),
    ← eqHelper best.med (v (·.med)) (.int (defaultMed p)),
    ← eqHelper best.igpMetric (v (·.igpMetric)) (.int 0)]

/-- The equality of the OSPF types, where `best` carries one; a `vars` without one counts as
type `O`. -/
def typeEquality (best : Route) (vars : Option Route) : Build (List Term) :=
  match best.ospfType, vars.bind (·.ospfType) with
  | some b, some t => do pure [← b.mkEq t]
  | some b, none => do pure [← b.isDefault]
  | _, _ => pure []

/-- The equality of the OSPF areas, where `best` carries one and arrived on `e`; a `vars`
without one counts with the area of the edge. -/
def areaEquality (best : Route) (vars : Option Route) (e : Option LogicalEdge) : Encode (List Term) :=
  match e, best.ospfArea with
  | some e, some area =>
    match vars.bind (·.ospfArea), e.edge.start.ospfArea with
    | some a, _ => do pure [← area.mkEq a]
    | none, some a => do pure [← area.isValue a]
    | none, none => do pure [← area.isDefault]
  | _, _ => pure []

def sessionEqualities (best : Route) : Option Route → Encode (List Term)
  | some vars => do
    let h ← equalHistories best vars
    match best.bgpInternal, vars.bgpInternal with
    | some a, some b => pure [h, ← Build.equals a b]
    | _, _ => pure [h]
  | none => pure []

def communityEqualities (best : Route) (vars : Option Route) : Build (List Term) :=
  best.communities.mapM fun cb =>
    match vars.bind fun r => Ordered.find? compare cb.1 r.communities with
    | some o => Build.equals cb.2 o
    | none => Build.neg cb.2

namespace Slice

/-- The equality of the router ids, where `best` carries one; a `vars` without one counts with
the id across `e`. -/
def routerIdEquality (s : Slice) (p : Protocol) (best : Route) (vars : Option Route)
    (e : Option LogicalEdge) : Encode (List Term) :=
  match best.routerId, vars.bind (·.routerId), e with
  | some b, some i, _ => do pure [← Build.equals b i]
  | some b, none, some e => do
    let i ← LogicalGraph.routerIdTerm s.graph e.edge p
    pure [← Build.equals b i]
  | _, _, _ => pure []

/-- The equality of the route reflector client ids, where `best` carries one; a `vars` without
one counts with the originator id of the router. -/
def clientEquality (s : Slice) (c : Configuration) (best : Route) (vars : Option Route) :
    Encode (List Term) :=
  match best.clientId with
  | some cid =>
    match vars.bind (·.clientId) with
    | some other => do pure [← cid.mkEq other]
    | none => do pure [← cid.isValue ((s.graph.originatorId.get? c.hostname).getD 0)]
  | none => pure []

/-- `best` equals `vars` in every attribute the decision process looks at; without `vars`,
`best` carries the defaults. `e` is the import edge `vars` arrived on, if any. -/
def equal (s : Slice) (c : Configuration) (p : Protocol) (best : Route) (vars : Option Route)
    (e : Option LogicalEdge) (compareCommunities : Bool) : Encode Term := do
  let values ← valueEqualities p best vars
  let type ← typeEquality best vars
  let area ← areaEquality best vars e
  let id ← s.routerIdEquality p best vars e
  let session ← sessionEqualities best vars
  let client ← s.clientEquality c best vars
  let communities ← if compareCommunities then communityEqualities best vars else pure []
  Build.allOf (values ++ type ++ area ++ id ++ session ++ client ++ communities)

/-- The last tie-break: the router id of `best` is at most that of `vars`. A `vars` without one
counts with the id of the router across `e`, or with 0 without an edge. -/
def tiebreak (s : Slice) (p : Protocol) (best vars : Route) (e : Option LogicalEdge) : Encode Term :=
  match best.routerId, vars.routerId, e with
  | some b, some v, _ => Build.le b v
  | some b, none, none => Build.le b (.int 0)
  | some b, none, some e => do Build.le b (← LogicalGraph.routerIdTerm s.graph e.edge p)
  | none, _, _ => pure Term.tt

/-- `best` is at least as good as `vars`, comparing lexicographically. `e` is the import edge
`vars` arrived on, if any. The comparison is built from the last attribute to the first. -/
def greaterOrEqual (s : Slice) (env : SliceEnv) (p : Protocol) (best vars : Route)
    (e : Option LogicalEdge) : Encode Term := do
  let tb ← s.tiebreak p best vars e
  let (betterType, equalType) ← typeComparison best vars
  let mut acc ← lexStep betterType equalType tb
  for rank in env.question.bgpRanking.reverse do
    let (better, same) ← rankComparison p best vars rank
    acc ← lexStep better same acc
  let defaultAd ← defaultAdminDistance p vars
  acc ← lexStep (← betterHelper best.adminDist vars.adminDist defaultAd true)
    (← eqHelper best.adminDist vars.adminDist defaultAd) acc
  let (bl, vl) := (some best.prefixLength, some vars.prefixLength)
  lexStep (← betterHelper bl vl (.int 0) false) (← eqHelper bl vl (.int 0)) acc

end Slice
end ControlPlane
