import ControlPlane.Network.Graph
import ControlPlane.Network.Walk

/-!
# What a slice models

A slice models only the protocols that can carry routes for its packets, and a route record
keeps only the attributes that some policy can change or some decision compares. The scope of a
slice records these choices per router and for the whole network.
-/

namespace ControlPlane

/-- Route filter lists whose name holds this mark list the aggregates that suppress more
specific routes. -/
def suppressMark : String := "MATCH_SUPPRESSED_SUMMARY_ONLY"

/-- The protocols and attributes a slice models. -/
structure Scope where
  protocols : NameMap (List Protocol)
  aggregates : NameMap (List GeneratedRoute)
  suppressed : NameMap (List Prefix)
  singleProtocol : List String
  bgpInternal : List String
  routerIds : List String
  keepLocalPref : Bool
  keepAdminDist : Bool
  keepMed : Bool
  keepOspfType : Bool
  originatorIds : Bool
  deriving Inhabited

namespace Scope

def anyStatement (g : Graph) (p : Statement → Bool) : Bool :=
  g.configs.values.any fun c => c.routingPolicies.values.any fun pol =>
    (walkStatements c pol.statements).any fun
      | .stmt s => p s
      | .expr _ => false

/-- Protocols a router models: OSPF if configured, BGP if configured and the slice is the main
one, connected and static if the router originates a network of the header space. -/
def routerProtocols (hs : HeaderSpace) (isMain : Bool) (c : Configuration) : List Protocol :=
  let relevant (p : Protocol) := (Graph.originatedNetworks c p).any hs.relevantPrefix
  (if c.ospf.isSome then [.ospf] else []) ++ (if c.bgp.isSome && isMain then [.bgp] else []) ++
    (if relevant .connected then [.connected] else []) ++ (if relevant .static then [.static] else [])

/-- Networks whose aggregate suppresses more specific routes: summary-only aggregates and the
prefixes of the marked route filter lists. -/
def suppressedOf (c : Configuration) : List Prefix :=
  let marked := c.routeFilterLists.entries.flatMap fun (name, l) =>
    if (name.splitOn suppressMark).length > 1 then l.lines.map (·.range.net) else []
  Ordered.setOf compare ((c.generatedRoutes.filter (·.summaryOnly)).map (·.network) ++ marked)

def make (g : Graph) (hs : HeaderSpace) (isMain : Bool) : Scope :=
  let protocols := g.configs.mapValues fun _ c => routerProtocols hs isMain c
  let areas := Ordered.setOf compare (g.routers.flatMap g.areas)
  let setsMetricType := anyStatement g fun
    | .setOspfMetricType _ => true
    | _ => false
  let needsId (r : String) (c : Configuration) : Bool :=
    let usesIbgp := (g.edges r).any fun e => Ordered.mem GraphEdge.cmp e g.ibgpNeighbors
    let usesEbgp := (protocols.getD r []).contains .bgp
    let (mpIbgp, mpEbgp) := (c.bgp.map fun b => (b.multipathIbgp, b.multipathEbgp)).getD (false, false)
    (usesIbgp && !mpIbgp) || (usesEbgp && !mpEbgp)
  { protocols
    aggregates := g.configs.mapValues fun _ c => c.generatedRoutes.filter (hs.relevantPrefix ·.network)
    suppressed := g.configs.mapValues fun _ c => suppressedOf c
    singleProtocol := (protocols.entries.filter (·.2.length == 1)).map (·.1)
    bgpInternal := Ordered.setOf compare (g.ibgpNeighbors.map (·.1.router))
    routerIds := (g.configs.entries.filter fun (r, c) => needsId r c).map (·.1)
    keepLocalPref := anyStatement g fun
      | .setLocalPreference _ => true
      | _ => false
    keepAdminDist := setsMetricType
    keepMed := false
    keepOspfType := setsMetricType || areas.length > 1
    originatorIds := !g.rrParent.entries.isEmpty }

def protocolsOf (s : Scope) (r : String) : List Protocol := s.protocols.getD r []

def isSingle (s : Scope) (r : String) : Bool := s.singleProtocol.contains r

def aggregatesOf (s : Scope) (r : String) : List GeneratedRoute := s.aggregates.getD r []

def isSuppressed (s : Scope) (r : String) (p : Prefix) : Bool := (s.suppressed.getD r []).contains p

def needsBgpInternal (s : Scope) (r : String) : Bool := s.bgpInternal.contains r

def needsRouterId (s : Scope) (r : String) : Bool := s.routerIds.contains r

end Scope
end ControlPlane
