import ControlPlane.Encoding.Enum
import ControlPlane.Encoding.Scope

/-!
# Symbolic routes

A symbolic route is the record of one route as variables: whether it exists, its prefix length
and metric, and the attributes its slice keeps. An attribute that is not kept is absent, and
comparisons then use the protocol's default value.
-/

namespace ControlPlane

/-- A route record of variables. The record of an overall best route has no protocol. -/
structure Route where
  name : String
  proto : Option Protocol
  isEnv : Bool
  permitted : Term
  prefixLength : Term
  metric : Term
  adminDist : Option Term
  localPref : Option Term
  med : Option Term
  routerId : Option Term
  ospfArea : Option (SymEnum Nat)
  ospfType : Option (SymEnum OspfType)
  bgpInternal : Option Term
  clientId : Option (SymEnum Nat)
  igpMetric : Option Term
  history : Option (SymEnum Protocol)
  communities : List (CommunityVar × Term)
  deriving Inhabited

def allAreas (g : Graph) : List Nat := Ordered.setOf compare (g.routers.flatMap g.areas)

/-- Originator ids of the network: `0` for routes not learned from a client, then the ids of the
route reflector clients, ascending. -/
def allOriginatorIds (g : Graph) : List Nat := 0 :: Ordered.setOf compare g.originatorId.values

namespace Route

/-- A new record named `name` at `router`. Its attributes follow the scope: the protocols the
record covers (its own, or all of the router's for a best route), and what the scope keeps. -/
def new (name : String) (router : String) (proto : Option Protocol) (s : Scope) (g : Graph)
    (modelIgp isEnv : Bool) : Build Route := do
  have routerProtos := s.protocolsOf router
  have covers := match proto with
    | some p => [p]
    | none => routerProtos
  have hasBgp := covers.contains .bgp
  let hasOspf := covers.contains .ospf
  let multiple := routerProtos.length > 1
  let var (suffix : String) := Build.intVar (name ++ "_" ++ suffix)
  let optVar (keep : Bool) (suffix : String) : Build (Option Term) :=
    if keep then some <$> var suffix else pure none
  let permitted ← Build.boolVar (name ++ "_permitted")
  let prefixLength ← var "prefixLength"
  let metric ← var "metric"
  let adminDist ← optVar (s.keepAdminDist || multiple) "adminDist"
  let localPref ← optVar (hasBgp && s.keepLocalPref) "localPref"
  let med ← optVar (hasBgp && s.keepMed) "med"
  let routerId ← optVar (hasBgp && s.needsRouterId router) "routerID"
  let areas := allAreas g
  let ospfArea ← if hasOspf && areas.length > 1 then some <$> SymEnum.new (name ++ "_ospfArea") areas
    else pure none
  let ospfType ← if hasOspf && s.keepOspfType then some <$> OspfKind.new (name ++ "_ospfType")
    else pure none
  let bgpInternal ← if hasBgp && s.needsBgpInternal router then some <$> Build.boolVar (name ++ "_internal")
    else pure none
  let clientId ← if hasBgp && s.originatorIds then
      some <$> SymEnum.new (name ++ "_clientId") (allOriginatorIds g)
    else pure none
  let igpMetric ← optVar (hasBgp && modelIgp && s.needsBgpInternal router) "igpMetric"
  let history ← if proto.isNone && multiple then some <$> SymEnum.new (name ++ "_history") routerProtos
    else pure none
  let communities ← if hasBgp then
      g.allCommunities.mapM fun c => do
        pure (c, ← Build.boolVar (name ++ "_community_" ++ c.suffix))
    else pure []
  return { name, proto, isEnv, permitted, prefixLength, metric, adminDist, localPref, med, routerId,
           ospfArea, ospfType, bgpInternal, clientId, igpMetric, history,
           communities := Ordered.setOf (fun a b => compare a.1 b.1) communities }

def community (r : Route) (c : CommunityVar) : Term :=
  (Ordered.find? compare c r.communities).getD Term.ff

def mkEq (r o : Route) : Build Term := do
  let opt (a b : Option Term) : Build Term :=
    match a, b with
    | some a, some b => Build.equals a b
    | _, _ => pure Term.tt
  let optEnum {α : Type} [BEq α] [ToString α] (a b : Option (SymEnum α)) : Build (List Term) :=
    match a, b with
    | some a, some b => do pure [← a.mkEq b]
    | _, _ => pure []
  let base := [← Build.equals r.permitted o.permitted, ← Build.equals r.prefixLength o.prefixLength,
    ← Build.equals r.metric o.metric, ← opt r.adminDist o.adminDist, ← opt r.localPref o.localPref,
    ← opt r.med o.med, ← opt r.routerId o.routerId, ← opt r.bgpInternal o.bgpInternal,
    ← opt r.igpMetric o.igpMetric]
  let enums := (← optEnum r.ospfArea o.ospfArea) ++ (← optEnum r.ospfType o.ospfType) ++
    (← optEnum r.clientId o.clientId) ++ (← optEnum r.history o.history)
  let comms ← r.communities.filterMapM fun (c, e) =>
    match Ordered.find? compare c o.communities with
    | some x => some <$> Build.equals e x
    | none => pure none
  Build.allOf (base ++ enums ++ comms)

end Route
end ControlPlane
