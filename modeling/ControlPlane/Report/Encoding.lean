import ControlPlane.Check.Verify
import ControlPlane.Report.Answer

/-!
# Inspecting an encoding

JSON views of the parts of an encoder: its failure variables, and per slice its scope, logical
edges, environment routes, decision variables and route records. A second view reads a model
back: the paths of the packet, the failed links, the selected external routes and the attributes
of routes.
-/

namespace ControlPlane
namespace Report

open Schema

def termJson (t : Term) : Json := str t.render

def termPairs {α : Type} (key : α → String) (xs : List (α × Term)) : Json :=
  .arr (xs.map fun (a, t) => .arr [str (key a), termJson t])

def failuresView (f : Failures) : Json :=
  obj [("internal", .arr (f.internal.map fun ((a, b), t) => .arr [str a, str b, termJson t])),
    ("edges", termPairs GraphEdge.text f.external), ("nodes", termPairs id f.nodes)]

def enumView {α : Type} (valueJson : α → Json) (e : SymEnum α) : Json :=
  obj [("domain", .arr (e.domain.map valueJson)), ("width", Json.ofNat e.width), ("term", termJson e.bits)]

/-- A route record: its name, protocol, which optional attributes it has, its enumerations and
its communities. -/
def routeView (r : Route) : Json :=
  let fields := [("adminDist", r.adminDist.isSome), ("localPref", r.localPref.isSome), ("med", r.med.isSome),
    ("routerID", r.routerId.isSome), ("internal", r.bgpInternal.isSome), ("igpMetric", r.igpMetric.isSome)]
  let enums := (r.ospfArea.map fun e => ("ospf_area", enumView Json.ofNat e)).toList ++
    (r.ospfType.map fun e => ("ospf_type", enumView (fun t => str t.name) e)).toList ++
    (r.clientId.map fun e => ("client_id", enumView Json.ofNat e)).toList ++
    (r.history.map fun e => ("history", enumView (fun p => str p.name) e)).toList
  obj ([("name", str r.name), ("proto", Json.ofOption (fun p => str p.name) r.proto), ("is_env", .bool r.isEnv),
    ("fields", Json.ofStrs (fields.filterMap fun (n, b) => if b then some n else none))] ++ enums ++
    [("communities", Json.ofStrs (r.communities.map (·.1.suffix)))])

/-- The logical edges of a slice, router by router and protocol by protocol; after the edges of
each protocol, the protocols redistributed into it. -/
def logicalEdgesView (s : Slice) : Json :=
  let lg := s.logical
  .arr <| lg.groups.entries.flatMap fun (router, per) =>
    let conf := (s.graph.configs.get? router).getD default
    per.flatMap fun (p, groups) =>
      let edges := groups.zipIdx.flatMap fun (group, gi) => group.map fun e =>
        obj [("edge", str e.text), ("group", Json.ofNat gi), ("route", str e.route.name),
          ("other", Json.ofOption (fun r => str r.name) (lg.otherRoute? e)),
          ("used", .bool (s.graph.isEdgeUsed conf e.proto e.edge))]
      edges ++ [obj [("router", str router), ("proto", str p.name),
        ("redistributed", Json.ofOption (fun ps => Json.ofStrs (ps.map Protocol.name)) (lg.redistributedOf? router p))]]

def sliceView (s : Slice) : Json :=
  let sc := s.scope
  let routers := .obj (s.graph.routers.map fun r =>
    (r, obj [("protocols", Json.ofStrs ((sc.protocolsOf r).map Protocol.name)), ("single", .bool (sc.isSingle r)),
      ("aggregates", Json.ofStrs ((sc.aggregatesOf r).map fun a => a.network.text)),
      ("bgp_internal", .bool (sc.needsBgpInternal r)), ("router_id", .bool (sc.needsRouterId r))]))
  let keep := obj [("local_pref", .bool sc.keepLocalPref), ("admin_dist", .bool sc.keepAdminDist),
    ("med", .bool sc.keepMed), ("ospf_type", .bool sc.keepOspfType), ("originator_ids", .bool sc.originatorIds)]
  let forwards := s.graph.edgeMap.entries.flatMap fun (r, edges) =>
    edges.filterMap fun e => (s.forwardsAcross? r e).map (e, ·)
  obj [("name", str s.name), ("prefix", str s.pre), ("is_main", .bool s.isMain), ("routers", routers),
    ("keep", keep), ("logical_edges", logicalEdgesView s),
    ("environment", .arr (s.logical.environment.map fun (i, r) => .arr [str i.text, str r.name])),
    ("best", .obj (s.decisions.best.entries.map fun (r, route) => (r, str route.name))),
    ("best_per_protocol", .obj (s.decisions.bestPerProtocol.entries.map fun (r, per) =>
      (r, .obj (per.map fun (p, route) => (p.name, str route.name))))),
    ("forwards_across", termPairs GraphEdge.text forwards),
    ("inbound_acls", termPairs GraphEdge.text s.inboundAcls),
    ("outbound_acls", termPairs GraphEdge.text s.outboundAcls),
    ("routes", .arr (s.routes.map routeView))]

def encoderView (e : Encoder) : Json :=
  obj [("id", Json.ofNat e.id), ("main_slice", str e.mainName), ("failures", failuresView e.failures),
    ("slice_reachability", .obj (e.reachability.entries.map fun (r, m) => (r, termPairs id m.entries))),
    ("slices", .arr (e.slices.values.map sliceView))]

def logicalEdgeDetails (e : Encoder) : Json :=
  let s := e.main
  .arr <| s.graph.routers.flatMap fun r =>
    let conf := (s.graph.configs.get? r).getD default
    (s.scope.protocolsOf r).flatMap fun p =>
      let edges := s.logical.edgesOf r p
      edges.zipIdx.map fun (le, i) =>
        obj [("edge", str le.text), ("used", .bool (s.graph.isEdgeUsed conf le.proto le.edge)),
          ("router_id", match LogicalGraph.routerIdTerm s.graph le.edge le.proto with
            | .ok t => termJson t
            | .error err => obj [("error", str ("EncodingError." ++ err.kind))]),
          ("equals_self", .bool (LogicalEdgeId.cmp le.id le.id == .eq)),
          ("equals_next", Json.ofOption (fun (n : LogicalEdge) => .bool (LogicalEdgeId.cmp le.id n.id == .eq)) edges[i + 1]?)]

def encoderDetails (e : Encoder) : Json :=
  let s := e.main
  obj [("routers", Json.ofNat e.graph.routers.length),
    ("slice_ids", .arr (e.slices.entries.map fun (n, sl) => .arr [str n, Json.ofNat sl.id])),
    ("header_space", headerSpaceJson s.headerSpace),
    ("import_edges", .obj (s.graph.routers.map fun r => (r, Json.ofStrs ((s.importEdgeIds r).map LogicalEdgeId.text)))),
    ("logical_edges", logicalEdgeDetails e),
    ("all_links", .arr (e.failures.allLinks.map termJson)),
    ("debug_of_dst_ip", termJson s.packet.dstIp)]

def kindOnly (kind : String) : Json := obj [("error", str kind)]

def kindAndMessage (kind message : String) : Json := obj [("error", str kind), ("message", str message)]

def traceView (m : Model) (e : Encoder) (router : String) : Json :=
  match Counterexample.flowTrace m e router with
  | .ok (f, t) => obj [("flow", str f.text), ("trace", flowTraceJson t), ("text", str t.text)]
  | .error err => kindAndMessage ("EncodingError." ++ err.kind) err.message

/-- What a model says about an encoder: the paths from `routers`, the failed links, the selected
external routes, the packet, and the attributes of the environment routes. -/
def modelView (m : Model) (e : Encoder) (routers : List String) : List (String × Json) :=
  let s := e.main
  [("traces", .obj (routers.map fun r => (r, traceView m e r))),
   ("failed_links", match Counterexample.failedLinks m e with
     | .ok ls => Json.ofStrs (ls.map TraceEdge.text)
     | .error err => kindOnly ("EncodingError." ++ err.kind)),
   ("env_table", match Counterexample.envRoutingTable m e with
     | .ok advs => .arr (advs.map advertisementJson)
     | .error err => kindAndMessage ("EncodingError." ++ err.kind) err.message),
   ("packet_model", match packetModel s m with
     | .ok pm => textMapJson pm
     | .error err => kindOnly ("SmtError." ++ err.kind)),
   ("route_models", .arr (s.logical.environment.map fun (i, r) =>
     .arr [str i.edge.text, match routeModel r s.packet.dstIp m with
       | .ok rm => textMapJson rm
       | .error err => kindOnly ("SmtError." ++ err.kind)]))]

def dispositionsView (m : Model) (e : Encoder) (routers : List String) : Json :=
  .obj (routers.filterMap fun r => match Counterexample.flowTrace m e r with
    | .ok (_, t) => some (r, str t.disposition.name)
    | .error _ => none)

def allRouteModels (m : Model) (e : Encoder) : Json :=
  let s := e.main
  .arr (s.routes.map fun r => .arr [str r.name, match routeModel r s.packet.dstIp m with
    | .ok rm => textMapJson rm
    | .error err => kindOnly ("SmtError." ++ err.kind)])

def valueJson : Value → Json
  | .bool b => obj [("bool", .bool b)]
  | .int i => obj [("int", Json.ofInt i)]
  | .bv v => obj [("bv", Json.ofNat v)]

def flowModel (pre : String) (f : Flow) : Model :=
  let m : Model := ({} : Model).set (pre ++ "dst-ip") (.bv f.dstIp.toNat) |>.set (pre ++ "src-ip") (.bv f.srcIp.toNat)
  let m := [("dst-port", f.dstPort), ("src-port", f.srcPort), ("ip-protocol", f.ipProtocol),
    ("icmp-type", f.icmpType), ("icmp-code", f.icmpCode)].foldl (fun m (k, v) => m.set (pre ++ k) (.int v)) m
  f.tcpFlags.named.foldl (fun m (k, b) => m.set (pre ++ "tcp-" ++ k) (.bool b)) m

def falsified (m : Model) (ctx : Context) : List Nat :=
  ctx.assertions.toList.zipIdx.filterMap fun (a, i) => match m.evalBool a with
    | .ok false => some i
    | _ => none

def unevaluable (m : Model) (ctx : Context) : Nat :=
  (ctx.assertions.toList.filter fun a => match m.evalBool a with
    | .error _ => true
    | .ok _ => false).length

/-- What a model says about an encoding in its context: how many assertions it makes false and
the first twenty of them, then `modelView`. With `names`, also the dispositions of the paths, the
model's size, the values of the variables `names`, and the attributes of every route. -/
def modelReport (m : Model) (ctx : Context) (e : Encoder) (routers : List String)
    (names : Option (List String)) : Json :=
  let falses := falsified m ctx
  let more := match names with
    | none => []
    | some names =>
      [("dispositions", dispositionsView m e routers),
        ("extras", obj [("len", Json.ofNat m.size), ("is_empty", .bool (m.size == 0)),
          ("get", .obj (names.map fun n => (n, Json.ofOption valueJson (m.get? n)))),
          ("route_models", allRouteModels m e)])]
  obj ([("false", Json.ofNat falses.length), ("first_false", .arr ((falses.take 20).map Json.ofNat))] ++
    modelView m e routers ++ more)

/-- The equality of each pair of named routes of the encoders' slices; a name that no route has
gives `NoSuchRoute`. -/
def routeEquations (encs : List Encoder) (pairs : List (String × String)) : Build (List Json) :=
  let routes := encs.flatMap fun e => e.slices.values.flatMap (·.routes)
  let find (n : String) := routes.find? (·.name == n)
  pairs.mapM fun (a, b) => match find a, find b with
    | some ra, some rb => do pure (termJson (← ra.mkEq rb))
    | _, _ => pure (kindOnly "NoSuchRoute")

/-- The transfer function of the main slice on the logical edge of `router` and `proto` at
interface `iface`, importing or exporting, compared against the route `other` names: the peer's
(`peer`), the router's best (`best`), its best of the protocol (`best_proto`) or its own
(`self`). Fails with `NoLogicalEdge` or `NoOtherRoute`. -/
def transferOn (enc : Encoder) (router : String) (proto : Protocol) (iface : String) (isExport : Bool)
    (other : String) (statements : List Statement) (cost : Int) (inlineLimit : Nat) :
    Except String TransferFunction := do
  let s := enc.main
  let kind := if isExport then EdgeKind.exporting else EdgeKind.importing
  let some edge := (s.logical.edgesOf router proto).find? fun e => e.edge.start.name == iface && e.kind == kind
    | throw "NoLogicalEdge"
  let other? := match other with
    | "peer" => s.logical.otherRoute? edge
    | "best" => s.decisions.best.get? router
    | "best_proto" => s.bestOf? router proto
    | _ => some edge.route
  let some other := other? | throw "NoOtherRoute"
  pure {
    slice := s
    env := enc.env
    conf := (enc.graph.configs.get? router).getD default
    other
    current := edge.route
    proto
    statements
    cost
    edge := edge.edge
    isExport
    inlineLimit }

end Report
end ControlPlane
