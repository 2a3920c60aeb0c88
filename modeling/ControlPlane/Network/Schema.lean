import ControlPlane.Network.Topology
import ControlPlane.Json.Decode

/-!
# Configurations as JSON

The JSON form of configurations, topologies and header spaces. Addresses, prefixes and
communities are strings. An enumeration is written as a string for a variant without data and
as an object with the variant's name as its only key otherwise. Records ignore unknown members;
members with a default may be left out, optional members may also be `null`.

Policies and access list conditions nest; their decoders take the nesting they may still enter
as fuel. Decoders reject arrays and objects nested 128 deep, so `nesting` is enough.
-/

namespace ControlPlane
namespace Schema

open Decode

def nesting : Nat := 256

def obj (kvs : List (String × Json)) : Json := .obj kvs

def tagged (name : String) (v : Json) : Json := obj [(name, v)]

def nameMap {α : Type} (f : α → Json) (m : NameMap α) : Json := .obj (m.entries.map fun (k, v) => (k, f v))

def names {α : Type} (d : Decoder α) : Decoder (NameMap α) := fun j => (map d j).map NameMap.mk

def str (s : String) : Json := .str s

def ip : Decoder Ip := parsed Ip.parse

def pfx : Decoder Prefix := parsed Prefix.parse

def ifaceAddress : Decoder InterfaceAddress := parsed InterfaceAddress.parse

def community : Decoder Community := parsed Community.parse

def subRange : Decoder SubRange := record fun r => do
  let s ← r.req "start" u32
  let e ← r.req "end" u32
  pure ⟨s, e⟩

def subRangeJson (r : SubRange) : Json := obj [("start", Json.ofNat r.start), ("end", Json.ofNat r.finish)]

def prefixRange : Decoder PrefixRange := record fun r => do
  let p ← r.req "prefix" pfx
  let l ← r.req "length_range" subRange
  pure ⟨p, l⟩

def prefixRangeJson (r : PrefixRange) : Json :=
  obj [("prefix", str r.net.text), ("length_range", subRangeJson r.lengths)]

def lineAction : Decoder LineAction := variant [("Permit", .permit), ("Deny", .deny)] []

def lineActionJson (a : LineAction) : Json := str a.title

def protocol : Decoder Protocol :=
  variant [("Connected", .connected), ("Static", .static), ("Ospf", .ospf), ("Bgp", .bgp)] []

def routingProtocol : Decoder RoutingProtocol :=
  variant [("Connected", .connected), ("Static", .static), ("Ospf", .ospf), ("Bgp", .bgp),
    ("Ibgp", .ibgp), ("Aggregate", .aggregate), ("Isis", .isis), ("Rip", .rip)] []

def ospfMetricType : Decoder OspfMetricType := variant [("E1", .e1), ("E2", .e2)] []

def ospfMetricTypeJson : OspfMetricType → Json
  | .e1 => str "E1"
  | .e2 => str "E2"

def tcpFlagsMatch : Decoder TcpFlagsMatch := record fun r => do
  let ack ← r.opt "ack" bool
  let cwr ← r.opt "cwr" bool
  let ece ← r.opt "ece" bool
  let fin ← r.opt "fin" bool
  let psh ← r.opt "psh" bool
  let rst ← r.opt "rst" bool
  let syn ← r.opt "syn" bool
  let urg ← r.opt "urg" bool
  pure ⟨ack, cwr, ece, fin, psh, rst, syn, urg⟩

def tcpFlagsMatchJson (m : TcpFlagsMatch) : Json :=
  .obj (m.named.map fun (n, v) => (n, Json.ofOption Json.bool v))

def headerSpace : Decoder HeaderSpace := record fun r => do
  let dstIps ← r.withDefault "dst_ips" (list pfx) []
  let notDstIps ← r.withDefault "not_dst_ips" (list pfx) []
  let srcIps ← r.withDefault "src_ips" (list pfx) []
  let notSrcIps ← r.withDefault "not_src_ips" (list pfx) []
  let dstPorts ← r.withDefault "dst_ports" (list subRange) []
  let notDstPorts ← r.withDefault "not_dst_ports" (list subRange) []
  let srcPorts ← r.withDefault "src_ports" (list subRange) []
  let notSrcPorts ← r.withDefault "not_src_ports" (list subRange) []
  let ipProtocols ← r.withDefault "ip_protocols" (list u8) []
  let notIpProtocols ← r.withDefault "not_ip_protocols" (list u8) []
  let icmpTypes ← r.withDefault "icmp_types" (list subRange) []
  let notIcmpTypes ← r.withDefault "not_icmp_types" (list subRange) []
  let icmpCodes ← r.withDefault "icmp_codes" (list subRange) []
  let notIcmpCodes ← r.withDefault "not_icmp_codes" (list subRange) []
  let tcpFlags ← r.withDefault "tcp_flags" (list tcpFlagsMatch) []
  pure { dstIps, notDstIps, srcIps, notSrcIps, dstPorts, notDstPorts, srcPorts, notSrcPorts,
         ipProtocols, notIpProtocols, icmpTypes, notIcmpTypes, icmpCodes, notIcmpCodes, tcpFlags }

def headerSpaceJson (h : HeaderSpace) : Json :=
  let pfxs (ps : List Prefix) : Json := .arr (ps.map fun p => str p.text)
  let ranges (rs : List SubRange) : Json := .arr (rs.map subRangeJson)
  let nums (ns : List Nat) : Json := .arr (ns.map Json.ofNat)
  obj [("dst_ips", pfxs h.dstIps), ("not_dst_ips", pfxs h.notDstIps), ("src_ips", pfxs h.srcIps),
    ("not_src_ips", pfxs h.notSrcIps), ("dst_ports", ranges h.dstPorts),
    ("not_dst_ports", ranges h.notDstPorts), ("src_ports", ranges h.srcPorts),
    ("not_src_ports", ranges h.notSrcPorts), ("ip_protocols", nums h.ipProtocols),
    ("not_ip_protocols", nums h.notIpProtocols), ("icmp_types", ranges h.icmpTypes),
    ("not_icmp_types", ranges h.notIcmpTypes), ("icmp_codes", ranges h.icmpCodes),
    ("not_icmp_codes", ranges h.notIcmpCodes), ("tcp_flags", .arr (h.tcpFlags.map tcpFlagsMatchJson))]

def tcpFlags : Decoder TcpFlags := record fun r => do
  let ack ← r.req "ack" bool
  let cwr ← r.req "cwr" bool
  let ece ← r.req "ece" bool
  let fin ← r.req "fin" bool
  let psh ← r.req "psh" bool
  let rst ← r.req "rst" bool
  let syn ← r.req "syn" bool
  let urg ← r.req "urg" bool
  pure ⟨ack, cwr, ece, fin, psh, rst, syn, urg⟩

def tcpFlagsJson (f : TcpFlags) : Json := .obj (f.named.map fun (n, b) => (n, .bool b))

def flow : Decoder Flow := record fun r => do
  let ingressNode ← r.req "ingress_node" string
  let srcIp ← r.req "src_ip" ip
  let dstIp ← r.req "dst_ip" ip
  let srcPort ← r.req "src_port" u32
  let dstPort ← r.req "dst_port" u32
  let ipProtocol ← r.req "ip_protocol" u32
  let icmpType ← r.req "icmp_type" u32
  let icmpCode ← r.req "icmp_code" u32
  let flags ← r.req "tcp_flags" tcpFlags
  let tag ← r.req "tag" string
  pure { ingressNode, srcIp, dstIp, srcPort, dstPort, ipProtocol, icmpType, icmpCode,
         tcpFlags := flags, tag }

def flowJson (f : Flow) : Json :=
  obj [("ingress_node", str f.ingressNode), ("src_ip", str f.srcIp.text), ("dst_ip", str f.dstIp.text),
    ("src_port", Json.ofNat f.srcPort), ("dst_port", Json.ofNat f.dstPort),
    ("ip_protocol", Json.ofNat f.ipProtocol), ("icmp_type", Json.ofNat f.icmpType),
    ("icmp_code", Json.ofNat f.icmpCode), ("tcp_flags", tcpFlagsJson f.tcpFlags), ("tag", str f.tag)]

def aclMatch : Nat → Decoder AclLineMatchExpr
  | 0 => fun _ => fail .malformed
  | d + 1 => variant [("True", .always), ("False", .never)]
      [("MatchHeaderSpace", fun j => (headerSpace j).map .matchHeaderSpace),
       ("And", fun j => (list (aclMatch d) j).map .conj),
       ("Or", fun j => (list (aclMatch d) j).map .disj),
       ("Not", fun j => (aclMatch d j).map .negation),
       ("PermittedByAcl", fun j => (string j).map .permittedByAcl),
       ("MatchSrcInterface", fun j => (list string j).map .matchSrcInterface)]

def aclMatchJson : AclLineMatchExpr → Json
  | .always => str "True"
  | .never => str "False"
  | .matchHeaderSpace h => tagged "MatchHeaderSpace" (headerSpaceJson h)
  | .conj xs => tagged "And" (.arr (xs.map aclMatchJson))
  | .disj xs => tagged "Or" (.arr (xs.map aclMatchJson))
  | .negation x => tagged "Not" (aclMatchJson x)
  | .permittedByAcl n => tagged "PermittedByAcl" (str n)
  | .matchSrcInterface xs => tagged "MatchSrcInterface" (Json.ofStrs xs)

def aclLine : Decoder AclLine := record fun r => do
  let name ← r.req "name" string
  let action ← r.req "action" lineAction
  let matcher ← r.req "matcher" (aclMatch nesting)
  pure ⟨name, action, matcher⟩

def aclLineJson (l : AclLine) : Json :=
  obj [("name", str l.name), ("action", lineActionJson l.action), ("matcher", aclMatchJson l.matcher)]

def accessList : Decoder IpAccessList := record fun r => do
  let name ← r.req "name" string
  let lines ← r.req "lines" (list aclLine)
  pure ⟨name, lines⟩

def accessListJson (a : IpAccessList) : Json :=
  obj [("name", str a.name), ("lines", .arr (a.lines.map aclLineJson))]

def longExpr : Decoder LongExpr :=
  variant [] [("Literal", fun j => (i64 j).map .literal), ("Increment", fun j => (i64 j).map .increment),
    ("Decrement", fun j => (i64 j).map .decrement)]

def longExprJson : LongExpr → Json
  | .literal v => tagged "Literal" (Json.ofInt v)
  | .increment v => tagged "Increment" (Json.ofInt v)
  | .decrement v => tagged "Decrement" (Json.ofInt v)

def prefixSet : Decoder PrefixSetExpr :=
  variant [] [("Explicit", fun j => (list prefixRange j).map .explicit),
    ("Named", fun j => (string j).map .named)]

def prefixSetJson : PrefixSetExpr → Json
  | .explicit rs => tagged "Explicit" (.arr (rs.map prefixRangeJson))
  | .named n => tagged "Named" (str n)

def communitySet : Decoder CommunitySetExpr :=
  variant [] [("Literal", fun j => (list community j).map .literal),
    ("Named", fun j => (string j).map .named)]

def communitySetJson : CommunitySetExpr → Json
  | .literal cs => tagged "Literal" (.arr (cs.map fun c => str c.text))
  | .named n => tagged "Named" (str n)

def asPathList : Decoder AsPathListExpr :=
  variant [] [("Multiplied", record fun r => do
      let a ← r.req "as_number" u32
      let c ← r.req "count" u32
      pure (.multiplied a c)),
    ("Literal", fun j => (list u32 j).map .literal)]

def asPathListJson : AsPathListExpr → Json
  | .multiplied a c => tagged "Multiplied" (obj [("as_number", Json.ofNat a), ("count", Json.ofNat c)])
  | .literal xs => tagged "Literal" (.arr (xs.map Json.ofNat))

def routingProtocolJson (p : RoutingProtocol) : Json := str p.title

def booleanExpr : Nat → Decoder BooleanExpr
  | 0 => fun _ => fail .malformed
  | d + 1 => variant
      [("True", .always), ("False", .never), ("CallExprContext", .callExprContext),
       ("CallStatementContext", .callStatementContext), ("MatchIpv4", .matchIpv4),
       ("MatchIpv6", .matchIpv6), ("MatchPrefix6Set", .matchPrefix6Set)]
      [("Conjunction", fun j => (list (booleanExpr d) j).map .conjunction),
       ("Disjunction", fun j => (list (booleanExpr d) j).map .disjunction),
       ("ConjunctionChain", fun j => (list (booleanExpr d) j).map .conjunctionChain),
       ("FirstMatchChain", fun j => (list (booleanExpr d) j).map .firstMatchChain),
       ("Not", fun j => (booleanExpr d j).map .negation),
       ("MatchProtocol", fun j => (list routingProtocol j).map .matchProtocol),
       ("MatchPrefixSet", fun j => (prefixSet j).map .matchPrefixSet),
       ("CallExpr", fun j => (string j).map .callExpr),
       ("WithEnvironment", fun j => (booleanExpr d j).map .withEnvironment),
       ("MatchCommunitySet", fun j => (communitySet j).map .matchCommunitySet),
       ("MatchAsPath", fun j => (string j).map .matchAsPath),
       ("MatchSrcInterface", fun j => (list string j).map .matchSrcInterface),
       ("PermittedByAcl", fun j => (string j).map .permittedByAcl),
       ("MatchTag", fun j => (i64 j).map .matchTag)]

def booleanExprJson : BooleanExpr → Json
  | .always => str "True"
  | .never => str "False"
  | .callExprContext => str "CallExprContext"
  | .callStatementContext => str "CallStatementContext"
  | .matchIpv4 => str "MatchIpv4"
  | .matchIpv6 => str "MatchIpv6"
  | .matchPrefix6Set => str "MatchPrefix6Set"
  | .conjunction xs => tagged "Conjunction" (.arr (xs.map booleanExprJson))
  | .disjunction xs => tagged "Disjunction" (.arr (xs.map booleanExprJson))
  | .conjunctionChain xs => tagged "ConjunctionChain" (.arr (xs.map booleanExprJson))
  | .firstMatchChain xs => tagged "FirstMatchChain" (.arr (xs.map booleanExprJson))
  | .negation x => tagged "Not" (booleanExprJson x)
  | .matchProtocol ps => tagged "MatchProtocol" (.arr (ps.map routingProtocolJson))
  | .matchPrefixSet s => tagged "MatchPrefixSet" (prefixSetJson s)
  | .callExpr n => tagged "CallExpr" (str n)
  | .withEnvironment x => tagged "WithEnvironment" (booleanExprJson x)
  | .matchCommunitySet s => tagged "MatchCommunitySet" (communitySetJson s)
  | .matchAsPath r => tagged "MatchAsPath" (str r)
  | .matchSrcInterface xs => tagged "MatchSrcInterface" (Json.ofStrs xs)
  | .permittedByAcl n => tagged "PermittedByAcl" (str n)
  | .matchTag t => tagged "MatchTag" (Json.ofInt t)

def unitStatements : List (String × Statement) :=
  [("ExitAccept", .exitAccept), ("ExitReject", .exitReject), ("ReturnTrue", .returnTrue),
   ("ReturnFalse", .returnFalse), ("ReturnLocalDefaultAction", .returnLocalDefaultAction),
   ("FallThrough", .fallThrough), ("Return", .returnFromPolicy),
   ("SetDefaultActionAccept", .setDefaultActionAccept), ("SetDefaultActionReject", .setDefaultActionReject),
   ("SetLocalDefaultActionAccept", .setLocalDefaultActionAccept),
   ("SetLocalDefaultActionReject", .setLocalDefaultActionReject), ("Suppress", .suppress),
   ("Unsuppress", .unsuppress), ("RemovePrivateAs", .removePrivateAs)]

def statement : Nat → Decoder Statement
  | 0 => fun _ => fail .malformed
  | d + 1 => variant unitStatements
      [("If", record fun r => do
          let g ← r.req "guard" (booleanExpr nesting)
          let t ← r.req "true_statements" (list (statement d))
          let e ← r.req "false_statements" (list (statement d))
          pure (.ite g t e)),
       ("SetDefaultPolicy", fun j => (string j).map .setDefaultPolicy),
       ("SetMetric", fun j => (longExpr j).map .setMetric),
       ("SetOspfMetricType", fun j => (ospfMetricType j).map .setOspfMetricType),
       ("SetLocalPreference", fun j => (longExpr j).map .setLocalPreference),
       ("AddCommunity", fun j => (communitySet j).map .addCommunity),
       ("SetCommunity", fun j => (communitySet j).map .setCommunity),
       ("DeleteCommunity", fun j => (communitySet j).map .deleteCommunity),
       ("PrependAsPath", fun j => (asPathList j).map .prependAsPath),
       ("SetOrigin", fun j => (string j).map .setOrigin),
       ("SetNextHop", fun j => (string j).map .setNextHop),
       ("SetTag", fun j => (i64 j).map .setTag),
       ("SetWeight", fun j => (i64 j).map .setWeight)]

def statements : Decoder (List Statement) := list (statement nesting)

def statementJson : Statement → Json
  | .ite g t e => tagged "If" (obj [("guard", booleanExprJson g),
      ("true_statements", .arr (t.map statementJson)), ("false_statements", .arr (e.map statementJson))])
  | .setDefaultPolicy n => tagged "SetDefaultPolicy" (str n)
  | .setMetric e => tagged "SetMetric" (longExprJson e)
  | .setOspfMetricType t => tagged "SetOspfMetricType" (ospfMetricTypeJson t)
  | .setLocalPreference e => tagged "SetLocalPreference" (longExprJson e)
  | .addCommunity s => tagged "AddCommunity" (communitySetJson s)
  | .setCommunity s => tagged "SetCommunity" (communitySetJson s)
  | .deleteCommunity s => tagged "DeleteCommunity" (communitySetJson s)
  | .prependAsPath e => tagged "PrependAsPath" (asPathListJson e)
  | .setOrigin o => tagged "SetOrigin" (str o)
  | .setNextHop h => tagged "SetNextHop" (str h)
  | .setTag t => tagged "SetTag" (Json.ofInt t)
  | .setWeight w => tagged "SetWeight" (Json.ofInt w)
  | s => str s.construct

def routingPolicy : Decoder RoutingPolicy := record fun r => do
  let name ← r.req "name" string
  let ss ← r.req "statements" statements
  pure ⟨name, ss⟩

def routingPolicyJson (p : RoutingPolicy) : Json :=
  obj [("name", str p.name), ("statements", .arr (p.statements.map statementJson))]

def communityMatch : Decoder CommunityMatch :=
  variant [] [("Exact", fun j => (community j).map .exact), ("Regex", fun j => (string j).map .regex)]

def communityList : Decoder CommunityList := record fun r => do
  let name ← r.req "name" string
  let lines ← r.req "lines" (list (record fun l => do
    let a ← l.req "action" lineAction
    let m ← l.req "matcher" communityMatch
    pure (CommunityListLine.mk a m)))
  pure ⟨name, lines⟩

def communityListJson (l : CommunityList) : Json :=
  obj [("name", str l.name), ("lines", .arr (l.lines.map fun line =>
    obj [("action", lineActionJson line.action), ("matcher", match line.matcher with
      | .exact c => tagged "Exact" (str c.text)
      | .regex r => tagged "Regex" (str r))]))]

def routeFilterList : Decoder RouteFilterList := record fun r => do
  let name ← r.req "name" string
  let lines ← r.req "lines" (list (record fun l => do
    let a ← l.req "action" lineAction
    let p ← l.req "range" prefixRange
    pure (RouteFilterLine.mk a p)))
  pure ⟨name, lines⟩

def routeFilterListJson (l : RouteFilterList) : Json :=
  obj [("name", str l.name), ("lines", .arr (l.lines.map fun line =>
    obj [("action", lineActionJson line.action), ("range", prefixRangeJson line.range)]))]

def interface : Decoder Interface := record fun r => do
  let name ← r.req "name" string
  let address ← r.opt "address" ifaceAddress
  let active ← r.withDefault "active" bool true
  let loopback ← r.withDefault "loopback" bool false
  let incomingFilter ← r.opt "incoming_filter" string
  let outgoingFilter ← r.opt "outgoing_filter" string
  let ospfEnabled ← r.withDefault "ospf_enabled" bool false
  let ospfCost ← r.opt "ospf_cost" u32
  let ospfArea ← r.opt "ospf_area" u64
  pure { name, address, active, loopback, incomingFilter, outgoingFilter, ospfEnabled, ospfCost, ospfArea }

def interfaceJson (i : Interface) : Json :=
  obj [("name", str i.name), ("address", Json.ofOption (fun a => str a.text) i.address),
    ("active", .bool i.active), ("loopback", .bool i.loopback),
    ("incoming_filter", Json.ofOption str i.incomingFilter),
    ("outgoing_filter", Json.ofOption str i.outgoingFilter), ("ospf_enabled", .bool i.ospfEnabled),
    ("ospf_cost", Json.ofOption Json.ofNat i.ospfCost), ("ospf_area", Json.ofOption Json.ofNat i.ospfArea)]

def staticRoute : Decoder StaticRoute := record fun r => do
  let network ← r.req "network" pfx
  let nextHopIp ← r.opt "next_hop_ip" ip
  let nextHopInterface ← r.opt "next_hop_interface" string
  let adminCost ← r.withDefault "admin_cost" u32 1
  pure { network, nextHopIp, nextHopInterface, adminCost }

def staticRouteJson (s : StaticRoute) : Json :=
  obj [("network", str s.network.text), ("next_hop_ip", Json.ofOption (fun a => str a.text) s.nextHopIp),
    ("next_hop_interface", Json.ofOption str s.nextHopInterface), ("admin_cost", Json.ofNat s.adminCost)]

def generatedRoute : Decoder GeneratedRoute := record fun r => do
  let network ← r.req "network" pfx
  let discard ← r.withDefault "discard" bool false
  let summaryOnly ← r.withDefault "summary_only" bool false
  pure { network, discard, summaryOnly }

def generatedRouteJson (g : GeneratedRoute) : Json :=
  obj [("network", str g.network.text), ("discard", .bool g.discard), ("summary_only", .bool g.summaryOnly)]

def bgpNeighbor : Decoder BgpNeighbor := record fun r => do
  let peerAddress ← r.req "peer_address" ip
  let localIp ← r.opt "local_ip" ip
  let localAs ← r.req "local_as" u32
  let remoteAs ← r.req "remote_as" u32
  let importPolicy ← r.opt "import_policy" string
  let exportPolicy ← r.opt "export_policy" string
  let sendCommunity ← r.withDefault "send_community" bool true
  let routeReflectorClient ← r.withDefault "route_reflector_client" bool false
  pure { peerAddress, localIp, localAs, remoteAs, importPolicy, exportPolicy, sendCommunity,
         routeReflectorClient }

def bgpNeighborJson (n : BgpNeighbor) : Json :=
  obj [("peer_address", str n.peerAddress.text), ("local_ip", Json.ofOption (fun a => str a.text) n.localIp),
    ("local_as", Json.ofNat n.localAs), ("remote_as", Json.ofNat n.remoteAs),
    ("import_policy", Json.ofOption str n.importPolicy), ("export_policy", Json.ofOption str n.exportPolicy),
    ("send_community", .bool n.sendCommunity), ("route_reflector_client", .bool n.routeReflectorClient)]

def bgpProcess : Decoder BgpProcess := record fun r => do
  let routerId ← r.req "router_id" ip
  let neighbors ← r.withDefault "neighbors" (list bgpNeighbor) []
  let multipathEbgp ← r.withDefault "multipath_ebgp" bool false
  let multipathIbgp ← r.withDefault "multipath_ibgp" bool false
  let networks ← r.withDefault "networks" (list pfx) []
  pure { routerId, neighbors, multipathEbgp, multipathIbgp, networks }

def bgpProcessJson (b : BgpProcess) : Json :=
  obj [("router_id", str b.routerId.text), ("neighbors", .arr (b.neighbors.map bgpNeighborJson)),
    ("multipath_ebgp", .bool b.multipathEbgp), ("multipath_ibgp", .bool b.multipathIbgp),
    ("networks", .arr (b.networks.map fun p => str p.text))]

def ospfProcess : Decoder OspfProcess := record fun r => do
  let routerId ← r.req "router_id" ip
  let exportPolicy ← r.opt "export_policy" string
  pure { routerId, exportPolicy }

def ospfProcessJson (o : OspfProcess) : Json :=
  obj [("router_id", str o.routerId.text), ("export_policy", Json.ofOption str o.exportPolicy)]

def configuration : Decoder Configuration := record fun r => do
  let hostname ← r.req "hostname" string
  let isHost ← r.withDefault "is_host" bool false
  let interfaces ← r.withDefault "interfaces" (names interface) {}
  let staticRoutes ← r.withDefault "static_routes" (list staticRoute) []
  let generatedRoutes ← r.withDefault "generated_routes" (list generatedRoute) []
  let bgp ← r.opt "bgp" bgpProcess
  let ospf ← r.opt "ospf" ospfProcess
  let acls ← r.withDefault "acls" (names accessList) {}
  let routingPolicies ← r.withDefault "routing_policies" (names routingPolicy) {}
  let communityLists ← r.withDefault "community_lists" (names communityList) {}
  let routeFilterLists ← r.withDefault "route_filter_lists" (names routeFilterList) {}
  pure { hostname, isHost, interfaces, staticRoutes, generatedRoutes, bgp, ospf, acls,
         routingPolicies, communityLists, routeFilterLists }

def configurationJson (c : Configuration) : Json :=
  obj [("hostname", str c.hostname), ("is_host", .bool c.isHost),
    ("interfaces", nameMap interfaceJson c.interfaces),
    ("static_routes", .arr (c.staticRoutes.map staticRouteJson)),
    ("generated_routes", .arr (c.generatedRoutes.map generatedRouteJson)),
    ("bgp", Json.ofOption bgpProcessJson c.bgp), ("ospf", Json.ofOption ospfProcessJson c.ospf),
    ("acls", nameMap accessListJson c.acls), ("routing_policies", nameMap routingPolicyJson c.routingPolicies),
    ("community_lists", nameMap communityListJson c.communityLists),
    ("route_filter_lists", nameMap routeFilterListJson c.routeFilterLists)]

def nodeInterface : Decoder NodeInterface := record fun r => do
  let router ← r.req "router" string
  let iface ← r.req "iface" string
  pure ⟨router, iface⟩

def nodeInterfaceJson (n : NodeInterface) : Json := obj [("router", str n.router), ("iface", str n.iface)]

def topology : Decoder Topology := record fun r => do
  let links ← r.req "links" (list (pair nodeInterface nodeInterface))
  pure (Topology.ofPairs links)

def topologyJson (t : Topology) : Json :=
  obj [("links", .arr (t.links.map fun (a, b) => .arr [nodeInterfaceJson a, nodeInterfaceJson b]))]

/-- The configurations of a network, with its topology if it is given. -/
structure NetworkFile where
  configurations : List Configuration
  topology : Option Topology := none
  deriving Inhabited

def network : Decoder NetworkFile := record fun r => do
  let configurations ← r.req "configurations" (list configuration)
  let topology ← r.opt "topology" topology
  pure ⟨configurations, topology⟩

end Schema
end ControlPlane
