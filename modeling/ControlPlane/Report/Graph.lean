import ControlPlane.Network.Graph
import ControlPlane.Network.Schema

/-!
# Inspecting a graph

A JSON view of everything the graph knows: its edges, BGP sessions, route reflectors, domains,
community variables, and per router and edge the answers of the graph's queries.
-/

namespace ControlPlane
namespace Report

open Schema

def texts (xs : List String) : Json := Json.ofStrs xs

def interfaceView (i : Interface) : Json :=
  obj [("name", str i.name), ("address", Json.ofOption (fun a => str a.text) i.address),
    ("prefix", Json.ofOption (fun p => str p.text) i.subnet?), ("loopback", .bool i.isLoopback)]

def perProtocol {α : Type} (f : Protocol → Option α) (g : α → Json) : Json :=
  .obj (Protocol.all.filterMap fun p => (f p).map fun a => (p.name, g a))

def edgeView (g : Graph) (c : Configuration) (e : GraphEdge) : Json :=
  obj [("text", str e.text), ("start", interfaceView e.start),
    ("end", Json.ofOption interfaceView e.finish), ("peer", Json.ofOption str e.peer),
    ("abstract", .bool e.isAbstract), ("null", .bool e.isNullEdge),
    ("other_end", Json.ofOption (fun o => str o.text) (g.otherEnd? e)),
    ("external", .bool (g.isExternal e)), ("loopback", .bool (Graph.isLoopback e)),
    ("used", texts ((Protocol.all.filter fun p => g.isEdgeUsed c p e).map Protocol.name)),
    ("router_ids", .obj (Protocol.all.map fun p => (p.name, Json.ofOption Json.ofNat (g.routerId? e p)))),
    ("import_policy", perProtocol (fun p => g.importPolicy? p e) str),
    ("export_policy", perProtocol (fun p => g.exportPolicy? c p e) str),
    ("peer_type", match g.peerType e with
      | .ok t => str t.name
      | .error err => obj [("error", str ("NetworkError." ++ err.kind))]),
    ("ebgp", Json.ofOption (fun n => str n.peerAddress.text) (g.ebgpNeighbor? e)),
    ("ibgp", Json.ofOption (fun n => str n.peerAddress.text) (g.ibgpNeighbor? e)),
    ("bgp_neighbor", Json.ofOption (fun n => str n.peerAddress.text) (g.bgpNeighbor? e)),
    ("static_routes", texts ((g.staticRoutes e.router e.start.name).map (·.network.text)))]

def routerView (g : Graph) (router : String) (c : Configuration) : Json :=
  let redistributed := c.routingPolicies.keys.flatMap fun pol =>
    Protocol.all.filterMap fun p =>
      match Graph.redistributedProtocols c pol p with
      | [] => none
      | ps => some (pol ++ "/" ++ p.name, texts (ps.map Protocol.name))
  obj [("neighbors", texts (g.neighbors router)), ("is_host", .bool (g.isHost router)),
    ("areas", .arr ((g.areas router).map Json.ofNat)),
    ("domain", Json.ofOption texts (g.domain? router)),
    ("originated", .obj (Protocol.all.map fun p =>
      (p.name, texts ((Graph.originatedNetworks c p).map (·.text))))),
    ("redistributed", .obj (redistributed.mergeSort fun a b => a.1 ≤ b.1)),
    ("bgp_router_id", str c.bgpRouterId.text),
    ("edges", .arr ((g.edges router).map (edgeView g c)))]

def graphView (g : Graph) : Json :=
  let edgeTexts (es : List GraphEdge) := texts (es.map GraphEdge.text)
  obj [("all_edges", edgeTexts g.allEdges), ("all_real_edges", edgeTexts g.allRealEdges),
    ("dynamic_next_hop", .bool g.dynamicNextHop),
    ("rr_parent", nameMap str g.rrParent), ("rr_clients", nameMap texts g.rrClients),
    ("originator_id", nameMap Json.ofNat g.originatorId),
    ("communities", .arr (g.allCommunities.map fun c =>
      obj [("kind", str c.kind.name), ("value", str c.value), ("text", str c.text), ("suffix", str c.suffix)])),
    ("community_dependencies", .arr (g.communityDeps.map fun (c, ds) =>
      .arr [str c.text, texts (ds.map CommunityVar.text)])),
    ("named_communities", nameMap str g.namedCommunities),
    ("text", str g.text),
    ("routers", .obj (g.configs.entries.map fun (r, c) => (r, routerView g r c)))]

end Report
end ControlPlane
