import ControlPlane.Network.Packet
import ControlPlane.Network.Policy

/-!
# Router configurations

The configuration of one router: interfaces, static and aggregate routes, the BGP and OSPF
processes, access lists, routing policies, community lists and route filter lists. Named items
are kept in lists sorted by name, with at most one entry per name.
-/

namespace ControlPlane

def nullInterfaceName : String := "null_interface"

/-- A map from names, as a list sorted by name with at most one entry per name. -/
structure NameMap (α : Type) where
  entries : List (String × α) := []
  deriving Repr, Inhabited

namespace NameMap

def insertEntry {α : Type} (k : String) (v : α) : List (String × α) → List (String × α)
  | [] => [(k, v)]
  | (k', v') :: rest =>
    if k < k' then (k, v) :: (k', v') :: rest
    else if k = k' then (k, v) :: rest
    else (k', v') :: insertEntry k v rest

def insert {α : Type} (m : NameMap α) (k : String) (v : α) : NameMap α := ⟨insertEntry k v m.entries⟩

def get? {α : Type} (m : NameMap α) (k : String) : Option α := m.entries.lookup k

def getD {α : Type} (m : NameMap α) (k : String) (d : α) : α := (m.get? k).getD d

def contains {α : Type} (m : NameMap α) (k : String) : Bool := (m.get? k).isSome

def values {α : Type} (m : NameMap α) : List α := m.entries.map Prod.snd

def keys {α : Type} (m : NameMap α) : List String := m.entries.map Prod.fst

def size {α : Type} (m : NameMap α) : Nat := m.entries.length

def ofList {α : Type} (kvs : List (String × α)) : NameMap α :=
  kvs.foldl (fun m (k, v) => m.insert k v) {}

def mapValues {α β : Type} (m : NameMap α) (f : String → α → β) : NameMap β :=
  ⟨m.entries.map fun (k, v) => (k, f k v)⟩

end NameMap

/-- Condition of an access list line. -/
inductive AclLineMatchExpr where
  | always
  | never
  | matchHeaderSpace (h : HeaderSpace)
  | conj (xs : List AclLineMatchExpr)
  | disj (xs : List AclLineMatchExpr)
  | negation (x : AclLineMatchExpr)
  | permittedByAcl (acl : String)
  | matchSrcInterface (ifaces : List String)
  deriving Repr, Inhabited

/-- A line of an access list. -/
structure AclLine where
  name : String
  action : LineAction
  matcher : AclLineMatchExpr
  deriving Repr, Inhabited

/-- A named access list; the first matching line decides, no match denies. -/
structure IpAccessList where
  name : String
  lines : List AclLine
  deriving Repr, Inhabited

/-- Outcome of filtering a packet: the first matching line, and the action. -/
structure FilterResult where
  matchedLine : Option Nat
  action : LineAction
  deriving DecidableEq, Repr, Inhabited

namespace IpAccessList

mutual
/-- Filter a packet. References to other lists are resolved in `acls`; `depth` bounds how deep
references are followed. -/
def filter (depth : Nat) (acl : IpAccessList) (f : Flow) (acls : NameMap IpAccessList) :
    Except NetworkError FilterResult :=
  filterLines depth 0 acl.lines f acls
def filterLines (depth i : Nat) (lines : List AclLine) (f : Flow) (acls : NameMap IpAccessList) :
    Except NetworkError FilterResult :=
  match lines with
  | [] => .ok ⟨none, .deny⟩
  | l :: rest => do
    if (← matchExpr depth l.matcher f acls) then pure ⟨some i, l.action⟩
    else filterLines depth (i + 1) rest f acls
/-- The packet satisfies the condition. Packets carry no receiving interface, so an interface
condition never holds. -/
def matchExpr (depth : Nat) (e : AclLineMatchExpr) (f : Flow) (acls : NameMap IpAccessList) :
    Except NetworkError Bool :=
  match e with
  | .always => .ok true
  | .never => .ok false
  | .matchHeaderSpace h => .ok (h.admits f)
  | .conj xs => matchAll depth xs f acls
  | .disj xs => matchAny depth xs f acls
  | .negation x => do pure (!(← matchExpr depth x f acls))
  | .permittedByAcl name =>
    match acls.get? name, depth with
    | none, _ => .error (.aclNotFound f.ingressNode name)
    | some _, 0 => .ok false
    | some acl, d + 1 => do pure ((← filter d acl f acls).action == .permit)
  | .matchSrcInterface _ => .ok false
def matchAll (depth : Nat) (xs : List AclLineMatchExpr) (f : Flow) (acls : NameMap IpAccessList) :
    Except NetworkError Bool :=
  match xs with
  | [] => .ok true
  | x :: rest => do if (← matchExpr depth x f acls) then matchAll depth rest f acls else pure false
def matchAny (depth : Nat) (xs : List AclLineMatchExpr) (f : Flow) (acls : NameMap IpAccessList) :
    Except NetworkError Bool :=
  match xs with
  | [] => .ok false
  | x :: rest => do if (← matchExpr depth x f acls) then pure true else matchAny depth rest f acls
end

def run (acl : IpAccessList) (f : Flow) (acls : NameMap IpAccessList) :
    Except NetworkError FilterResult :=
  filter (acls.size + 1) acl f acls

end IpAccessList

/-- An interface of a router. -/
structure Interface where
  name : String
  address : Option InterfaceAddress := none
  active : Bool := true
  loopback : Bool := false
  incomingFilter : Option String := none
  outgoingFilter : Option String := none
  ospfEnabled : Bool := false
  ospfCost : Option Nat := none
  ospfArea : Option Nat := none
  deriving DecidableEq, Repr, Inhabited

namespace Interface

def make (name : String) (address : InterfaceAddress) : Interface :=
  { name := name, address := some address }

def withOspf (i : Interface) (area cost : Nat) : Interface :=
  { i with ospfEnabled := true, ospfArea := some area, ospfCost := some cost }

def isLoopback (i : Interface) : Bool :=
  i.loopback || (i.name.toList.map Char.toLower).take 2 == ['l', 'o']

def subnet? (i : Interface) : Option Prefix := i.address.map InterfaceAddress.subnet

end Interface

/-- A static route, towards a next-hop address or out of an interface. -/
structure StaticRoute where
  network : Prefix
  nextHopIp : Option Ip := none
  nextHopInterface : Option String := none
  adminCost : Nat := 1
  deriving DecidableEq, Repr, Inhabited

namespace StaticRoute

def via (network : Prefix) (hop : Ip) : StaticRoute := { network := network, nextHopIp := some hop }

def out (network : Prefix) (iface : String) : StaticRoute :=
  { network := network, nextHopInterface := some iface }

def null (network : Prefix) : StaticRoute := out network nullInterfaceName

def isNullRouted (r : StaticRoute) : Bool := r.nextHopInterface == some nullInterfaceName

end StaticRoute

/-- An aggregate route, originated when a more specific route exists. -/
structure GeneratedRoute where
  network : Prefix
  discard : Bool := false
  summaryOnly : Bool := false
  deriving DecidableEq, Repr, Inhabited

/-- A BGP session. -/
structure BgpNeighbor where
  peerAddress : Ip
  localIp : Option Ip := none
  localAs : Nat
  remoteAs : Nat
  importPolicy : Option String := none
  exportPolicy : Option String := none
  sendCommunity : Bool := true
  routeReflectorClient : Bool := false
  deriving DecidableEq, Repr, Inhabited

def BgpNeighbor.isIbgp (n : BgpNeighbor) : Bool := n.localAs == n.remoteAs

/-- A BGP process. -/
structure BgpProcess where
  routerId : Ip
  neighbors : List BgpNeighbor := []
  multipathEbgp : Bool := false
  multipathIbgp : Bool := false
  networks : List Prefix := []
  deriving DecidableEq, Repr, Inhabited

/-- An OSPF process. -/
structure OspfProcess where
  routerId : Ip
  exportPolicy : Option String := none
  deriving DecidableEq, Repr, Inhabited

/-- A line of a route filter list. -/
structure RouteFilterLine where
  action : LineAction
  range : PrefixRange
  deriving DecidableEq, Repr, Inhabited

/-- A named route filter list; the first matching line decides, no match denies. -/
structure RouteFilterList where
  name : String
  lines : List RouteFilterLine
  deriving DecidableEq, Repr, Inhabited

def RouteFilterList.permits (l : RouteFilterList) (p : Prefix) : Bool :=
  match l.lines.find? (·.range.includesPrefix p) with
  | some line => line.action == .permit
  | none => false

/-- Condition of a community list line. -/
inductive CommunityMatch where
  | exact (c : Community)
  | regex (r : String)
  deriving DecidableEq, Repr, Inhabited

/-- A line of a community list. -/
structure CommunityListLine where
  action : LineAction
  matcher : CommunityMatch
  deriving DecidableEq, Repr, Inhabited

/-- A named community list. -/
structure CommunityList where
  name : String
  lines : List CommunityListLine
  deriving DecidableEq, Repr, Inhabited

/-- The configuration of a router or end host. -/
structure Configuration where
  hostname : String
  isHost : Bool := false
  interfaces : NameMap Interface := {}
  staticRoutes : List StaticRoute := []
  generatedRoutes : List GeneratedRoute := []
  bgp : Option BgpProcess := none
  ospf : Option OspfProcess := none
  acls : NameMap IpAccessList := {}
  routingPolicies : NameMap RoutingPolicy := {}
  communityLists : NameMap CommunityList := {}
  routeFilterLists : NameMap RouteFilterList := {}
  deriving Repr, Inhabited

namespace Configuration

def empty (hostname : String) : Configuration := { hostname := hostname }

def addInterface (c : Configuration) (i : Interface) : Configuration :=
  { c with interfaces := c.interfaces.insert i.name i }

def addPolicy (c : Configuration) (p : RoutingPolicy) : Configuration :=
  { c with routingPolicies := c.routingPolicies.insert p.name p }

def addAcl (c : Configuration) (a : IpAccessList) : Configuration :=
  { c with acls := c.acls.insert a.name a }

def addCommunityList (c : Configuration) (l : CommunityList) : Configuration :=
  { c with communityLists := c.communityLists.insert l.name l }

def addRouteFilterList (c : Configuration) (l : RouteFilterList) : Configuration :=
  { c with routeFilterLists := c.routeFilterLists.insert l.name l }

def addStaticRoute (c : Configuration) (r : StaticRoute) : Configuration :=
  { c with staticRoutes := c.staticRoutes ++ [r] }

def bgpRouterId (c : Configuration) : Ip := (c.bgp.map (·.routerId)).getD Ip.zero

def ospfAreas (c : Configuration) : List Nat := c.interfaces.values.filterMap (·.ospfArea)

end Configuration
end ControlPlane
