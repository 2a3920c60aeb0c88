import ControlPlane.Network.Address

/-!
# Packets and header spaces

A concrete packet (`Flow`) enters the network at a router. A header space is a set of packets
described by lists of admitted and excluded values per header field; an empty list of admitted
values admits every value.
-/

namespace ControlPlane

/-- TCP flags of a packet. -/
structure TcpFlags where
  ack : Bool := false
  cwr : Bool := false
  ece : Bool := false
  fin : Bool := false
  psh : Bool := false
  rst : Bool := false
  syn : Bool := false
  urg : Bool := false
  deriving DecidableEq, Repr, Inhabited

def tcpFlagNames : List String := ["ack", "cwr", "ece", "fin", "psh", "rst", "syn", "urg"]

def TcpFlags.named (f : TcpFlags) : List (String × Bool) :=
  tcpFlagNames.zip [f.ack, f.cwr, f.ece, f.fin, f.psh, f.rst, f.syn, f.urg]

/-- A concrete packet entering the network at `ingressNode`. -/
structure Flow where
  ingressNode : String := ""
  srcIp : Ip := Ip.zero
  dstIp : Ip := Ip.zero
  srcPort : Nat := 0
  dstPort : Nat := 0
  ipProtocol : Nat := 0
  icmpType : Nat := 0
  icmpCode : Nat := 0
  tcpFlags : TcpFlags := {}
  tag : String := ""
  deriving DecidableEq, Repr, Inhabited

/-- Text `Flow<ingress:R src:ip:port dst:ip:port proto:N icmp:t/c flags>`; the ICMP part only
when type or code is set, and only the set flags. -/
def Flow.text (f : Flow) : String :=
  let icmp := if f.icmpType ≠ 0 ∨ f.icmpCode ≠ 0 then
      " icmp:" ++ toString f.icmpType ++ "/" ++ toString f.icmpCode
    else ""
  let flags := String.join (f.tcpFlags.named.filterMap fun (n, b) => if b then some (" " ++ n) else none)
  "Flow<ingress:" ++ f.ingressNode ++ " src:" ++ f.srcIp.text ++ ":" ++ toString f.srcPort ++
    " dst:" ++ f.dstIp.text ++ ":" ++ toString f.dstPort ++ " proto:" ++ toString f.ipProtocol ++
    icmp ++ flags ++ ">"

/-- A constraint on TCP flags; a flag without a value is not constrained. -/
structure TcpFlagsMatch where
  ack : Option Bool := none
  cwr : Option Bool := none
  ece : Option Bool := none
  fin : Option Bool := none
  psh : Option Bool := none
  rst : Option Bool := none
  syn : Option Bool := none
  urg : Option Bool := none
  deriving DecidableEq, Repr, Inhabited

def TcpFlagsMatch.named (m : TcpFlagsMatch) : List (String × Option Bool) :=
  tcpFlagNames.zip [m.ack, m.cwr, m.ece, m.fin, m.psh, m.rst, m.syn, m.urg]

def TcpFlagsMatch.admits (m : TcpFlagsMatch) (f : TcpFlags) : Bool :=
  (m.named.zip f.named).all fun ((_, want), (_, have_)) => want.all (· == have_)

/-- A set of packet headers. -/
structure HeaderSpace where
  dstIps : List Prefix := []
  notDstIps : List Prefix := []
  srcIps : List Prefix := []
  notSrcIps : List Prefix := []
  dstPorts : List SubRange := []
  notDstPorts : List SubRange := []
  srcPorts : List SubRange := []
  notSrcPorts : List SubRange := []
  ipProtocols : List Nat := []
  notIpProtocols : List Nat := []
  icmpTypes : List SubRange := []
  notIcmpTypes : List SubRange := []
  icmpCodes : List SubRange := []
  notIcmpCodes : List SubRange := []
  tcpFlags : List TcpFlagsMatch := []
  deriving DecidableEq, Repr, Inhabited

namespace HeaderSpace

def ipIn (ip : Ip) (pos neg : List Prefix) : Bool :=
  (pos.isEmpty || pos.any (·.containsIp ip)) && !neg.any (·.containsIp ip)

def numIn (v : Nat) (pos neg : List SubRange) : Bool :=
  (pos.isEmpty || pos.any (·.includes v)) && !neg.any (·.includes v)

def admits (h : HeaderSpace) (f : Flow) : Bool :=
  ipIn f.dstIp h.dstIps h.notDstIps && ipIn f.srcIp h.srcIps h.notSrcIps &&
    numIn f.dstPort h.dstPorts h.notDstPorts && numIn f.srcPort h.srcPorts h.notSrcPorts &&
    (h.ipProtocols.isEmpty || h.ipProtocols.any (· == f.ipProtocol)) &&
    !h.notIpProtocols.any (· == f.ipProtocol) &&
    numIn f.icmpType h.icmpTypes h.notIcmpTypes && numIn f.icmpCode h.icmpCodes h.notIcmpCodes &&
    (h.tcpFlags.isEmpty || h.tcpFlags.any (·.admits f.tcpFlags))

/-- A route for `p` may carry packets of the header space: the space names no destination, or
one of its destination prefixes and `p` contain one another. -/
def relevantPrefix (hs : HeaderSpace) (p : Prefix) : Bool :=
  hs.dstIps.isEmpty || hs.dstIps.any fun d => d.containsPrefix p || p.containsPrefix d

end HeaderSpace
end ControlPlane
