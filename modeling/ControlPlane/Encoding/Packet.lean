import ControlPlane.Smt.Context

/-!
# Symbolic packets

The header fields of a packet as variables: addresses as 32-bit vectors, ports, ICMP fields and
the IP protocol as integers, and one boolean per TCP flag. Every name carries the prefix of its
copy of the network.
-/

namespace ControlPlane

/-- The header fields of a symbolic packet. -/
structure Packet where
  dstIp : Term
  srcIp : Term
  dstPort : Term
  srcPort : Term
  icmpCode : Term
  icmpType : Term
  ipProtocol : Term
  tcpAck : Term
  tcpCwr : Term
  tcpEce : Term
  tcpFin : Term
  tcpPsh : Term
  tcpRst : Term
  tcpSyn : Term
  tcpUrg : Term
  deriving Inhabited

namespace Packet

def new (pre : String) : Build Packet := do
  let n (s : String) := pre ++ s
  let dstIp ← Build.bvVar (n "dst-ip") 32
  let srcIp ← Build.bvVar (n "src-ip") 32
  let dstPort ← Build.intVar (n "dst-port")
  let srcPort ← Build.intVar (n "src-port")
  let icmpCode ← Build.intVar (n "icmp-code")
  let icmpType ← Build.intVar (n "icmp-type")
  let ipProtocol ← Build.intVar (n "ip-protocol")
  let tcpAck ← Build.boolVar (n "tcp-ack")
  let tcpCwr ← Build.boolVar (n "tcp-cwr")
  let tcpEce ← Build.boolVar (n "tcp-ece")
  let tcpFin ← Build.boolVar (n "tcp-fin")
  let tcpPsh ← Build.boolVar (n "tcp-psh")
  let tcpRst ← Build.boolVar (n "tcp-rst")
  let tcpSyn ← Build.boolVar (n "tcp-syn")
  let tcpUrg ← Build.boolVar (n "tcp-urg")
  return { dstIp, srcIp, dstPort, srcPort, icmpCode, icmpType, ipProtocol,
           tcpAck, tcpCwr, tcpEce, tcpFin, tcpPsh, tcpRst, tcpSyn, tcpUrg }

def tcpFlags (p : Packet) : List Term :=
  [p.tcpAck, p.tcpCwr, p.tcpEce, p.tcpFin, p.tcpPsh, p.tcpRst, p.tcpSyn, p.tcpUrg]

def scalars (p : Packet) : List Term :=
  [p.dstIp, p.srcIp, p.dstPort, p.srcPort, p.icmpCode, p.icmpType, p.ipProtocol]

def mkEq (p q : Packet) : Build Term := do
  let eqs ← ((p.scalars ++ p.tcpFlags).zip (q.scalars ++ q.tcpFlags)).mapM fun (a, b) =>
    Build.equals a b
  Build.allOf eqs

end Packet
end ControlPlane
