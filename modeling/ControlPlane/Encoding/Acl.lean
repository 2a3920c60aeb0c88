import ControlPlane.Network.Config
import ControlPlane.Encoding.Packet
import ControlPlane.Encoding.Basic

/-!
# Header spaces and access lists as formulas

A header space becomes a conjunction over the fields of a symbolic packet: each field lies in
one of its admitted ranges (if any are given) and in none of its excluded ones. An access list
becomes a chain of if-then-else over its lines, the first matching line deciding and a packet
that matches no line being denied.
-/

namespace ControlPlane

namespace PacketFormula

def firstBitsEqual (x : Term) (p : Prefix) : Build Term := do
  if p.len = 0 then return Term.tt
  let mask := Term.mkBv (maskOf p.len).toNat 32
  let value := Term.mkBv p.start.toNat 32
  Build.equals (← Build.bvAnd x mask) (← Build.bvAnd value mask)

def inRange (x : Term) (r : SubRange) : Build Term := do
  if r.start = r.finish then Build.equals x (.int r.start)
  else Build.both (← Build.le (.int r.start) x) (← Build.le x (.int r.finish))

def constrain {β : Type} (pos neg : List β) (f : β → Build Term) : Build Term := do
  let positive ← if pos.isEmpty then pure Term.tt else Build.anyOf (← pos.mapM f)
  let negative ← Build.anyOf (← neg.mapM f)
  Build.both positive (← Build.neg negative)

def headerSpace (pkt : Packet) (hs : HeaderSpace) : Build Term := do
  let tcp ← if hs.tcpFlags.isEmpty then pure Term.tt else
    Build.anyOf (← hs.tcpFlags.mapM fun m => do
      let wanted ← (m.named.zip pkt.tcpFlags).filterMapM fun ((_, want), var) =>
        match want with
        | some w => some <$> Build.equals var (.bool w)
        | none => pure none
      Build.allOf wanted)
  let parts := [
    ← constrain hs.dstIps hs.notDstIps (firstBitsEqual pkt.dstIp),
    ← constrain hs.srcIps hs.notSrcIps (firstBitsEqual pkt.srcIp),
    ← constrain hs.dstPorts hs.notDstPorts (inRange pkt.dstPort),
    ← constrain hs.srcPorts hs.notSrcPorts (inRange pkt.srcPort),
    ← constrain hs.ipProtocols hs.notIpProtocols fun p => Build.equals pkt.ipProtocol (.int p),
    ← constrain hs.icmpTypes hs.notIcmpTypes (inRange pkt.icmpType),
    ← constrain hs.icmpCodes hs.notIcmpCodes (inRange pkt.icmpCode),
    tcp]
  Build.allOf parts

mutual
/-- The packet satisfies a line condition of the access list `acl`. References to other lists
and to receiving interfaces have no symbolic meaning. -/
def matchExpr (pkt : Packet) (acl : String) : AclLineMatchExpr → Encode Term
  | .always => pure Term.tt
  | .never => pure Term.ff
  | .matchHeaderSpace hs => headerSpace pkt hs
  | .conj xs => do Build.allOf (← matchEach pkt acl xs)
  | .disj xs => do Build.anyOf (← matchEach pkt acl xs)
  | .negation x => do Build.neg (← matchExpr pkt acl x)
  | .permittedByAcl name => throw (.unsupportedAclMatch acl ("PermittedByAcl(" ++ name ++ ")"))
  | .matchSrcInterface ifaces =>
    throw (.unsupportedAclMatch acl ("MatchSrcInterface(" ++ ",".intercalate ifaces ++ ")"))
def matchEach (pkt : Packet) (acl : String) : List AclLineMatchExpr → Encode (List Term)
  | [] => pure []
  | x :: xs => do
    let t ← matchExpr pkt acl x
    return t :: (← matchEach pkt acl xs)
end

/-- The access list permits the packet: the first matching line decides, and no matching line
denies. The lines are folded from the last, so the last line's condition fails first. -/
def compileAcl (pkt : Packet) (acl : IpAccessList) : Encode Term :=
  acl.lines.reverse.foldlM (fun acc line => do
    let m ← matchExpr pkt acl.name line.matcher
    Build.cond m (.bool (line.action == .permit)) acc) Term.ff

end PacketFormula
end ControlPlane
