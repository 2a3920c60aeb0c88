import ControlPlane.Encoding.Constraints
import ControlPlane.Check.Instrument

/-!
# Copies of the network

An encoder is one copy of the network in a context. Its variables start with the copy's id. The
main slice models the packets of the question; with iBGP sessions it is named `SLICE-MAIN_`, and
every iBGP speaker gets a slice of its own that models the TCP packets to its session address,
together with which routers reach that address.
-/

namespace ControlPlane

/-- One copy of the network in a context. -/
structure Encoder where
  id : Nat
  graph : Graph
  question : HeaderQuestion
  modelIgp : Bool
  failures : Failures
  slices : NameMap Slice
  mainName : String
  reachability : NameMap (NameMap Term)
  deriving Inhabited

def sessionCmp (a b : String × Ip) : Ordering := (compare a.1 b.1).then (compare a.2 b.2)

/-- The address each iBGP speaker uses for its sessions: per router, the smallest of its local
addresses (or, without one, the BGP router id). -/
def ibgpSessionAddresses (g : Graph) : List (String × Ip) :=
  let pairs := g.ibgpNeighbors.foldl (fun (acc : List (String × Ip)) (e, n) =>
    let ip := match n.localIp with
      | some ip => some ip
      | none => (g.configs.get? e.router).map Configuration.bgpRouterId
    match ip with
    | some ip => Ordered.insert sessionCmp (e.router, ip) acc
    | none => acc) []
  pairs.foldl (fun (acc : List (String × Ip)) (r, ip) =>
    if acc.any (·.1 == r) then acc else acc ++ [(r, ip)]) []

namespace Encoder

def sessionHeaderSpace (ip : Ip) : HeaderSpace :=
  { dstIps := [Prefix.make ip 32], dstPorts := [SubRange.singleton bgpPort],
    ipProtocols := [ipProtocolTcp] }

def new (g : Graph) (q : HeaderQuestion) : Encode Encoder := do
  let id ← Build.generateId
  let modelIgp := true
  let failures ← Failures.new g (toString id ++ "_")
  let mainName := if g.ibgpNeighbors.isEmpty || !modelIgp then "" else mainSliceName
  let main ← Slice.new id mainName g q.headerSpace modelIgp
  let mut slices : NameMap Slice := ({} : NameMap Slice).insert mainName main
  let mut reach : NameMap (NameMap Term) := {}
  if modelIgp then
    for (router, ip) in ibgpSessionAddresses g do
      let name := sliceName router
      let slice ← Slice.new id name g (sessionHeaderSpace ip) modelIgp
      let r ← Instrument.reachabilityOf slice router
      reach := reach.insert router r
      slices := slices.insert name slice
  return { id, graph := g, question := q, modelIgp, failures, slices, mainName,
           reachability := reach }

def main (e : Encoder) : Slice := e.slices.getD e.mainName default

def env (e : Encoder) : SliceEnv :=
  { failures := e.failures, slices := e.slices, reachability := e.reachability,
    question := e.question, modelIgp := e.modelIgp }

/-- At most `k` links fail. With node failures enabled, routers count towards `k` as well, and
otherwise no router fails. -/
def addFailedConstraints (e : Encoder) (k : Nat) : Build Unit := do
  let zero : Term := .int 0
  let one : Term := .int 1
  let mut vars := e.failures.internal.map (·.2) ++ e.failures.external.map (·.2)
  if e.question.failNodeQuery then
    vars := vars ++ e.failures.nodes.map (·.2)
  else
    for (_, v) in e.failures.nodes do
      Build.assert (← Build.equals v zero)
  let mut sum : Term := .int 0
  for v in vars do
    Build.assert (← Build.ge v zero)
    Build.assert (← Build.le v one)
    sum ← Build.plus sum v
  if k == 0 then
    for v in vars do
      Build.assert (← Build.equals v zero)
  else
    Build.assert (← Build.le sum (.int (signedOfBits (k % Nat.pow 2 64))))

def computeEncoding (e : Encoder) : Encode Unit := do
  e.addFailedConstraints e.question.failures
  if e.question.noEnvironment then
    for (_, r) in e.main.logical.environment do
      Build.assert (← Build.neg r.permitted)
  let env := e.env
  e.main.computeEncoding env
  for (name, s) in e.slices.entries do
    if name != e.mainName then
      s.computeEncoding env

end Encoder
end ControlPlane
