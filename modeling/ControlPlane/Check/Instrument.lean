import ControlPlane.Encoding.Slice

/-!
# Property variables

Auxiliary variables over the forwarding of a slice, one per router: whether it reaches a
destination (with an id that decreases along the path, so that loops cannot fake reachability),
the number of hops to the destination, the number of paths carrying traffic (load), and whether
packets come back to a given router. Every name is `<slice prefix>_<kind>_<router>`.
-/

namespace ControlPlane
namespace Instrument

def varName (s : Slice) (kind router : String) : String := s.pre ++ "_" ++ kind ++ "_" ++ router

def forwardsAcross (s : Slice) (r : String) (e : GraphEdge) : Except EncodingError Term :=
  match s.forwardsAcross? r e with
  | some t => .ok t
  | none => .error (.missingVariable ("forwards across " ++ e.text))

def absorbed (s : Slice) (r : String) (edges : List GraphEdge) : Build Term := do
  match s.bestOf? r .connected with
  | none => pure Term.ff
  | some connected =>
    let ts ← (edges.filterMap (·.startAddress)).mapM fun a => do
      Build.both connected.permitted (← Build.equals s.packet.dstIp (Term.mkBv a.ip.toNat 32))
    Build.anyOf ts

/-- Reachability variables of every router, with their ids: a router reaches the destination
iff its id is positive. -/
def reachabilityVars (s : Slice) : Build (NameMap Term × NameMap Term) := do
  let zero : Term := .int 0
  let mut reach : NameMap Term := {}
  let mut ids : NameMap Term := {}
  for r in s.graph.routers do
    let id ← Build.intVar (varName s "reachable-id" r)
    let v ← Build.boolVar (varName s "reachable" r)
    Build.assert (← Build.equals v (← Build.gt id zero))
    Build.assert (← Build.ge id zero)
    ids := ids.insert r id
    reach := reach.insert r v
  return (reach, ids)

def recursiveReachability (s : Slice) (r : String) (ids : NameMap Term) : Encode Term := do
  let zero : Term := .int 0
  let id := ids.getD r zero
  let mut hasRoute := Term.ff
  let mut larger := Term.tt
  for e in s.graph.edges r do
    if !e.isAbstract then
      if let some peerId := e.peer.bind ids.get? then
        let fwd ← forwardsAcross s r e
        let sends ← Build.both fwd (← Build.gt peerId zero)
        hasRoute ← Build.either hasRoute sends
        larger ← Build.both larger (← Build.implies sends (← Build.gt id peerId))
  Build.cond hasRoute larger (← Build.equals id zero)

/-- Reachability of the destination edges: a router reaches them if it forwards out of one that
leaves the network, owns the destination address, or forwards to a neighbor that reaches them.
A host with a destination edge always reaches it. -/
def reachability (s : Slice) (dests : List GraphEdge) : Encode (NameMap Term) := do
  let (reach, ids) ← reachabilityVars s
  for (r, edges) in s.graph.edgeMap.entries do
    let destEdges := edges.filter fun e => !e.isAbstract && Ordered.contains GraphEdge.cmp e dests
    let mut direct := Term.ff
    if s.graph.isHost r && !destEdges.isEmpty then
      direct := Term.tt
    else
      for e in destEdges do
        if e.peer.isNone then
          direct ← Build.either direct (← forwardsAcross s r e)
    let abs ← absorbed s r destEdges
    let recursive ← recursiveReachability s r ids
    Build.assert (← Build.cond (← Build.either direct abs) (← Build.equals (ids.getD r (.int 0)) (.int 1)) recursive)
  return reach

def reachabilityOf (s : Slice) (dst : String) : Encode (NameMap Term) := do
  let (reach, ids) ← reachabilityVars s
  for r in s.graph.routers do
    if r == dst then
      Build.assert (← Build.equals (ids.getD r (.int 0)) (.int 1))
    else
      Build.assert (← recursiveReachability s r ids)
  return reach

def pathLength (s : Slice) (dests : List GraphEdge) : Encode (NameMap Term) := do
  let zero : Term := .int 0
  let minusOne : Term := .int (-1)
  let mut lens : NameMap Term := {}
  for r in s.graph.routers do
    let v ← Build.intVar (varName s "path-length" r)
    Build.assert (← Build.ge v minusOne)
    lens := lens.insert r v
  for (r, edges) in s.graph.edgeMap.entries do
    let len := lens.getD r zero
    let mut direct := Term.ff
    for e in edges do
      if !e.isAbstract && Ordered.contains GraphEdge.cmp e dests then
        direct ← Build.either direct (← forwardsAcross s r e)
    let mut accNone := Term.tt
    let mut accSome := Term.ff
    for e in edges do
      if !e.isAbstract then
        if let some peerLen := e.peer.bind lens.get? then
          let fwd ← forwardsAcross s r e
          accNone ← Build.both accNone (← Build.either (← Build.lt peerLen zero) (← Build.neg fwd))
          let viaPeer ← Build.allOf [← Build.ge peerLen zero, fwd,
            ← Build.equals len (← Build.plus peerLen (.int 1))]
          accSome ← Build.either accSome viaPeer
    let otherwise ← Build.cond accNone (← Build.equals len minusOne) accSome
    Build.assert (← Build.cond direct (← Build.equals len zero) otherwise)
  return lens

def load (s : Slice) (dests : List GraphEdge) : Encode (NameMap Term) := do
  let zero : Term := .int 0
  let mut loads : NameMap Term := {}
  for r in s.graph.routers do
    let v ← Build.intVar (varName s "load" r)
    Build.assert (← Build.ge v zero)
    loads := loads.insert r v
  for (r, edges) in s.graph.edgeMap.entries do
    let ld := loads.getD r zero
    let destEdges := edges.filter fun e => !e.isAbstract && Ordered.contains GraphEdge.cmp e dests
    let mut direct := Term.ff
    for e in destEdges do
      if e.peer.isNone then
        direct ← Build.either direct (← forwardsAcross s r e)
    let abs ← absorbed s r destEdges
    let mut acc : Term := .int 0
    for e in edges do
      if !e.isAbstract then
        let fwd ← forwardsAcross s r e
        if let some peerLoad := e.peer.bind loads.get? then
          acc ← Build.plus acc (← Build.cond fwd peerLoad zero)
    Build.assert (← Build.cond (← Build.either direct abs) (← Build.equals ld (.int 1)) (← Build.equals ld acc))
  return loads

def loop (s : Slice) (router : String) : Encode Term := do
  let mut onLoop : NameMap Term := {}
  for r in s.graph.routers do
    let v ← Build.boolVar (varName s "on-loop" (router ++ "_" ++ r))
    onLoop := onLoop.insert r v
  for (r, edges) in s.graph.edgeMap.entries do
    let mut acc := Term.ff
    for e in edges do
      if !e.isAbstract then
        if let some peer := e.peer then
          let fwd ← forwardsAcross s r e
          if peer == router then
            acc ← Build.either acc fwd
          else if let some peerOnLoop := onLoop.get? peer then
            acc ← Build.either acc (← Build.both fwd peerOnLoop)
    Build.assert (← Build.equals (onLoop.getD r Term.ff) acc)
  Encode.need (.missingVariable ("on-loop variable of " ++ router)) (onLoop.get? router)

def allEqual (xs : List Term) : Build Term := do
  Build.allOf (← (xs.zip xs.tail).mapM fun (a, b) => Build.equals a b)

end Instrument
end ControlPlane
