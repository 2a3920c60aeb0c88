import ControlPlane.Network.Config
import ControlPlane.Order

/-!
# Physical topology

Links between router interfaces. A link is stored once, with the smaller end first; read from a
file, the pairs are kept as written. Without a given topology, links are inferred from the
interface addresses.
-/

namespace ControlPlane

/-- An interface of a router, named by the router and the interface's key. -/
structure NodeInterface where
  router : String
  iface : String
  deriving DecidableEq, Repr, Inhabited, Ord

namespace NodeInterface

def debugText (n : NodeInterface) : String :=
  "NodeInterface \x7b router: " ++ debugQuote n.router ++ ", iface: " ++ debugQuote n.iface ++ " \x7d"

end NodeInterface

abbrev Link := NodeInterface × NodeInterface

def Link.cmp (a b : Link) : Ordering := (compare a.1 b.1).then (compare a.2 b.2)

/-- Links between interfaces, as an ascending set of pairs. -/
structure Topology where
  links : List Link := []
  deriving Repr, Inhabited

namespace Topology

def addLink (t : Topology) (a b : NodeInterface) : Topology :=
  let pair := if compare a b != .gt then (a, b) else (b, a)
  { links := Ordered.insert Link.cmp pair t.links }

def ofPairs (pairs : List Link) : Topology := { links := Ordered.setOf Link.cmp pairs }

def neighbors (t : Topology) (n : NodeInterface) : List NodeInterface :=
  Ordered.setOf compare (t.links.filterMap fun (a, b) =>
    if a = n then some b else if b = n then some a else none)

/-- Links inferred from addresses: two active interfaces that are not loopbacks, with addresses
in one subnet shorter than 32 bits but different host addresses. -/
def infer (configs : NameMap Configuration) : Topology :=
  let candidates := configs.values.flatMap fun c =>
    c.interfaces.values.filterMap fun i =>
      if i.isLoopback || !i.active then none
      else match i.address with
        | some a => if a.len < 32 then some (NodeInterface.mk c.hostname i.name, a) else none
        | none => none
  let rec pairs : List (NodeInterface × InterfaceAddress) → Topology → Topology
    | [], t => t
    | (n1, a1) :: rest, t =>
      pairs rest (rest.foldl (fun t (n2, a2) =>
        if a1.subnet = a2.subnet ∧ a1.ip ≠ a2.ip then t.addLink n1 n2 else t) t)
  pairs candidates {}

end Topology
end ControlPlane
