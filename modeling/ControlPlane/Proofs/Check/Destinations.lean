import Mathlib
import ControlPlane.Check.Locate
import ControlPlane.Proofs.Network.Prefixes

/-!
# The destination header space

A question that leaves the destination addresses open is narrowed to its destination edges
(`Locate.destinationHeaderSpace`). Each edge is one step: an edge that leaves the network opens
the addresses again and ends the walk; any other edge adds the prefix of its address and, for a
host's edge to a peer, excludes the peer's address (`Locate.addDestination`). Over edges that all
stay inside, the walk is the steps one after another (`Locate.go_of_internal`), so every
destination edge's address lies in a destination prefix and every destination prefix holds the
address of a destination edge. The exclusions are the question's own and the peers of hosts;
an address that neither excludes is admitted.
-/

namespace ControlPlane
namespace Locate

variable {g : Graph}

/-- The destination prefix of an edge with an address: its subnet when it has no peer or its
router is a host, and its own address otherwise. -/
def destinationOf (g : Graph) (e : GraphEdge) : List Prefix :=
  match e.startAddress with
  | none => []
  | some a =>
    if e.peer.isNone || g.isHost e.router then [Prefix.make a.ip a.len] else [Prefix.make a.ip 32]

def exclusionOf (g : Graph) (e : GraphEdge) : List Prefix :=
  if e.startAddress.isSome && e.peer.isSome && g.isHost e.router then
    (e.endAddress.map fun b => Prefix.make b.ip 32).toList
  else []

def addDestination (g : Graph) (hs : HeaderSpace) (e : GraphEdge) : HeaderSpace :=
  { hs with dstIps := hs.dstIps ++ destinationOf g e, notDstIps := hs.notDstIps ++ exclusionOf g e }

theorem go_cons_internal {e : GraphEdge} (he : g.isExternal e = false) (rest : List GraphEdge)
    (hs : HeaderSpace) :
    destinationHeaderSpace.go g (e :: rest) hs =
      destinationHeaderSpace.go g rest (addDestination g hs e) := by
  rw [destinationHeaderSpace.go, if_neg (by simp [he])]
  cases ha : e.startAddress with
  | none => simp [addDestination, destinationOf, exclusionOf, ha]
  | some a =>
    cases hp : e.peer with
    | none => simp [addDestination, destinationOf, exclusionOf, ha, hp]
    | some p =>
      cases hh : g.isHost e.router
      · simp [addDestination, destinationOf, exclusionOf, ha, hp, hh]
      · cases hb : e.endAddress <;>
          simp [addDestination, destinationOf, exclusionOf, ha, hp, hh, hb]

theorem go_cons_external {e : GraphEdge} (he : g.isExternal e = true) (rest : List GraphEdge)
    (hs : HeaderSpace) :
    destinationHeaderSpace.go g (e :: rest) hs = { hs with dstIps := [], notDstIps := [] } := by
  rw [destinationHeaderSpace.go, if_pos he]

/-- Over edges that all stay inside the network, the walk adds every edge's prefix and
exclusion, in order. -/
theorem go_of_internal : ∀ {dests : List GraphEdge}, (∀ e ∈ dests, g.isExternal e = false) →
    ∀ hs, destinationHeaderSpace.go g dests hs =
      { hs with dstIps := hs.dstIps ++ dests.flatMap (destinationOf g),
                notDstIps := hs.notDstIps ++ dests.flatMap (exclusionOf g) }
  | [], _, hs => by simp [destinationHeaderSpace.go]
  | e :: rest, h, hs => by
    rw [go_cons_internal (h e List.mem_cons_self),
      go_of_internal (fun e' he' => h e' (List.mem_cons_of_mem _ he'))]
    simp [addDestination, List.append_assoc]

theorem go_of_external : ∀ {dests : List GraphEdge}, (∃ e ∈ dests, g.isExternal e = true) →
    ∀ hs, (destinationHeaderSpace.go g dests hs).dstIps = [] ∧
      (destinationHeaderSpace.go g dests hs).notDstIps = []
  | [], h, _ => by simp at h
  | e :: rest, h, hs => by
    cases he : g.isExternal e
    · rw [go_cons_internal he]
      obtain ⟨e', he', hext⟩ := h
      rcases List.mem_cons.1 he' with rfl | hrest
      · simp [he] at hext
      · exact go_of_external ⟨e', hrest, hext⟩ _
    · rw [go_cons_external he]
      exact ⟨rfl, rfl⟩

theorem containsIp_of_mem_destinationOf {e : GraphEdge} {a : InterfaceAddress}
    (ha : e.startAddress = some a) : ∀ p ∈ destinationOf g e, p.containsIp a.ip := by
  intro p hp
  simp only [destinationOf, ha] at hp
  split at hp <;> simp_all [Prefix.make, Prefix.containsIp]

theorem exists_mem_destinationOf {e : GraphEdge} {a : InterfaceAddress}
    (ha : e.startAddress = some a) : ∃ p ∈ destinationOf g e, p.containsIp a.ip := by
  have hne : destinationOf g e ≠ [] := by
    simp only [destinationOf, ha]
    split <;> simp
  obtain ⟨p, hp⟩ := List.exists_mem_of_ne_nil _ hne
  exact ⟨p, hp, containsIp_of_mem_destinationOf ha p hp⟩

theorem exists_address_of_mem_destinationOf {e : GraphEdge} {p : Prefix}
    (hp : p ∈ destinationOf g e) : ∃ a, e.startAddress = some a ∧ p.containsIp a.ip := by
  cases ha : e.startAddress with
  | none => simp [destinationOf, ha] at hp
  | some a => exact ⟨a, rfl, containsIp_of_mem_destinationOf ha p hp⟩

theorem eq_of_mem_exclusionOf {e : GraphEdge} {p : Prefix} (hp : p ∈ exclusionOf g e) :
    g.isHost e.router = true ∧ e.peer.isSome = true ∧
      ∃ b, e.endAddress = some b ∧ p = Prefix.make b.ip 32 := by
  unfold exclusionOf at hp
  split at hp
  · next hc =>
    simp only [Bool.and_eq_true] at hc
    cases hb : e.endAddress with
    | none => simp [hb] at hp
    | some b =>
      simp only [hb, Option.map_some, Option.toList_some, List.mem_singleton] at hp
      exact ⟨hc.2, hc.1.2, b, rfl, hp⟩
  · simp at hp

theorem destinationHeaderSpace_of_named {dests : List GraphEdge} {hs : HeaderSpace}
    (h : hs.dstIps ≠ []) : destinationHeaderSpace g dests hs = hs := by
  simp [destinationHeaderSpace, h]

theorem destinationHeaderSpace_of_open {dests : List GraphEdge} {hs : HeaderSpace}
    (h : hs.dstIps = []) :
    destinationHeaderSpace g dests hs = destinationHeaderSpace.go g dests hs := by
  simp [destinationHeaderSpace, h]

variable {dests : List GraphEdge} {hs : HeaderSpace}

/-- An address that no exclusion of the question holds, and that is the far end of no host's
destination edge, is admitted wherever a destination prefix holds it. -/
theorem ipIn_of_not_excluded {ip : Ip}
    (hin : ∃ p ∈ (hs.dstIps ++ dests.flatMap (destinationOf g)), p.containsIp ip)
    (hq : ∀ p ∈ hs.notDstIps, p.containsIp ip = false)
    (hhost : ∀ h ∈ dests, g.isHost h.router = true → h.peer.isSome = true →
      ∀ b, h.endAddress = some b → b.ip ≠ ip) :
    HeaderSpace.ipIn ip (hs.dstIps ++ dests.flatMap (destinationOf g))
      (hs.notDstIps ++ dests.flatMap (exclusionOf g)) = true := by
  have hany : (hs.dstIps ++ dests.flatMap (destinationOf g)).any (·.containsIp ip) = true :=
    List.any_eq_true.2 hin
  have hnone : (hs.notDstIps ++ dests.flatMap (exclusionOf g)).any (·.containsIp ip) = false := by
    rw [List.any_eq_false]
    intro p hp hc
    rcases List.mem_append.1 hp with hp | hp
    · simp [hq p hp] at hc
    · -- an exclusion is the `/32` of a host's peer, which is not `ip`
      obtain ⟨h, hmem, hex⟩ := List.mem_flatMap.1 hp
      obtain ⟨hh, hpeer, b, hb, rfl⟩ := eq_of_mem_exclusionOf hex
      exact hhost h hmem hh hpeer b hb (Prefix.containsIp_make_32 hc).symm
  simp [HeaderSpace.ipIn, hany, hnone]

/-- Narrowing to the destination edges: from open addresses and internal edges, every edge's
address lies in a destination prefix and every prefix holds one; an address that no exclusion
hides is admitted. An external edge opens the addresses again; named destinations are kept. -/
theorem destination_space_covers_destinations (g : Graph) (dests : List GraphEdge)
    (hs : HeaderSpace) :
    (hs.dstIps = [] → (∀ e ∈ dests, g.isExternal e = false) →
      let r := destinationHeaderSpace g dests hs
      (∀ e ∈ dests, ∀ a, e.startAddress = some a → ∃ p ∈ r.dstIps, p.containsIp a.ip) ∧
      (∀ p ∈ r.dstIps, ∃ e ∈ dests, ∃ a, e.startAddress = some a ∧ p.containsIp a.ip) ∧
      (∀ p ∈ hs.notDstIps, p ∈ r.notDstIps) ∧
      ∀ e ∈ dests, ∀ a, e.startAddress = some a →
        (∀ p ∈ hs.notDstIps, p.containsIp a.ip = false) →
        (∀ h ∈ dests, g.isHost h.router = true → h.peer.isSome = true →
          ∀ b, h.endAddress = some b → b.ip ≠ a.ip) →
        HeaderSpace.ipIn a.ip r.dstIps r.notDstIps = true) ∧
    (hs.dstIps = [] → (∃ e ∈ dests, g.isExternal e = true) →
      (destinationHeaderSpace g dests hs).dstIps = [] ∧
        (destinationHeaderSpace g dests hs).notDstIps = []) ∧
    (hs.dstIps ≠ [] → destinationHeaderSpace g dests hs = hs) := by
  refine ⟨fun hopen hint => ?_, fun hopen hext => ?_, destinationHeaderSpace_of_named⟩
  · dsimp only
    rw [destinationHeaderSpace_of_open hopen, go_of_internal hint]
    -- every edge with an address adds a prefix holding it
    have hcover : ∀ e ∈ dests, ∀ a, e.startAddress = some a →
        ∃ p ∈ hs.dstIps ++ dests.flatMap (destinationOf g), p.containsIp a.ip := by
      intro e he a ha
      obtain ⟨p, hp, hc⟩ := exists_mem_destinationOf (g := g) ha
      exact ⟨p, List.mem_append_right _ (List.mem_flatMap.2 ⟨e, he, hp⟩), hc⟩
    refine ⟨hcover, fun p hp => ?_, fun p hp => List.mem_append_left _ hp,
      fun e he a ha hq hhost => ipIn_of_not_excluded (hcover e he a ha) hq hhost⟩
    rw [hopen, List.nil_append] at hp
    obtain ⟨e, he, hpe⟩ := List.mem_flatMap.1 hp
    obtain ⟨a, ha, hc⟩ := exists_address_of_mem_destinationOf hpe
    exact ⟨e, he, a, ha, hc⟩
  · rw [destinationHeaderSpace_of_open hopen]
    exact go_of_external hext hs

def lanEdge : GraphEdge :=
  { router := "R", start := { name := "eth0", address := some ⟨⟨0x0A000002⟩, 24⟩ } }

/-- A router with the LAN `10.1.0.0/24` on `eth1`, and on `eth0` the host `H` across
`10.0.0.0/24`. -/
def lanRouter : Configuration where
  hostname := "R"
  interfaces := ⟨[("eth0", Interface.make "eth0" (InterfaceAddress.make ⟨0x0A000002⟩ 24)),
    ("eth1", Interface.make "eth1" (InterfaceAddress.make ⟨0x0A010001⟩ 24))]⟩

def lanHost : Configuration where
  hostname := "H"
  interfaces := ⟨[("eth0", Interface.make "eth0" (InterfaceAddress.make ⟨0x0A000001⟩ 24))]⟩
  isHost := true

def hostLink : Topology := ⟨[(⟨"R", "eth0"⟩, ⟨"H", "eth0"⟩)]⟩

/-- The pair builds: the router has an edge to the host and one to its LAN, neither leaving
the network, and the router is not a host. -/
theorem lanRouter_builds : ∃ g, Graph.build [lanRouter, lanHost] (some hostLink) = .ok g ∧
    (g.edges "R").map (·.peer) = [some "H", none] ∧
    (g.edges "R").map (·.startAddress) = [some ⟨⟨0x0A000002⟩, 24⟩, some ⟨⟨0x0A010001⟩, 24⟩] ∧
    (∀ e ∈ g.edges "R", e.router = "R" ∧ g.isExternal e = false) ∧ g.isHost "R" = false :=
  ⟨_, rfl, by decide, by decide, by decide, by decide⟩

/-- Narrowed to the router's two edges, the one facing the host and the one to its LAN, the
destination space admits the address of each. -/
theorem destination_space_on_router_edges :
    ∃ g, Graph.build [lanRouter, lanHost] (some hostLink) = .ok g ∧
      (g.edges "R").map (·.peer) = [some "H", none] ∧
      (g.edges "R").map (·.startAddress) = [some ⟨⟨0x0A000002⟩, 24⟩, some ⟨⟨0x0A010001⟩, 24⟩] ∧
      ∀ e ∈ g.edges "R", ∀ a, e.startAddress = some a →
        HeaderSpace.ipIn a.ip (destinationHeaderSpace g (g.edges "R") {}).dstIps
          (destinationHeaderSpace g (g.edges "R") {}).notDstIps = true := by
  obtain ⟨g, hg, hpeers, haddrs, hedges, hrouter⟩ := lanRouter_builds
  obtain ⟨-, -, -, hadmit⟩ := (destination_space_covers_destinations g (g.edges "R") {}).1 rfl
    fun e he => (hedges e he).2
  have hnohost : ∀ h ∈ g.edges "R", g.isHost h.router = false := fun h hh => by
    rw [(hedges h hh).1, hrouter]
  exact ⟨g, hg, hpeers, haddrs, fun e he a ha =>
    hadmit e he a ha (by simp) fun h hh hhost => absurd hhost (by simp [hnohost h hh])⟩

def hostGraph : Graph :=
  { (default : Graph) with configs := ⟨[("H", { hostname := "H", isHost := true })]⟩ }

def hostEdge : GraphEdge :=
  { router := "H", start := { name := "eth0", address := some ⟨⟨0x0A000001⟩, 24⟩ },
    peer := some "R",
    finish := some { name := "eth0", address := some ⟨⟨0x0A000002⟩, 24⟩ } }

def routerEdge : GraphEdge :=
  { router := "R", start := { name := "eth0", address := some ⟨⟨0x0A000002⟩, 24⟩ },
    peer := some "H",
    finish := some { name := "eth0", address := some ⟨⟨0x0A000001⟩, 24⟩ } }

/-- Exclusions hide destinations. A question that excludes `10.0.0.2/32` and names the LAN
interface of `R` as its destination keeps that exclusion, so the interface's own address is not
admitted. With the host's edge and the router's edge both as destinations, the host's edge
excludes the router's address, which the router's edge is the destination of. -/
theorem destination_exclusions_hide_destinations :
    (∀ e ∈ [lanEdge], (default : Graph).isExternal e = false) ∧
    HeaderSpace.ipIn ⟨0x0A000002⟩
      (destinationHeaderSpace default [lanEdge] { notDstIps := [Prefix.make ⟨0x0A000002⟩ 32] }).dstIps
      (destinationHeaderSpace default [lanEdge]
        { notDstIps := [Prefix.make ⟨0x0A000002⟩ 32] }).notDstIps = false ∧
    (∀ e ∈ [hostEdge, routerEdge], hostGraph.isExternal e = false) ∧
    routerEdge.startAddress = some ⟨⟨0x0A000002⟩, 24⟩ ∧
    HeaderSpace.ipIn ⟨0x0A000002⟩ (destinationHeaderSpace hostGraph [hostEdge, routerEdge] {}).dstIps
      (destinationHeaderSpace hostGraph [hostEdge, routerEdge] {}).notDstIps = false := by
  decide

end Locate

end ControlPlane
