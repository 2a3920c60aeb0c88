import ControlPlane.Proofs.Network.PhysicalLinks
import Mathlib.Data.List.Sort

/-!
# Graphs read from configurations are well formed

`Graph.build` keys its configurations by host name and its edge map by router. Every configured
router gets an entry of the edge map (`GraphBuild.EdgeTable`), and no stage adds an entry for
anything else or an edge towards anything else (`GraphBuild.Rooted`): a physical edge leads to
the far end of a checked link, a null-route edge leads nowhere, and an iBGP edge leads to the
peer of a session that is filed in both directions. Both maps have ascending keys, so the edge
map has exactly the routers as keys, and a built graph is `Graph.WellFormed`
(`Graph.build_wellFormed`); the configuration filed under a router names that router
(`Graph.build_hostname`).
-/

namespace ControlPlane

namespace GraphBuild

section Rooted

variable {configs : NameMap Configuration} {t : Topology}

theorem configsOf_hostname {cs : List Configuration} (h : configsOf cs = .ok configs) :
    ∀ q ∈ configs.entries, q.2.hostname = q.1 := by
  unfold configsOf at h
  -- the fold starts from the empty map, which files nothing
  generalize hm : ({} : NameMap Configuration) = m at h
  have hk : ∀ q ∈ m.entries, q.2.hostname = q.1 := hm ▸ by simp
  clear hm
  induction cs generalizing m with
  | nil =>
    cases h
    exact hk
  | cons c cs ih =>
    rw [List.foldlM_cons] at h
    split at h
    · cases h
    · refine ih _ h fun q hq => ?_
      rcases NameMap.mem_insertEntry hq with rfl | hq
      · rfl
      · exact hk q hq

theorem mem_keys_of_get? {α : Type} {m : NameMap α} {k : String} {v : α} (h : m.get? k = some v) :
    k ∈ m.keys :=
  List.mem_map_of_mem (f := Prod.fst) (NameMap.mem_entries_of_get? h)

/-- Every key of the edge map is a configured router, and every edge it lists leads nowhere or
to a configured router. -/
def Rooted (configs : NameMap Configuration) (em : NameMap (List GraphEdge)) : Prop :=
  ∀ q ∈ em.entries, q.1 ∈ configs.keys ∧ ∀ e ∈ q.2, ∀ p, e.peer = some p → p ∈ configs.keys

/-- Appending an edge towards a configured router, or towards nothing, to the list of a
configured router keeps the map rooted. -/
theorem Rooted.append {em : NameMap (List GraphEdge)} (h : Rooted configs em) {r : String}
    (hr : r ∈ configs.keys) {x : GraphEdge} (hx : ∀ p, x.peer = some p → p ∈ configs.keys) :
    Rooted configs (em.insert r (em.getD r [] ++ [x])) := by
  intro q hq
  rcases NameMap.mem_insertEntry hq with rfl | hq
  · refine ⟨hr, fun e he => ?_⟩
    rcases List.mem_append.1 he with he | he
    · -- an edge already listed for `r`, in its entry
      obtain ⟨es, hmem, he⟩ := NameMap.exists_mem_entries_of_mem_getD he
      exact (h _ hmem).2 e he
    · rw [List.mem_singleton.1 he]
      exact hx
  · exact h q hq

theorem routerEdges_peer (hlinks : checkLinks configs t = .ok ()) {r : String} {c : Configuration}
    {e : GraphEdge} (he : e ∈ (routerEdges configs t r c).1) {p : String} (hp : e.peer = some p) :
    p ∈ configs.keys := by
  rcases routerEdges_inv.edge e he with ⟨iface, -, rfl⟩ | ⟨iface, -, n, hn, rfl⟩
  · cases hp
  · obtain ⟨c', hc', -⟩ := checkLinks_neighbor hlinks hn.1
    cases hp
    exact mem_keys_of_get? hc'

theorem physicalEdges_rooted (hlinks : checkLinks configs t = .ok ()) :
    Rooted configs (physicalEdges configs t).1 := by
  unfold physicalEdges
  refine List.foldlRecOn (motive := fun b : PhysicalAcc => Rooted configs b.1) _ _ (by simp [Rooted])
    fun b hb p hp => ?_
  obtain ⟨em, others, nm, all⟩ := b
  obtain ⟨router, c⟩ := p
  intro q hq
  rcases NameMap.mem_insertEntry hq with rfl | hq
  · exact ⟨List.mem_map_of_mem (f := Prod.fst) hp, fun e he p hpe => routerEdges_peer hlinks he hpe⟩
  · exact hb q hq

theorem addNullEdges_rooted {init : NullAcc} (h : Rooted configs init.1) :
    Rooted configs (addNullEdges configs init).1 := by
  unfold addNullEdges
  refine List.foldlRecOn (motive := fun b : NullAcc => Rooted configs b.1) _ _ h fun b hb p hp => ?_
  obtain ⟨router, c⟩ := p
  dsimp only
  refine List.foldlRecOn (motive := fun b : NullAcc => Rooted configs b.1) _ _ hb fun b hb sr _ => ?_
  obtain ⟨em, sm, all⟩ := b
  -- a null-route edge has no peer
  exact hb.append (List.mem_map_of_mem (f := Prod.fst) hp) fun p hpe => nomatch hpe

theorem ibgpSessions_keys : ∀ q ∈ (ibgpSessions configs).entries, q.1 ∈ configs.keys := by
  unfold ibgpSessions
  dsimp only
  refine List.foldlRecOn (motive := fun acc : NameMap (NameMap BgpNeighbor) =>
    ∀ q ∈ acc.entries, q.1 ∈ configs.keys) _ _ (by simp) fun acc hacc p hp => ?_
  obtain ⟨router, c⟩ := p
  have hr : router ∈ configs.keys := List.mem_map_of_mem (f := Prod.fst) hp
  dsimp only
  split
  · exact hacc
  -- each session found is filed under `router`
  refine List.foldlRecOn (motive := fun acc : NameMap (NameMap BgpNeighbor) =>
    ∀ q ∈ acc.entries, q.1 ∈ configs.keys) _ _ hacc fun acc hacc n _ => ?_
  split
  · exact hacc
  refine List.foldlRecOn (motive := fun acc : NameMap (NameMap BgpNeighbor) =>
    ∀ q ∈ acc.entries, q.1 ∈ configs.keys) _ _ hacc fun acc hacc x _ => ?_
  split
  · intro q hq
    rcases NameMap.mem_insertEntry hq with rfl | hq
    · exact hr
    · exact hacc q hq
  · exact hacc

theorem addIbgpEdges_rooted {sessions : NameMap (NameMap BgpNeighbor)}
    (hs : ∀ q ∈ sessions.entries, q.1 ∈ configs.keys) {em : NameMap (List GraphEdge)}
    {all : List GraphEdge} (h : Rooted configs em) : Rooted configs (addIbgpEdges sessions em all).1 := by
  unfold addIbgpEdges
  refine List.foldlRecOn (motive := fun b : IbgpAcc => Rooted configs b.1) _ _ h fun b hb p hp => ?_
  obtain ⟨r1, ns⟩ := p
  dsimp only
  refine List.foldlRecOn (motive := fun b : IbgpAcc => Rooted configs b.1) _ _ hb fun b hb q _ => ?_
  obtain ⟨em, all, ib, rev⟩ := b
  obtain ⟨r2, n1⟩ := q
  -- the edge has a peer only when the session is filed under the peer too
  refine hb.append (hs _ hp) fun p hpe => ?_
  simp only [Option.map_eq_some_iff, Option.bind_eq_some_iff] at hpe
  obtain ⟨_, ⟨ns2, hns2, -⟩, rfl⟩ := hpe
  exact hs _ (NameMap.mem_entries_of_get? hns2)

end Rooted

end GraphBuild

namespace Graph

open GraphBuild

variable {cs : List Configuration} {topo : Option Topology} {g : Graph}

theorem config_eq_ok_iff {r : String} {c : Configuration} :
    g.config r = .ok c ↔ g.configs.get? r = some c := by
  unfold Graph.config
  split <;> simp_all

theorem build_rooted (h : Graph.build cs topo = .ok g) : Rooted g.configs g.edgeMap := by
  obtain ⟨configs, t, sm, -, hlinks, hconfigs, hem, -, -⟩ := build_stages h
  rw [hem, hconfigs]
  exact addIbgpEdges_rooted ibgpSessions_keys (addNullEdges_rooted (physicalEdges_rooted hlinks))

theorem build_hostname (h : Graph.build cs topo = .ok g) : ∀ q ∈ g.configs.entries, q.2.hostname = q.1 := by
  obtain ⟨configs, t, sm, hcs, -, hconfigs, -⟩ := build_stages h
  rw [hconfigs]
  exact configsOf_hostname hcs

theorem build_wellFormed (h : Graph.build cs topo = .ok g) : g.WellFormed := by
  obtain ⟨configs, t, sm, hcs, -, hconfigs, hem, -⟩ := build_stages h
  have htable : EdgeTable configs t g.edgeMap := by
    rw [hem]
    exact addIbgpEdges_table (addNullEdges_table (physicalEdges_table (configsOf_sorted hcs)))
  have hroot := build_rooted h
  rw [hconfigs] at hroot
  have hsorted : (g.edgeMap.keys).Pairwise (· < ·) := List.pairwise_map.2 htable.sorted
  have hkeys : g.routers.Pairwise (· < ·) := by
    rw [routers, hconfigs]
    exact List.pairwise_map.2 (configsOf_sorted hcs)
  refine ⟨List.Pairwise.eq_of_mem_iff hsorted hkeys fun r => ?_, hkeys.nodup, fun r e he p hp => ?_⟩
  · rw [routers, hconfigs]
    constructor
    · intro hr
      obtain ⟨q, hq, rfl⟩ := List.mem_map.1 hr
      exact (hroot q hq).1
    · -- every configured router has an entry
      intro hr
      obtain ⟨p, hp, rfl⟩ := List.mem_map.1 hr
      obtain ⟨extra, hmem⟩ := htable.routers p hp
      exact List.mem_map_of_mem (f := Prod.fst) hmem
  · rw [routers, hconfigs]
    obtain ⟨es, hmem, he⟩ := NameMap.exists_mem_entries_of_mem_getD he
    exact (hroot _ hmem).2 e he p hp

end Graph

end ControlPlane
