import ControlPlane.Proofs.Network.LinkPairing

/-!
# Inferred topologies are balanced

Without a topology, links are inferred from the interface addresses: two candidate interfaces
(active, not loopbacks, in a subnet shorter than 32 bits) are linked when they share a subnet and
differ in their host address. An interface is then linked to every other candidate of its
subnet. When no two candidates share an address, the candidates of a subnet all have as many
neighbors, one fewer than the subnet has candidates, so the inferred topology is balanced
(`Topology.infer_balanced`), and the other ends pair the edges of every graph built without a
topology (`Graph.otherEnd_pairs_edges_of_inferred`).
-/

namespace ControlPlane

open Std

theorem List.pair_sublist_of_mem {α : Type} {l : List α} {x y : α} (hx : x ∈ l) (hy : y ∈ l)
    (hxy : x ≠ y) : [x, y].Sublist l ∨ [y, x].Sublist l := by
  induction l with
  | nil => cases hx
  | cons z l ih =>
    rcases List.mem_cons.1 hx with rfl | hxl
    · have hyl : y ∈ l := (List.mem_cons.1 hy).resolve_left hxy.symm
      exact .inl (List.cons_sublist_cons.2 (List.singleton_sublist.2 hyl))
    rcases List.mem_cons.1 hy with rfl | hyl
    · exact .inr (List.cons_sublist_cons.2 (List.singleton_sublist.2 hxl))
    rcases ih hxl hyl with h | h
    · exact .inl (h.cons z)
    · exact .inr (h.cons z)

theorem List.flatMap_sublist_flatMap {α β : Type} {l : List α} {f g : α → List β}
    (h : ∀ a ∈ l, (f a).Sublist (g a)) : (l.flatMap f).Sublist (l.flatMap g) := by
  induction l with
  | nil => exact .slnil
  | cons a l ih =>
    rw [List.flatMap_cons, List.flatMap_cons]
    exact (h a List.mem_cons_self).append (ih fun b hb => h b (List.mem_cons_of_mem _ hb))

theorem List.filterMap_sublist_filterMap {α β : Type} (l : List α) {f g : α → Option β}
    (h : ∀ a b, f a = some b → g a = some b) : (l.filterMap f).Sublist (l.filterMap g) := by
  induction l with
  | nil => exact .slnil
  | cons a l ih =>
    rw [List.filterMap_cons, List.filterMap_cons]
    cases hf : f a with
    | none =>
      cases g a with
      | none => exact ih
      | some b => exact ih.cons b
    | some b =>
      rw [h a b hf]
      exact ih.cons_cons b

/-- Values picked out of a list are distinct when each is determined by its source through a
map without repetitions. -/
theorem List.nodup_filterMap_of {α β γ : Type} {l : List α} {f : α → Option β} {g : β → γ}
    {k : α → γ} (hk : (l.map k).Nodup) (hfk : ∀ a b, f a = some b → g b = k a) :
    ((l.filterMap f).map g).Nodup := by
  induction l with
  | nil => exact .nil
  | cons a l ih =>
    rw [List.map_cons, List.nodup_cons] at hk
    rw [List.filterMap_cons]
    cases hf : f a with
    | none => exact ih hk.2
    | some b =>
      refine List.nodup_cons.2 ⟨fun hb => hk.1 ?_, ih hk.2⟩
      obtain ⟨b', hb', hgb⟩ := List.mem_map.1 hb
      obtain ⟨a', ha', hfa'⟩ := List.mem_filterMap.1 hb'
      rw [← hfk a b hf, ← hgb, hfk a' b' hfa']
      exact List.mem_map_of_mem ha'

theorem Ordered.mem_insert_self {κ : Type} {cmp : κ → κ → Ordering} [LawfulEqCmp cmp] (k : κ)
    (ks : List κ) : k ∈ Ordered.insert cmp k ks := by
  obtain ⟨y, hy, hky⟩ := @Ordered.exists_mem_insert κ cmp _ k ks
  rwa [← LawfulEqCmp.eq_of_compare hky] at hy

theorem NodeInterface.compare_eq_compareLex :
    (compare : NodeInterface → NodeInterface → Ordering) =
      compareLex (compareOn (·.router)) (compareOn (·.iface)) :=
  funext fun a => funext fun b => NodeInterface.compare_eq a b

instance : TransOrd NodeInterface := by
  show TransCmp compare
  rw [NodeInterface.compare_eq_compareLex]
  infer_instance

theorem Ordered.sorted_setOf {κ : Type} {cmp : κ → κ → Ordering} [TransCmp cmp] (xs : List κ) :
    (Ordered.setOf cmp xs).Pairwise fun a b => cmp a b = .lt :=
  List.foldlRecOn (motive := fun acc : List κ => acc.Pairwise fun a b => cmp a b = .lt) _ _ .nil
    fun _ hacc _ _ => Ordered.pairwise_insert hacc

theorem Link.cmp_eq (a b : Link) :
    Link.cmp a b = (compare a.1 b.1).then (compare a.2 b.2) := rfl

instance : LawfulEqCmp Link.cmp where
  compare_self {a} := by
    rw [Link.cmp_eq, ReflOrd.compare_self, ReflOrd.compare_self]
    rfl
  eq_of_compare {a b} h := by
    rw [Link.cmp_eq, Ordering.then_eq_eq, Std.compare_eq_iff_eq, Std.compare_eq_iff_eq] at h
    exact Prod.ext h.1 h.2

namespace Topology

variable {t : Topology} {a b : NodeInterface} {l : Link}

theorem mem_links_addLink (h : l ∈ (t.addLink a b).links) : l ∈ t.links ∨ l = (a, b) ∨ l = (b, a) := by
  unfold addLink at h
  rcases Ordered.mem_insert h with rfl | h
  · split <;> simp
  · exact .inl h

theorem links_subset_addLink : t.links ⊆ (t.addLink a b).links :=
  fun _ h => Ordered.mem_insert_of_mem h

theorem link_mem_addLink (t : Topology) (a b : NodeInterface) :
    (a, b) ∈ (t.addLink a b).links ∨ (b, a) ∈ (t.addLink a b).links := by
  unfold addLink
  dsimp only
  split
  · exact .inl (Ordered.mem_insert_self _ _)
  · exact .inr (Ordered.mem_insert_self _ _)

/-- `l` joins, in one direction or the other, two candidates of `xs`, in their order in `xs`,
that share a subnet on different hosts. -/
def JoinsCandidates (xs : List (NodeInterface × InterfaceAddress)) (l : Link) : Prop :=
  ∃ p q, [p, q].Sublist xs ∧ p.2.subnet = q.2.subnet ∧ p.2.ip ≠ q.2.ip ∧
    (l = (p.1, q.1) ∨ l = (q.1, p.1))

theorem JoinsCandidates.cons {xs : List (NodeInterface × InterfaceAddress)} {l : Link}
    (h : JoinsCandidates xs l) (x : NodeInterface × InterfaceAddress) : JoinsCandidates (x :: xs) l := by
  obtain ⟨p, q, hpq, hs, hip, hl⟩ := h
  exact ⟨p, q, hpq.cons x, hs, hip, hl⟩

/-- One step of the round of candidate `(n1, a1)`: it is linked to `y` when the two share a
subnet on different hosts. -/
def linkStep (n1 : NodeInterface) (a1 : InterfaceAddress) (t : Topology)
    (y : NodeInterface × InterfaceAddress) : Topology :=
  if a1.subnet = y.2.subnet ∧ a1.ip ≠ y.2.ip then t.addLink n1 y.1 else t

theorem pairs_cons (n1 : NodeInterface) (a1 : InterfaceAddress)
    (rest : List (NodeInterface × InterfaceAddress)) (t : Topology) :
    infer.pairs ((n1, a1) :: rest) t = infer.pairs rest (rest.foldl (linkStep n1 a1) t) := by
  rw [infer.pairs]
  rfl

theorem links_subset_linkStep (n1 : NodeInterface) (a1 : InterfaceAddress) (t : Topology)
    (y : NodeInterface × InterfaceAddress) : t.links ⊆ (linkStep n1 a1 t y).links := by
  unfold linkStep
  split
  · exact links_subset_addLink
  · exact List.Subset.refl _

theorem links_subset_round (n1 : NodeInterface) (a1 : InterfaceAddress)
    (ys : List (NodeInterface × InterfaceAddress)) (t : Topology) :
    t.links ⊆ (ys.foldl (linkStep n1 a1) t).links := by
  induction ys generalizing t with
  | nil => exact List.Subset.refl _
  | cons y ys ih => exact List.Subset.trans (links_subset_linkStep n1 a1 t y) (ih _)

theorem links_subset_pairs (xs : List (NodeInterface × InterfaceAddress)) (t : Topology) :
    t.links ⊆ (infer.pairs xs t).links := by
  induction xs generalizing t with
  | nil => exact List.Subset.refl _
  | cons x rest ih =>
    obtain ⟨n1, a1⟩ := x
    rw [pairs_cons]
    exact List.Subset.trans (links_subset_round n1 a1 rest t) (ih _)

theorem mem_links_pairs {xs : List (NodeInterface × InterfaceAddress)} {t : Topology} {l : Link}
    (h : l ∈ (infer.pairs xs t).links) : l ∈ t.links ∨ JoinsCandidates xs l := by
  induction xs generalizing t with
  | nil => exact .inl h
  | cons x rest ih =>
    obtain ⟨n1, a1⟩ := x
    rw [pairs_cons] at h
    rcases ih h with h | h
    · -- a link of the first candidate's round, or one from before
      refine List.foldlRecOn (motive := fun t' : Topology =>
        l ∈ t'.links → l ∈ t.links ∨ JoinsCandidates ((n1, a1) :: rest) l) _ _ .inl
        (fun t' ht' y hy hl => ?_) h
      unfold linkStep at hl
      split at hl
      · next hc =>
        have hsub : [(n1, a1), y].Sublist ((n1, a1) :: rest) :=
          List.cons_sublist_cons.2 (List.singleton_sublist.2 hy)
        rcases mem_links_addLink hl with hl | hl | hl
        · exact ht' hl
        · exact .inr ⟨_, _, hsub, hc.1, hc.2, .inl hl⟩
        · exact .inr ⟨_, _, hsub, hc.1, hc.2, .inr hl⟩
      · exact ht' hl
    · exact .inr (h.cons _)

theorem link_mem_pairs {xs : List (NodeInterface × InterfaceAddress)}
    {p q : NodeInterface × InterfaceAddress} (hpq : [p, q].Sublist xs) (hs : p.2.subnet = q.2.subnet)
    (hip : p.2.ip ≠ q.2.ip) (t : Topology) :
    (p.1, q.1) ∈ (infer.pairs xs t).links ∨ (q.1, p.1) ∈ (infer.pairs xs t).links := by
  induction xs generalizing t with
  | nil => cases hpq
  | cons x rest ih =>
    obtain ⟨n1, a1⟩ := x
    rw [pairs_cons]
    rcases List.sublist_cons_iff.1 hpq with hpq | ⟨r, hr, hrest⟩
    · exact ih hpq _
    -- the round of `p` links it to `q`, and the later steps and rounds keep the link
    obtain ⟨rfl, rfl⟩ := List.cons_eq_cons.1 hr
    obtain ⟨pre, post, rfl⟩ := List.append_of_mem (List.singleton_sublist.1 hrest)
    rw [List.foldl_append, List.foldl_cons]
    have hstep : linkStep n1 a1 (pre.foldl (linkStep n1 a1) t) q =
        (pre.foldl (linkStep n1 a1) t).addLink n1 q.1 := if_pos ⟨hs, hip⟩
    rw [hstep]
    exact (link_mem_addLink _ n1 q.1).imp
      (fun h => links_subset_pairs _ _ (links_subset_round n1 a1 post _ h))
      (fun h => links_subset_pairs _ _ (links_subset_round n1 a1 post _ h))

theorem nodup_neighbors (t : Topology) (m : NodeInterface) : (t.neighbors m).Nodup :=
  (Ordered.sorted_setOf _).imp fun hlt heq => by
    subst heq
    rw [ReflOrd.compare_self] at hlt
    cases hlt

/-- In a topology inferred over `xs`, an interface's neighbors are the candidates that share its
subnet on another host. -/
theorem mem_neighbors_pairs {xs : List (NodeInterface × InterfaceAddress)} {m n : NodeInterface} :
    n ∈ (infer.pairs xs {}).neighbors m ↔
      ∃ a1 a2, (m, a1) ∈ xs ∧ (n, a2) ∈ xs ∧ a1.subnet = a2.subnet ∧ a1.ip ≠ a2.ip := by
  constructor
  · intro h
    obtain ⟨l, hl, hends⟩ := GraphBuild.mem_neighbors h
    rcases mem_links_pairs hl with hl | ⟨p, q, hpq, hs, hip, hlpq⟩
    · cases hl
    have hp : p ∈ xs := hpq.subset (List.mem_cons_self)
    have hq : q ∈ xs := hpq.subset (List.mem_cons_of_mem _ List.mem_cons_self)
    -- the link's two ends are `p` and `q`, in either order
    rcases hlpq with rfl | rfl <;> rcases hends with ⟨h1, h2⟩ | ⟨h1, h2⟩ <;> dsimp only at h1 h2 <;>
      subst h1 h2
    · exact ⟨p.2, q.2, hp, hq, hs, hip⟩
    · exact ⟨q.2, p.2, hq, hp, hs.symm, hip.symm⟩
    · exact ⟨q.2, p.2, hq, hp, hs.symm, hip.symm⟩
    · exact ⟨p.2, q.2, hp, hq, hs, hip⟩
  · rintro ⟨a1, a2, hm, hn, hs, hip⟩
    have hne : (m, a1) ≠ (n, a2) := fun h => hip (congrArg (·.2.ip) h)
    -- whichever of the two candidates comes first, the link is there
    have hlink : (m, n) ∈ (infer.pairs xs {}).links ∨ (n, m) ∈ (infer.pairs xs {}).links := by
      rcases List.pair_sublist_of_mem hm hn hne with h | h
      · exact link_mem_pairs h hs hip {}
      · exact (link_mem_pairs h hs.symm (Ne.symm hip) {}).symm
    rcases hlink with hl | hl
    · exact (mem_neighbors_of_link hl).1
    · exact (mem_neighbors_of_link hl).2

def subnetMembers (xs : List (NodeInterface × InterfaceAddress)) (s : Prefix) : List NodeInterface :=
  (xs.filter fun p => p.2.subnet = s).map Prod.fst

section Distinct

variable {xs : List (NodeInterface × InterfaceAddress)} (hnodes : (xs.map Prod.fst).Nodup)
  (hips : (xs.map (·.2.ip)).Nodup)

theorem mem_subnetMembers {s : Prefix} {n : NodeInterface} :
    n ∈ subnetMembers xs s ↔ ∃ a, (n, a) ∈ xs ∧ a.subnet = s := by
  simp [subnetMembers]

include hnodes hips in
theorem neighbors_perm_subnetMembers {m : NodeInterface} {a1 : InterfaceAddress} (hm : (m, a1) ∈ xs) :
    ((infer.pairs xs {}).neighbors m).Perm ((subnetMembers xs a1.subnet).erase m) := by
  have hmembers : (subnetMembers xs a1.subnet).Nodup :=
    hnodes.sublist (List.filter_sublist.map Prod.fst)
  refine (List.perm_ext_iff_of_nodup (nodup_neighbors _ m) (hmembers.erase m)).2 fun n => ?_
  rw [mem_neighbors_pairs, hmembers.mem_erase_iff, mem_subnetMembers]
  constructor
  · rintro ⟨a1', a2, hm', hn, hs, hip⟩
    -- `m` is one candidate, so `a1'` is its address `a1`
    obtain rfl : a1' = a1 := (Prod.mk.inj (List.inj_on_of_nodup_map hnodes hm' hm rfl)).2
    refine ⟨fun hnm => hip ?_, a2, hn, hs.symm⟩
    subst hnm
    rw [(Prod.mk.inj (List.inj_on_of_nodup_map hnodes hn hm rfl)).2]
  · rintro ⟨hnm, a2, hn, hs⟩
    -- distinct candidates have distinct hosts
    refine ⟨a1, a2, hm, hn, hs.symm, fun hip => hnm ?_⟩
    exact (Prod.mk.inj (List.inj_on_of_nodup_map hips hn hm hip.symm)).1

include hnodes hips in
theorem length_neighbors_pairs {m : NodeInterface} {a1 : InterfaceAddress} (hm : (m, a1) ∈ xs) :
    ((infer.pairs xs {}).neighbors m).length = (subnetMembers xs a1.subnet).length - 1 := by
  rw [(neighbors_perm_subnetMembers hnodes hips hm).length_eq]
  exact List.length_erase_of_mem (mem_subnetMembers.2 ⟨a1, hm, rfl⟩)

include hnodes hips in
theorem pairs_balanced : (infer.pairs xs {}).Balanced := by
  intro m n hn
  obtain ⟨a1, a2, hm, hn, hs, -⟩ := mem_neighbors_pairs.1 hn
  rw [length_neighbors_pairs hnodes hips hm, length_neighbors_pairs hnodes hips hn, hs]

end Distinct

/-- The interfaces that a topology is inferred over, with their addresses: active interfaces that
are not loopbacks, with an address in a subnet shorter than 32 bits. -/
def inferCandidates (configs : NameMap Configuration) : List (NodeInterface × InterfaceAddress) :=
  configs.values.flatMap fun c => c.interfaces.values.filterMap fun i =>
    if i.isLoopback || !i.active then none
    else match i.address with
      | some a => if a.len < 32 then some (NodeInterface.mk c.hostname i.name, a) else none
      | none => none

theorem infer_eq_pairs (configs : NameMap Configuration) :
    infer configs = infer.pairs (inferCandidates configs) {} := rfl

/-- A candidate is an interface of a router, named by the router's host name and the interface's
name, with its address. -/
theorem candidate_of_some {c : Configuration} {i : Interface} {p : NodeInterface × InterfaceAddress}
    (h : (if i.isLoopback || !i.active then none
      else match i.address with
        | some a => if a.len < 32 then some (NodeInterface.mk c.hostname i.name, a) else none
        | none => none) = some p) :
    p.1 = ⟨c.hostname, i.name⟩ ∧ i.address = some p.2 := by
  split at h
  · cases h
  split at h
  · next a ha =>
    split at h
    · cases h
      exact ⟨rfl, ha⟩
    · cases h
  · cases h

variable {configs : NameMap Configuration}

/-- Over configurations filed under their host names, in ascending order, with interfaces filed
by name, the candidates are distinct interfaces. -/
theorem nodup_inferCandidates_nodes (hs : configs.entries.Pairwise fun a b => a.1 < b.1)
    (hhost : ∀ q ∈ configs.entries, q.2.hostname = q.1)
    (hnames : ∀ c ∈ configs.values, c.InterfacesByName) :
    ((inferCandidates configs).map Prod.fst).Nodup := by
  rw [inferCandidates, List.map_flatMap]
  refine List.nodup_flatMap.2 ⟨fun c hc => ?_, ?_⟩
  · -- within a router, the interfaces' names are its keys
    have hkeys : (c.interfaces.values.map fun i => (⟨c.hostname, i.name⟩ : NodeInterface)).Nodup := by
      have hn := hnames c hc
      rw [NameMap.values, List.map_map]
      refine (List.pairwise_map.2 ?_)
      refine (List.pairwise_map.1 hn.1).imp_of_mem fun {q q'} hq hq' hne heq => hne ?_
      rw [← hn.2 q hq, ← hn.2 q' hq']
      exact congrArg NodeInterface.iface heq
    exact List.nodup_filterMap_of hkeys fun i p hp => (candidate_of_some hp).1
  · -- routers have distinct host names
    rw [NameMap.values, List.pairwise_map]
    refine hs.imp_of_mem fun {q q'} hq hq' hlt => ?_
    intro x hx hx'
    obtain ⟨p, hp, rfl⟩ := List.mem_map.1 hx
    obtain ⟨p', hp', hpp'⟩ := List.mem_map.1 hx'
    obtain ⟨i, -, hi⟩ := List.mem_filterMap.1 hp
    obtain ⟨i', -, hi'⟩ := List.mem_filterMap.1 hp'
    have hr := congrArg NodeInterface.router
      ((candidate_of_some hi').1.symm.trans (hpp'.trans (candidate_of_some hi).1))
    dsimp only at hr
    rw [hhost q hq, hhost q' hq'] at hr
    rw [hr] at hlt
    exact String.lt_irrefl _ hlt

/-- When no two interfaces of the configurations share a host address, neither do two
candidates. -/
theorem nodup_inferCandidates_ips
    (hips : ((configs.values.flatMap fun c => c.interfaces.values.filterMap (·.address)).map
      (·.ip)).Nodup) :
    ((inferCandidates configs).map (·.2.ip)).Nodup := by
  refine hips.sublist ?_
  rw [inferCandidates, List.map_flatMap, List.map_flatMap]
  refine List.flatMap_sublist_flatMap fun c _ => ?_
  rw [List.map_filterMap, List.map_filterMap]
  refine List.filterMap_sublist_filterMap _ fun i v hv => ?_
  obtain ⟨p, hp, rfl⟩ := Option.map_eq_some_iff.1 hv
  rw [(candidate_of_some hp).2]
  rfl

/-- A topology inferred from configurations filed under their host names, with their interfaces
filed by name and no two interfaces on one host address, is balanced. -/
theorem infer_balanced (hs : configs.entries.Pairwise fun a b => a.1 < b.1)
    (hhost : ∀ q ∈ configs.entries, q.2.hostname = q.1)
    (hnames : ∀ c ∈ configs.values, c.InterfacesByName)
    (hips : ((configs.values.flatMap fun c => c.interfaces.values.filterMap (·.address)).map
      (·.ip)).Nodup) :
    (infer configs).Balanced := by
  rw [infer_eq_pairs]
  exact pairs_balanced (nodup_inferCandidates_nodes hs hhost hnames) (nodup_inferCandidates_ips hips)

end Topology

namespace Graph

open GraphBuild

variable {cs : List Configuration} {g : Graph}

/-- Without a topology, over configurations that file every interface under its own name and
have no two interfaces on one host address, other ends pair the edges of the graph. -/
theorem otherEnd_pairs_edges_of_inferred (h : Graph.build cs none = .ok g)
    (hnames : ∀ c ∈ cs, c.InterfacesByName)
    (hips : ((g.configs.values.flatMap fun c => c.interfaces.values.filterMap (·.address)).map
      (·.ip)).Nodup) :
    g.OtherEndsPaired := by
  obtain ⟨configs, t, sm, hcs, -, hconfigs, -⟩ := build_stages h
  have hnames' : ∀ c ∈ g.configs.values, c.InterfacesByName := fun c hc =>
    hnames c (configsOf_mem hcs c (hconfigs ▸ hc))
  have hsorted : g.configs.entries.Pairwise fun a b => a.1 < b.1 := hconfigs ▸ configsOf_sorted hcs
  exact build_otherEndsPaired h hnames'
    (Topology.infer_balanced hsorted (build_hostname h) hnames' hips)

end Graph

end ControlPlane
