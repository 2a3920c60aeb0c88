import ControlPlane.Proofs.Encoding.ForwardingDecisions

/-!
# Other ends pair the edges of a graph

A router finds the links of an interface by its name, while a topology names link ends by the
key the interface is filed under, and an interface with more than two ends turns outwards on its
own side only. Over configurations that file each interface under its own name
(`Configuration.InterfacesByName`) and a topology whose linked interfaces have at most two ends
(`Topology.Balanced`), the other end of an edge is an edge of the peer leading back, whose own
other end is the first edge (`Graph.otherEnd_pairs_edges`).
-/

namespace ControlPlane

open Std GraphEdge

namespace Ordered

variable {κ : Type} {cmp : κ → κ → Ordering}

theorem length_insert_le (x : κ) (ks : List κ) : (insert cmp x ks).length ≤ ks.length + 1 := by
  induction ks with
  | nil => simp [insert]
  | cons y ks ih =>
    simp only [insert]
    split <;> simp [ih]

theorem length_setOf_le (xs : List κ) : (setOf cmp xs).length ≤ xs.length := by
  unfold setOf
  suffices ∀ acc : List κ,
      (xs.foldl (fun acc x => insert cmp x acc) acc).length ≤ acc.length + xs.length by
    simpa using this []
  induction xs with
  | nil => simp
  | cons x xs ih =>
    intro acc
    have hrest := ih (insert cmp x acc)
    have hins := @length_insert_le κ cmp x acc
    simp only [List.foldl_cons, List.length_cons]
    omega

end Ordered

namespace List

variable {α β : Type} [BEq α] [LawfulBEq α] {l : List (α × β)} {k : α} {v : β}

theorem lookup_eq_of_mem_of_nodup (hd : (l.map Prod.fst).Nodup) (h : (k, v) ∈ l) :
    l.lookup k = some v := by
  induction l with
  | nil => cases h
  | cons e l ih =>
    obtain ⟨k1, v1⟩ := e
    simp only [List.map_cons, List.nodup_cons] at hd
    rcases List.mem_cons.1 h with h | h
    · cases h
      rw [List.lookup_cons, beq_self_eq_true]
    · have hk : k ≠ k1 := fun hk => hd.1 (hk ▸ List.mem_map_of_mem (f := Prod.fst) h)
      rw [List.lookup_cons, beq_false_of_ne hk]
      exact ih hd.2 h

theorem mem_of_lookup_eq_some (h : l.lookup k = some v) : (k, v) ∈ l := by
  obtain ⟨l₁, l₂, rfl, -⟩ := List.lookup_eq_some_iff.1 h
  simp

theorem eq_of_mem_of_nodup {a b : α × β} (hd : (l.map Prod.fst).Nodup) (ha : a ∈ l) (hb : b ∈ l)
    (hk : a.1 = b.1) : a = b := by
  obtain ⟨ka, va⟩ := a
  obtain ⟨kb, vb⟩ := b
  dsimp only at hk
  subst hk
  have h := (lookup_eq_of_mem_of_nodup hd ha).symm.trans (lookup_eq_of_mem_of_nodup hd hb)
  rw [Option.some.inj h]

end List

theorem NodeInterface.compare_eq (a b : NodeInterface) :
    compare a b = (compare a.router b.router).then (compare a.iface b.iface) := by
  cases a
  cases b
  exact congrArg (Ordering.then _) Ordering.then_eq

instance : LawfulEqOrd NodeInterface where
  compare_self {a} := by
    rw [NodeInterface.compare_eq, ReflOrd.compare_self, ReflOrd.compare_self]
    rfl
  eq_of_compare {a b} h := by
    rw [NodeInterface.compare_eq, Ordering.then_eq_eq, Std.compare_eq_iff_eq,
      Std.compare_eq_iff_eq] at h
    cases a
    cases b
    simp only at h
    rw [h.1, h.2]

namespace Topology

/-- Linked interfaces agree on whether they have at most two ends: a link turns into edges on
both of its sides or on neither. -/
def Balanced (t : Topology) : Prop :=
  ∀ m n, n ∈ t.neighbors m → ((t.neighbors m).length ≤ 2 ↔ (t.neighbors n).length ≤ 2)

variable {t : Topology} {m n : NodeInterface}

theorem mem_neighbors_of_link {l : Link} (hl : l ∈ t.links) :
    l.2 ∈ t.neighbors l.1 ∧ l.1 ∈ t.neighbors l.2 := by
  obtain ⟨a, b⟩ := l
  constructor
  · refine Ordered.mem_setOf.2 (List.mem_filterMap.2 ⟨(a, b), hl, ?_⟩)
    simp
  · refine Ordered.mem_setOf.2 (List.mem_filterMap.2 ⟨(a, b), hl, ?_⟩)
    by_cases hab : a = b
    · simp [hab]
    · simp [hab]

theorem neighbors_symm (h : n ∈ t.neighbors m) : m ∈ t.neighbors n := by
  obtain ⟨l, hl, hlmn⟩ := GraphBuild.mem_neighbors h
  rcases hlmn with ⟨rfl, rfl⟩ | ⟨rfl, rfl⟩
  · exact (mem_neighbors_of_link hl).2
  · exact (mem_neighbors_of_link hl).1

theorem length_neighbors_le (m : NodeInterface) : (t.neighbors m).length ≤ t.links.length := by
  unfold neighbors
  exact (Ordered.length_setOf_le _).trans (List.length_filterMap_le _ _)

theorem Balanced.of_length_le_two (h : ∀ m, (t.neighbors m).length ≤ 2) : t.Balanced :=
  fun m n _ => ⟨fun _ => h n, fun _ => h m⟩

theorem Balanced.of_links_length_le_two (h : t.links.length ≤ 2) : t.Balanced :=
  Balanced.of_length_le_two fun m => (length_neighbors_le m).trans h

end Topology

namespace Configuration

/-- Every interface is filed under its own name, once: the interface that a topology names by its
key is the one that its router finds by name. -/
def InterfacesByName (c : Configuration) : Prop :=
  (c.interfaces.entries.map Prod.fst).Nodup ∧ ∀ q ∈ c.interfaces.entries, q.2.name = q.1

variable {c : Configuration} {i : Interface} {k : String}

instance : DecidablePred InterfacesByName := fun _ => inferInstanceAs (Decidable (_ ∧ _))

theorem InterfacesByName.get?_name (h : c.InterfacesByName) (hi : i ∈ c.interfaces.values) :
    c.interfaces.get? i.name = some i := by
  obtain ⟨⟨k, i⟩, hq, rfl⟩ := List.mem_map.1 hi
  rw [h.2 _ hq]
  exact NameMap.lookup_eq_of_mem h.1 hq

theorem InterfacesByName.name_of_get? (h : c.InterfacesByName) (hk : c.interfaces.get? k = some i) :
    i.name = k :=
  h.2 _ (NameMap.mem_entries_of_get? hk)

end Configuration

namespace GraphBuild

variable {configs : NameMap Configuration}

theorem configsOf_mem {cs : List Configuration} (h : configsOf cs = .ok configs) :
    ∀ c ∈ configs.values, c ∈ cs := by
  unfold configsOf at h
  generalize hm : ({} : NameMap Configuration) = m at h
  have hk : ∀ c ∈ m.values, c ∈ cs := hm ▸ by simp [NameMap.values]
  clear hm
  -- the configurations still to read are among those given
  generalize hall : cs = all at hk ⊢
  have hsub : cs ⊆ all := hall ▸ List.Subset.refl cs
  clear hall
  induction cs generalizing m with
  | nil =>
    cases h
    exact hk
  | cons c cs ih =>
    rw [List.foldlM_cons] at h
    split at h
    · cases h
    · refine ih _ h (fun d hd => ?_) (List.subset_of_cons_subset hsub)
      obtain ⟨q, hq, rfl⟩ := List.mem_map.1 hd
      rcases NameMap.mem_insertEntry hq with rfl | hq
      · exact hsub List.mem_cons_self
      · exact hk _ (List.mem_map_of_mem hq)

theorem farInterface_name (hnames : ∀ c ∈ configs.values, c.InterfacesByName) (n : NodeInterface) :
    (farInterface configs n).name = n.iface := by
  unfold farInterface
  cases hc : configs.get? n.router with
  | none => rfl
  | some c =>
    cases hi : c.interfaces.get? n.iface with
    | none => simp [hi]
    | some i => simpa [hi] using (hnames c (NameMap.mem_values_of_get? hc)).name_of_get? hi

theorem farInterface_of_mem (hnames : ∀ c ∈ configs.values, c.InterfacesByName) {r : String}
    {c : Configuration} (hc : configs.get? r = some c) {i : Interface}
    (hi : i ∈ c.interfaces.values) :
    farInterface configs ⟨r, i.name⟩ = i := by
  simp [farInterface, hc, (hnames c (NameMap.mem_values_of_get? hc)).get?_name hi]

/-- Edges over links that the order of edges does not tell apart run over one link: from the
same interface of the same router to the same end. -/
theorem linkEdge_cmp_eq (hnames : ∀ c ∈ configs.values, c.InterfacesByName) {r r' : String}
    {i i' : Interface} {m m' : NodeInterface}
    (h : GraphEdge.cmp (linkEdge configs r i m) (linkEdge configs r' i' m') = .eq) :
    r = r' ∧ i.name = i'.name ∧ m = m' := by
  simp only [GraphEdge.cmp, Ordering.then_eq_eq, Std.compare_eq_iff_eq, linkEdge, Option.map_some,
    Option.some.injEq] at h
  obtain ⟨h1, h2, -, h4, h5, -⟩ := h
  rw [farInterface_name hnames, farInterface_name hnames] at h5
  refine ⟨h1, h2, ?_⟩
  cases m
  cases m'
  simp only at h4 h5
  rw [h4, h5]

/-- Every edge of the map that leads to a router is physical or abstract: null-route edges lead
nowhere. -/
def PeeredPhysical (em : NameMap (List GraphEdge)) : Prop :=
  ∀ q ∈ em.entries, ∀ e ∈ q.2, e.isAbstract = false → e.peer.isSome → e.isPhysical = true

section Peered

variable {configs : NameMap Configuration} {t : Topology} {em : NameMap (List GraphEdge)}

theorem PeeredPhysical.getD (h : PeeredPhysical em) {r : String} {e : GraphEdge}
    (he : e ∈ em.getD r []) : e.isAbstract = false → e.peer.isSome → e.isPhysical = true := by
  obtain ⟨es, hmem, he⟩ := NameMap.exists_mem_entries_of_mem_getD he
  exact h _ hmem e he

theorem PeeredPhysical.insert (h : PeeredPhysical em) (r : String) {es : List GraphEdge}
    (hes : ∀ e ∈ es, e.isAbstract = false → e.peer.isSome → e.isPhysical = true) :
    PeeredPhysical (em.insert r es) := by
  intro q hq
  rcases NameMap.mem_insertEntry hq with rfl | hq
  · exact hes
  · exact h q hq

theorem PeeredPhysical.append (h : PeeredPhysical em) (r : String) {x : GraphEdge}
    (hx : x.isAbstract = false → x.peer.isSome → x.isPhysical = true) :
    PeeredPhysical (em.insert r (em.getD r [] ++ [x])) := by
  refine h.insert r fun e he => ?_
  rcases List.mem_append.1 he with he | he
  · exact h.getD he
  · rw [List.mem_singleton.1 he]
    exact hx

theorem physicalEdges_peeredPhysical : PeeredPhysical (physicalEdges configs t).1 := by
  unfold physicalEdges
  refine List.foldlRecOn (motive := fun b : PhysicalAcc => PeeredPhysical b.1) _ _
    (by simp [PeeredPhysical]) fun b hb p _ => ?_
  obtain ⟨em, others, nm, all⟩ := b
  obtain ⟨router, c⟩ := p
  exact hb.insert router fun e he _ _ => (routerEdges_edge he).2

theorem addNullEdges_peeredPhysical {init : NullAcc} (h : PeeredPhysical init.1) :
    PeeredPhysical (addNullEdges configs init).1 := by
  unfold addNullEdges
  refine List.foldlRecOn (motive := fun b : NullAcc => PeeredPhysical b.1) _ _ h fun b hb p _ => ?_
  obtain ⟨router, c⟩ := p
  dsimp only
  refine List.foldlRecOn (motive := fun b : NullAcc => PeeredPhysical b.1) _ _ hb
    fun b hb sr _ => ?_
  obtain ⟨em, sm, all⟩ := b
  -- a null-route edge has no peer
  exact hb.append router fun _ hpeer => nomatch hpeer

theorem addIbgpEdges_peeredPhysical {sessions : NameMap (NameMap BgpNeighbor)}
    {all : List GraphEdge} (h : PeeredPhysical em) :
    PeeredPhysical (addIbgpEdges sessions em all).1 := by
  unfold addIbgpEdges
  refine List.foldlRecOn (motive := fun b : IbgpAcc => PeeredPhysical b.1) _ _ h fun b hb p _ => ?_
  obtain ⟨r1, ns⟩ := p
  dsimp only
  refine List.foldlRecOn (motive := fun b : IbgpAcc => PeeredPhysical b.1) _ _ hb fun b hb p _ => ?_
  obtain ⟨em, all, ib, rev⟩ := b
  obtain ⟨r2, n1⟩ := p
  -- an iBGP edge is abstract
  exact hb.append r1 fun habs => nomatch habs

end Peered

def SessionsSorted (s : NameMap (NameMap BgpNeighbor)) : Prop :=
  s.entries.Pairwise (fun a b => a.1 < b.1) ∧
    ∀ q ∈ s.entries, q.2.entries.Pairwise fun a b => a.1 < b.1

section Sessions

variable {configs : NameMap Configuration} {s : NameMap (NameMap BgpNeighbor)}

theorem SessionsSorted.getD (h : SessionsSorted s) (r : String) :
    (s.getD r {}).entries.Pairwise fun a b => a.1 < b.1 := by
  cases hget : s.get? r with
  | none => simp [NameMap.getD, hget]
  | some m =>
    rw [NameMap.getD, hget, Option.getD_some]
    exact h.2 _ (NameMap.mem_entries_of_get? hget)

theorem SessionsSorted.insert (h : SessionsSorted s) (r cand : String) (n : BgpNeighbor) :
    SessionsSorted (s.insert r ((s.getD r {}).insert cand n)) := by
  refine ⟨NameMap.sorted_insertEntry h.1, fun q hq => ?_⟩
  rcases NameMap.mem_insertEntry hq with rfl | hq
  · exact NameMap.sorted_insertEntry (h.getD r)
  · exact h.2 q hq

theorem ibgpSessions_sorted : SessionsSorted (ibgpSessions configs) := by
  unfold ibgpSessions
  dsimp only
  refine List.foldlRecOn (motive := SessionsSorted) _ _ ⟨.nil, by simp⟩ fun acc hacc p _ => ?_
  obtain ⟨router, c⟩ := p
  dsimp only
  split
  · exact hacc
  refine List.foldlRecOn (motive := SessionsSorted) _ _ hacc fun acc hacc n _ => ?_
  split
  · exact hacc
  refine List.foldlRecOn (motive := SessionsSorted) _ _ hacc fun acc hacc x _ => ?_
  split
  · exact hacc.insert _ _ _
  · exact hacc

/-- The abstract edge of the iBGP session `n1` of `r1` towards `r2`; it leads back to `r2` when
`r2` has a session towards `r1`. -/
def ibgpEdge (s : NameMap (NameMap BgpNeighbor)) (r1 r2 : String) (n1 : BgpNeighbor) : GraphEdge :=
  let back := (s.get? r2).bind (·.get? r1)
  { router := r1, start := ibgpInterface n1 r2, peer := back.map fun _ => r2,
    finish := back.map fun n2 => ibgpInterface n2 r1, isAbstract := true }

theorem foldl_append_part {α β γ : Type} (step : β → α → β) (part : β → List γ) (f : α → List γ)
    (h : ∀ acc x, part (step acc x) = part acc ++ f x) (xs : List α) (acc : β) :
    part (xs.foldl step acc) = part acc ++ xs.flatMap f := by
  induction xs generalizing acc with
  | nil => simp
  | cons x xs ih => rw [List.foldl_cons, ih, h, List.flatMap_cons, List.append_assoc]

/-- The iBGP edges by their two routers are the sessions' edges, router by router and, within a
router, peer by peer. -/
theorem addIbgpEdges_reverse (s : NameMap (NameMap BgpNeighbor)) (em : NameMap (List GraphEdge))
    (all : List GraphEdge) :
    (addIbgpEdges s em all).2.2.2 =
      s.entries.flatMap fun p => p.2.entries.map fun q => ((p.1, q.1), ibgpEdge s p.1 q.1 q.2) := by
  unfold addIbgpEdges
  refine (foldl_append_part _ (fun b : IbgpAcc => b.2.2.2)
    (fun p => p.2.entries.map fun q => ((p.1, q.1), ibgpEdge s p.1 q.1 q.2))
    (fun acc p => ?_) _ _).trans (List.nil_append _)
  obtain ⟨r1, ns⟩ := p
  dsimp only
  rw [List.map_eq_flatMap]
  refine foldl_append_part _ (fun b : IbgpAcc => b.2.2.2) _ (fun acc q => ?_) _ _
  obtain ⟨em, all, ib, rev⟩ := acc
  obtain ⟨r2, n1⟩ := q
  rfl

theorem addIbgpEdges_nodup (hs : SessionsSorted s) (em : NameMap (List GraphEdge))
    (all : List GraphEdge) : ((addIbgpEdges s em all).2.2.2.map Prod.fst).Nodup := by
  rw [addIbgpEdges_reverse, List.map_flatMap]
  refine List.nodup_flatMap.2 ⟨fun p hp => ?_, hs.1.imp fun {a b} hlt => ?_⟩
  · -- the peers of one router are distinct
    rw [List.map_map]
    exact List.pairwise_map.2 ((hs.2 p hp).imp fun hlt heq =>
      Std.ne_of_lt hlt (congrArg Prod.snd heq))
  · -- the edges of distinct routers are distinct
    intro x hxa hxb
    obtain ⟨ya, hya, rfl⟩ := List.mem_map.1 hxa
    obtain ⟨qa, -, rfl⟩ := List.mem_map.1 hya
    obtain ⟨yb, hyb, hyx⟩ := List.mem_map.1 hxb
    obtain ⟨qb, -, rfl⟩ := List.mem_map.1 hyb
    exact Std.ne_of_lt hlt (congrArg Prod.fst hyx).symm

theorem mem_addIbgpEdges_reverse {em : NameMap (List GraphEdge)} {all : List GraphEdge}
    {q : (String × String) × GraphEdge} (hq : q ∈ (addIbgpEdges s em all).2.2.2) :
    ∃ ns n1, (q.1.1, ns) ∈ s.entries ∧ (q.1.2, n1) ∈ ns.entries ∧
      q.2 = ibgpEdge s q.1.1 q.1.2 n1 := by
  rw [addIbgpEdges_reverse] at hq
  obtain ⟨p, hp, hq⟩ := List.mem_flatMap.1 hq
  obtain ⟨x, hx, rfl⟩ := List.mem_map.1 hq
  exact ⟨p.2, x.2, hp, hx, rfl⟩

theorem addIbgpEdges_mem_edges {em : NameMap (List GraphEdge)} {all : List GraphEdge}
    {q : (String × String) × GraphEdge} (hq : q ∈ (addIbgpEdges s em all).2.2.2) :
    q.2 ∈ (addIbgpEdges s em all).1.getD q.1.1 [] := by
  unfold addIbgpEdges at hq ⊢
  refine List.foldlRecOn (motive := fun b : IbgpAcc => ∀ q ∈ b.2.2.2, q.2 ∈ b.1.getD q.1.1 [])
    _ _ (by simp) (fun b hb p _ => ?_) q hq
  obtain ⟨r1, ns⟩ := p
  dsimp only
  refine List.foldlRecOn (motive := fun b : IbgpAcc => ∀ q ∈ b.2.2.2, q.2 ∈ b.1.getD q.1.1 [])
    _ _ hb fun b hb p _ q hq => ?_
  obtain ⟨em, all, ib, rev⟩ := b
  obtain ⟨r2, n1⟩ := p
  rw [NameMap.getD_insert]
  rcases List.mem_append.1 hq with hq | hq
  · -- an edge listed before stays in the list of its router
    have hmem := hb q hq
    split
    · next hr =>
      rw [← hr]
      exact List.mem_append_left _ hmem
    · exact hmem
  · rw [List.mem_singleton.1 hq, if_pos rfl]
    exact List.mem_append_right _ (List.mem_singleton_self _)

theorem ibgpEdge_cmp_eq {r1 r2 r1' r2' : String} {n n' : BgpNeighbor}
    (h : GraphEdge.cmp (ibgpEdge s r1 r2 n) (ibgpEdge s r1' r2' n') = .eq) :
    r1 = r1' ∧ r2 = r2' := by
  simp only [GraphEdge.cmp, Ordering.then_eq_eq, Std.compare_eq_iff_eq] at h
  refine ⟨h.1, ?_⟩
  have h2 : ibgpInterfacePrefix ++ r2 = ibgpInterfacePrefix ++ r2' := h.2.1
  exact (String.append_right_inj _).1 h2

theorem ibgpEdge_peer {r1 r2 : String} {ns : NameMap BgpNeighbor}
    {n1 n2 : BgpNeighbor} (hs : s.get? r2 = some ns) (hn : ns.get? r1 = some n2) :
    (ibgpEdge s r1 r2 n1).peer = some r2 := by
  simp [ibgpEdge, hs, hn]

end Sessions

section Pairing

variable {rev : List ((String × String) × GraphEdge)} {others : EdgeMap GraphEdge}

/-- An abstract edge that the pairing files an other end for equals an edge listed by its two
routers, and the other end is the edge listed for the opposite pair. -/
theorem pairIbgpEdges_abstract (hothers : ∀ q ∈ others, q.1.isAbstract = false)
    {q : GraphEdge × GraphEdge} (hq : q ∈ pairIbgpEdges rev others) (ha : q.1.isAbstract = true) :
    ∃ r ∈ rev, GraphEdge.cmp r.2 q.1 = .eq ∧ rev.lookup (r.1.2, r.1.1) = some q.2 := by
  unfold pairIbgpEdges at hq
  refine List.foldlRecOn (motive := fun acc : EdgeMap GraphEdge => q ∈ acc →
    ∃ r ∈ rev, GraphEdge.cmp r.2 q.1 = .eq ∧ rev.lookup (r.1.2, r.1.1) = some q.2) _ _
    (fun hq => ?_) (fun acc hacc p hp hq => ?_) hq
  · rw [hothers q hq] at ha
    cases ha
  obtain ⟨⟨r1, r2⟩, ge1⟩ := p
  dsimp only at hq
  split at hq
  · next ge2 hlook =>
    rcases Ordered.mem_put hq with ⟨hk, hv⟩ | hq
    · exact ⟨((r1, r2), ge1), hp, hk, hv ▸ hlook⟩
    · exact hacc hq
  · exact hacc hq

/-- The pairing files for a listed iBGP edge the edge listed for the opposite pair of routers, when
no other listed edge equals it. -/
theorem pairIbgpEdges_find? {r : (String × String) × GraphEdge} (hr : r ∈ rev) {v : GraphEdge}
    (hv : rev.lookup (r.1.2, r.1.1) = some v)
    (hone : ∀ r' ∈ rev, GraphEdge.cmp r.2 r'.2 = .eq → r' = r) :
    Ordered.find? GraphEdge.cmp r.2 (pairIbgpEdges rev others) = some v := by
  obtain ⟨⟨r1, r2⟩, ge⟩ := r
  obtain ⟨pre, post, rfl⟩ := List.append_of_mem hr
  unfold pairIbgpEdges
  rw [List.foldl_append, List.foldl_cons]
  -- the edge's own step files `v`; the later steps put other keys, or `v` again
  refine List.foldlRecOn
    (motive := fun acc : EdgeMap GraphEdge => Ordered.find? GraphEdge.cmp ge acc = some v) _ _ ?_
    (fun acc hacc p hp => ?_)
  · dsimp only
    rw [hv]
    exact Ordered.find?_put_of_cmp_eq ReflCmp.compare_self _ _
  obtain ⟨⟨a1, a2⟩, ge'⟩ := p
  dsimp only
  split
  · next ge2 hlook =>
    by_cases hc : GraphEdge.cmp ge ge' = .eq
    · have hsame := hone _ (List.mem_append_right _ (List.mem_cons_of_mem _ hp)) hc
      obtain ⟨hkeys, rfl⟩ := Prod.mk.inj hsame
      obtain ⟨rfl, rfl⟩ := Prod.mk.inj hkeys
      rw [hv] at hlook
      cases hlook
      exact Ordered.find?_put_of_cmp_eq hc _ _
    · rw [Ordered.find?_put_of_cmp_ne hc]
      exact hacc
  · exact hacc

/-- Over the iBGP edges of sorted sessions, the pairing files for an abstract edge the edge of the
same session in the other direction: an edge of the peer, leading back, whose own other end is
the first edge. -/
theorem addIbgpEdges_pairs {s : NameMap (NameMap BgpNeighbor)} (hs : SessionsSorted s)
    {em : NameMap (List GraphEdge)} {all : List GraphEdge} {others : EdgeMap GraphEdge}
    (hothers : ∀ q ∈ others, q.1.isAbstract = false) {ge ge2 : GraphEdge}
    (ha : ge.isAbstract = true)
    (ho : Ordered.find? GraphEdge.cmp ge (pairIbgpEdges (addIbgpEdges s em all).2.2.2 others) =
      some ge2) :
    ge.peer = some ge2.router ∧ ge2 ∈ (addIbgpEdges s em all).1.getD ge2.router [] ∧
      ge2.peer = some ge.router ∧ ge2.isAbstract = true ∧
      ∃ x, Ordered.find? GraphEdge.cmp ge2 (pairIbgpEdges (addIbgpEdges s em all).2.2.2 others) =
        some x ∧ GraphEdge.cmp x ge = .eq := by
  have hnodup := addIbgpEdges_nodup hs em all
  obtain ⟨q, hq, heq, rfl⟩ := Ordered.exists_mem_of_find?_eq ho
  obtain ⟨⟨⟨r1, r2⟩, e1⟩, hr, he1q, hlook⟩ :=
    pairIbgpEdges_abstract hothers hq ((flags_eq_of_cmp_eq heq).1 ▸ ha)
  dsimp only at he1q hlook
  have hback := List.mem_of_lookup_eq_some hlook
  -- the edge is the session's edge from `r1`, its other end the session's edge from `r2`
  obtain ⟨ns1, n1, hns1, hn1, he1⟩ := mem_addIbgpEdges_reverse hr
  obtain ⟨ns2, n2, hns2, hn2, hq2⟩ := mem_addIbgpEdges_reverse hback
  dsimp only at hns1 hn1 he1 hns2 hn2 hq2
  subst he1
  have hge : GraphEdge.cmp ge (ibgpEdge s r1 r2 n1) = .eq :=
    TransCmp.eq_trans heq (OrientedCmp.eq_symm he1q)
  have hends := sameEnds_of_cmp_eq hge
  have hs1 := NameMap.lookup_eq_of_mem (NameMap.nodup_of_sorted hs.1) hns1
  have hs2 := NameMap.lookup_eq_of_mem (NameMap.nodup_of_sorted hs.1) hns2
  have hn1' := NameMap.lookup_eq_of_mem (NameMap.nodup_of_sorted (hs.2 _ hns1)) hn1
  have hn2' := NameMap.lookup_eq_of_mem (NameMap.nodup_of_sorted (hs.2 _ hns2)) hn2
  refine ⟨?_, ?_, ?_, by rw [hq2]; rfl, ?_⟩
  · rw [hends.2.2.1, hq2]
    exact ibgpEdge_peer hs2 hn2'
  · rw [hq2]
    exact addIbgpEdges_mem_edges (hq2 ▸ hback)
  · rw [hends.1, hq2]
    exact ibgpEdge_peer hs1 hn1'
  · -- the edge from `r2` is the only one listed for its two routers
    refine ⟨ibgpEdge s r1 r2 n1, ?_, OrientedCmp.eq_symm hge⟩
    refine pairIbgpEdges_find? (r := ((r2, r1), q.2)) hback
      (List.lookup_eq_of_mem_of_nodup hnodup hr) fun r' hr' hc => ?_
    obtain ⟨ns', n', -, -, he'⟩ := mem_addIbgpEdges_reverse hr'
    rw [hq2, he'] at hc
    obtain ⟨h1, h2⟩ := ibgpEdge_cmp_eq hc
    exact List.eq_of_mem_of_nodup hnodup hr' hback (Prod.ext h1.symm h2.symm)

end Pairing

theorem physicalEdges_others_concrete {configs : NameMap Configuration} {t : Topology} :
    ∀ q ∈ (physicalEdges configs t).2.1, q.1.isAbstract = false := by
  intro q hq
  obtain ⟨p, -, iface, n, -, hkl, -⟩ := physicalEdges_others hq
  exact (flags_eq_of_cmp_eq hkl).1

end GraphBuild

namespace Graph

open GraphBuild

variable {cs : List Configuration} {topo : Option Topology} {g : Graph}

theorem mem_flatten_of_mem_edges {r : String} {e : GraphEdge} (he : e ∈ g.edges r) :
    e ∈ g.edgeMap.values.flatten := by
  obtain ⟨es, hmem, he⟩ := NameMap.exists_mem_entries_of_mem_getD he
  exact List.mem_flatten.2 ⟨es, List.mem_map_of_mem (f := Prod.snd) hmem, he⟩

namespace Staged

variable {configs : NameMap Configuration} {t : Topology}

theorem mem_edges (hg : g.Staged configs t) {p : String × Configuration}
    (hp : p ∈ configs.entries) {e : GraphEdge} (he : e ∈ (routerEdges configs t p.1 p.2).1) :
    e ∈ g.edges p.1 := by
  obtain ⟨extra, hmem⟩ := hg.table.routers p hp
  rw [edges, NameMap.getD_eq_of_mem hg.table.sorted hmem]
  exact List.mem_append_left _ he

theorem physical_of_otherEnd (hg : g.Staged configs t) {e o : GraphEdge}
    (ha : e.isAbstract = false) (h : g.otherEnd? e = some o) : e.isPhysical = true := by
  obtain ⟨rev, hrev, hothers⟩ := hg.others
  obtain ⟨q, hq, heq, rfl⟩ := Ordered.exists_mem_of_find?_eq h
  rw [hothers] at hq
  have hflags := flags_eq_of_cmp_eq heq
  obtain ⟨p, -, iface, n, -, hkl, -⟩ :=
    physicalEdges_others (pairIbgpEdges_physical hrev hq (hflags.1 ▸ ha))
  -- the key is an edge over a link, which is no null route
  have hnull : e.isNullEdge = false := hflags.2.trans (flags_eq_of_cmp_eq hkl).2
  simp [isPhysical, ha, hnull]

/-- Over interfaces filed by name and a balanced topology, the other end of a physical edge is,
up to the order of edges, an edge of the peer, and its own other end is the first edge. The link
joins interface `iface0` of the edge's router to the end `n`, an interface `far` of the peer;
`far` has the near interface among its at most two ends, so the peer has an edge towards it,
and that edge was filed with the first edge as its other end. -/
theorem physical_pairs (hg : g.Staged configs t)
    (hnames : ∀ c ∈ configs.values, c.InterfacesByName) (hbal : t.Balanced) {ge ge2 : GraphEdge}
    (he : ge ∈ g.edgeMap.values.flatten)
    (hp : ge.isPhysical = true) (h : g.otherEnd? ge = some ge2) :
    (∃ w ∈ g.edges ge2.router, GraphEdge.cmp w ge2 = .eq) ∧
      ∃ x, g.otherEnd? ge2 = some x ∧ GraphEdge.cmp x ge = .eq := by
  obtain ⟨p, -, k, hek, iface, n, hn, hkl, rfl⟩ := hg.filed h hp
  -- the edge is one of its router's edges over a link
  obtain ⟨p0, hp0, hge⟩ := hg.table.mem_flatten he hp
  rcases routerEdges_inv.edge ge hge with ⟨iface0, -, rfl⟩ | ⟨iface0, hi0, n0, hn0, rfl⟩
  · -- an edge towards the outside has no peer, unlike the edge of the link
    cases (sameEnds_of_cmp_eq (TransCmp.eq_trans hek hkl)).2.2.1
  obtain ⟨hr, hname, hn0n⟩ := linkEdge_cmp_eq hnames (TransCmp.eq_trans hek hkl)
  -- the far end of the link is an interface `far` of its router, named by the end's key
  obtain ⟨c', hc', hcont⟩ := checkLinks_neighbor hg.links hn
  obtain ⟨far, hfar⟩ := Option.isSome_iff_exists.1 hcont
  have hfarI : farInterface configs n = far := by simp [farInterface, hc', hfar]
  have hfarN : far.name = n.iface :=
    (hnames c' (NameMap.mem_values_of_get? hc')).name_of_get? hfar
  -- `far` has the near interface among its at most two ends
  have hend : LinkEnd t n.router far ⟨p.1, iface.name⟩ := by
    have hlen : (t.neighbors ⟨p.1, iface.name⟩).length ≤ 2 := by
      rw [← hr, ← hname]
      exact hn0.2
    rw [LinkEnd, hfarN]
    exact ⟨Topology.neighbors_symm hn, (hbal _ _ hn).1 hlen⟩
  obtain ⟨w, hw, hwl⟩ := routerEdges_complete (NameMap.mem_values_of_get? hfar) hend
  have hlo : GraphEdge.cmp (linkEdge configs n.router far ⟨p.1, iface.name⟩)
      (linkBack configs p.1 iface n) = .eq :=
    cmp_eq_of rfl hfarI.symm rfl (by simp [linkEdge, linkBack, farInterface_name hnames]) rfl rfl
  have hmem : (n.router, c') ∈ configs.entries := NameMap.mem_entries_of_get? hc'
  refine ⟨⟨w, hg.mem_edges hmem hw, TransCmp.eq_trans hwl hlo⟩, ?_⟩
  -- the far edge has an other end of its own, filed for an equal edge over a link
  have hwp := (routerEdges_edge hw).2
  have hwpeer : w.peer.isSome := by
    rw [(sameEnds_of_cmp_eq hwl).2.2.1]
    rfl
  obtain ⟨x, hx⟩ :=
    Option.isSome_iff_exists.1 (hg.has_other (hg.table.flatten_mem hmem hw) hwp hwpeer)
  refine ⟨x, (Ordered.find?_congr (OrientedCmp.eq_symm (TransCmp.eq_trans hwl hlo)) _).trans hx, ?_⟩
  obtain ⟨p'', -, k'', hwk, iface'', n'', -, hkl'', rfl⟩ := hg.filed hx hwp
  have hback : GraphEdge.cmp (linkEdge configs p''.1 iface'' n'')
      (linkEdge configs n.router far ⟨p.1, iface.name⟩) = .eq :=
    TransCmp.eq_trans (OrientedCmp.eq_symm (TransCmp.eq_trans hwk hkl'')) hwl
  obtain ⟨hr'', hname'', rfl⟩ := linkEdge_cmp_eq hnames hback
  -- that other end starts at the near interface itself
  have hc0 : configs.get? p0.1 = some p0.2 :=
    NameMap.lookup_eq_of_mem (NameMap.nodup_of_sorted hg.sorted) hp0
  have hnear : farInterface configs ⟨p.1, iface.name⟩ = iface0 := by
    rw [← hr, ← hname]
    exact farInterface_of_mem hnames hc0 hi0
  refine cmp_eq_of hr.symm hnear ?_ ?_ rfl rfl
  · simp [linkBack, linkEdge, hr'', hn0n]
  · simp [linkBack, linkEdge, hname'', hfarN, hn0n, farInterface_name hnames]

end Staged

theorem build_peeredPhysical (h : Graph.build cs topo = .ok g) : PeeredPhysical g.edgeMap := by
  obtain ⟨configs, t, sm, -, -, -, hem, -⟩ := build_stages h
  rw [hem]
  exact addIbgpEdges_peeredPhysical (addNullEdges_peeredPhysical physicalEdges_peeredPhysical)

theorem build_ibgp_pairs (h : Graph.build cs topo = .ok g) {ge ge2 : GraphEdge}
    (ha : ge.isAbstract = true) (ho : g.otherEnd? ge = some ge2) :
    ge.peer = some ge2.router ∧ ge2 ∈ g.edges ge2.router ∧ ge2.peer = some ge.router ∧
      ge2.isAbstract = true ∧ ∃ x, g.otherEnd? ge2 = some x ∧ GraphEdge.cmp x ge = .eq := by
  obtain ⟨configs, t, sm, -, -, -, hem, -, hothers, -⟩ := build_stages h
  rw [otherEnd?, hothers] at ho
  rw [otherEnd?, hothers, edges, hem]
  exact addIbgpEdges_pairs ibgpSessions_sorted physicalEdges_others_concrete ha ho

/-- The other ends pair the edges of the graph: the other end of an edge is, up to the order of
edges, an edge of its peer that leads back, with the same flag of abstraction, and its own other
end is the first edge; and every edge towards a router that is not abstract has an other end. -/
def OtherEndsPaired (g : Graph) : Prop :=
  (∀ r ge ge2, ge ∈ g.edges r → g.otherEnd? ge = some ge2 →
    ge.peer = some ge2.router ∧ (∃ w ∈ g.edges ge2.router, GraphEdge.cmp w ge2 = .eq) ∧
      ge2.peer = some ge.router ∧ ge2.isAbstract = ge.isAbstract ∧
      ∃ x, g.otherEnd? ge2 = some x ∧ GraphEdge.cmp x ge = .eq) ∧
  ∀ r ge, ge ∈ g.edges r → ge.isAbstract = false → ge.peer.isSome → (g.otherEnd? ge).isSome

/-- A built graph whose configurations file their interfaces by name, over a balanced topology,
pairs its edges. -/
theorem build_otherEndsPaired (h : Graph.build cs topo = .ok g)
    (hnames : ∀ c ∈ g.configs.values, c.InterfacesByName)
    (hbal : (topo.getD (Topology.infer g.configs)).Balanced) : g.OtherEndsPaired := by
  have hg := build_staged h
  refine ⟨fun r ge ge2 he ho => ?_, fun r ge he ha hpeer => ?_⟩
  · cases ha : ge.isAbstract
    · -- a physical edge: its other end is the link's other direction
      have hp := hg.physical_of_otherEnd ha ho
      obtain ⟨⟨hpeer, hpeer2, -, -⟩, hp2⟩ := hg.opposite ho hp
      have ha2 : ge2.isAbstract = false := by
        simp only [isPhysical, Bool.and_eq_true, Bool.not_eq_true'] at hp2
        exact hp2.1
      obtain ⟨hw, hx⟩ := hg.physical_pairs hnames hbal (mem_flatten_of_mem_edges he) hp ho
      exact ⟨hpeer, hw, hpeer2, ha2, hx⟩
    · -- an iBGP edge: its other end is the session's other direction
      obtain ⟨hpeer, hmem, hpeer2, ha2, hx⟩ := build_ibgp_pairs h ha ho
      exact ⟨hpeer, ⟨ge2, hmem, ReflCmp.compare_self⟩, hpeer2, ha2, hx⟩
  · have hp := build_peeredPhysical h |>.getD he ha hpeer
    exact hg.has_other (mem_flatten_of_mem_edges he) hp hpeer

/-- Other ends pair the edges of a built graph, over configurations that file every interface
under its own name and a topology, given or inferred, whose linked interfaces agree on having at
most two ends. The other end of an edge is, up to the order of edges, an edge of its peer that
leads back, with the same flag of abstraction, and its own other end is the first edge; and every
edge towards a router that is not abstract has an other end. -/
theorem otherEnd_pairs_edges (h : Graph.build cs topo = .ok g)
    (hnames : ∀ c ∈ cs, c.InterfacesByName)
    (hbal : (topo.getD (Topology.infer g.configs)).Balanced) :
    (∀ r ge ge2, ge ∈ g.edges r → g.otherEnd? ge = some ge2 →
      ge.peer = some ge2.router ∧ (∃ w ∈ g.edges ge2.router, GraphEdge.cmp w ge2 = .eq) ∧
        ge2.peer = some ge.router ∧ ge2.isAbstract = ge.isAbstract ∧
        ∃ x, g.otherEnd? ge2 = some x ∧ GraphEdge.cmp x ge = .eq) ∧
    ∀ r ge, ge ∈ g.edges r → ge.isAbstract = false → ge.peer.isSome →
      (g.otherEnd? ge).isSome := by
  -- the graph's configurations are among those given
  obtain ⟨configs, t, sm, hcs, -, hconfigs, -⟩ := build_stages h
  exact build_otherEndsPaired h (fun c hc => hnames c (configsOf_mem hcs c (hconfigs ▸ hc))) hbal

/-- Two routers linked by their interfaces `eth0`: other ends pair their edges. -/
theorem linked_routers_pair_edges :
    ∃ g, Graph.build [{ hostname := "A", interfaces := ⟨[("eth0", { name := "eth0" })]⟩ },
        { hostname := "B", interfaces := ⟨[("eth0", { name := "eth0" })]⟩ }]
        (some ⟨[(⟨"A", "eth0"⟩, ⟨"B", "eth0"⟩)]⟩) = .ok g ∧ g.OtherEndsPaired := by
  obtain ⟨g, hg⟩ : ∃ g, Graph.build
      [{ hostname := "A", interfaces := ⟨[("eth0", { name := "eth0" })]⟩ },
        { hostname := "B", interfaces := ⟨[("eth0", { name := "eth0" })]⟩ }]
      (some ⟨[(⟨"A", "eth0"⟩, ⟨"B", "eth0"⟩)]⟩) = .ok g := ⟨_, rfl⟩
  have hbal : Topology.Balanced ⟨[(⟨"A", "eth0"⟩, ⟨"B", "eth0"⟩)]⟩ :=
    Topology.Balanced.of_links_length_le_two (by decide)
  exact ⟨g, hg, otherEnd_pairs_edges hg (by decide) hbal⟩

end Graph

end ControlPlane
