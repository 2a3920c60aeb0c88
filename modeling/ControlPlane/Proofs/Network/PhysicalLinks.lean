import ControlPlane.Proofs.Network.Links
import ControlPlane.Proofs.Network.Communities
import ControlPlane.Proofs.Check.Forwarding

/-!
# The physical links of a graph

`Graph.build` makes the physical edges router by router: one edge towards the outside for an
interface with no link or too many, and otherwise one edge per end of its links, filing the other
direction as the edge's other end. What a built graph guarantees of them is `Graph.Staged`:
edges in ascending order, the other end of one the other direction of its link, every edge
towards a router with an other end, and that other direction an edge of the graph.
-/

namespace ControlPlane

open Std GraphEdge

theorem foldl_holds_of_mem {α β : Type} {f : β → α → β} {Q : β → Prop} {xs : List α} {x : α}
    (hx : x ∈ xs) (hstep : ∀ b, Q (f b x)) (hkeep : ∀ b y, y ∈ xs → Q b → Q (f b y)) (init : β) :
    Q (xs.foldl f init) := by
  obtain ⟨s, t, rfl⟩ := List.append_of_mem hx
  rw [List.foldl_append, List.foldl_cons]
  exact List.foldlRecOn t f (hstep _) fun b hb y hy => hkeep b y (by simp [hy]) hb

theorem String.lt_of_not_lt_of_ne {a b : String} (h : ¬ a < b) (hne : a ≠ b) : b < a :=
  Classical.byContradiction fun h' => hne (String.le_antisymm (String.not_lt.1 h') (String.not_lt.1 h))

namespace Ordered

variable {κ α : Type} {cmp : κ → κ → Ordering}

theorem mem_put [ReflCmp cmp] {k : κ} {v : α} {l : List (κ × α)} {q : κ × α}
    (h : q ∈ put cmp k v l) : (cmp k q.1 = .eq ∧ q.2 = v) ∨ q ∈ l := by
  induction l with
  | nil =>
    rw [put, List.mem_singleton] at h
    exact .inl (h ▸ ⟨ReflCmp.compare_self, rfl⟩)
  | cons p l ih =>
    obtain ⟨k', v'⟩ := p
    simp only [put] at h
    split at h
    · rcases List.mem_cons.1 h with rfl | h
      · exact .inl ⟨ReflCmp.compare_self, rfl⟩
      · exact .inr h
    · next heq =>
      rcases List.mem_cons.1 h with rfl | h
      · exact .inl ⟨heq, rfl⟩
      · exact .inr (List.mem_cons_of_mem _ h)
    · rcases List.mem_cons.1 h with rfl | h
      · exact .inr List.mem_cons_self
      · exact (ih h).imp id (List.mem_cons_of_mem _)

theorem mem_keys_put {k k' : κ} {v : α} {l : List (κ × α)} (h : k' ∈ l.map Prod.fst) :
    k' ∈ (put cmp k v l).map Prod.fst := by
  rw [keys_put]
  exact mem_insert_of_mem h

theorem exists_key_put [ReflCmp cmp] (k : κ) (v : α) (l : List (κ × α)) :
    ∃ q ∈ put cmp k v l, cmp k q.1 = .eq := by
  obtain ⟨k', hk', hkk'⟩ := @exists_mem_insert κ cmp _ k (l.map Prod.fst)
  rw [← keys_put k v l] at hk'
  obtain ⟨q, hq, rfl⟩ := List.mem_map.1 hk'
  exact ⟨q, hq, hkk'⟩

theorem exists_mem_of_find?_eq {k : κ} {v : α} {l : List (κ × α)} (h : find? cmp k l = some v) :
    ∃ q ∈ l, cmp k q.1 = .eq ∧ q.2 = v := by
  induction l with
  | nil => cases h
  | cons q l ih =>
    obtain ⟨k', v'⟩ := q
    by_cases hk : cmp k k' = .eq
    · simp only [find?, hk, BEq.rfl, if_true, Option.some.injEq] at h
      exact ⟨(k', v'), List.mem_cons_self, hk, h⟩
    · simp only [find?, hk, beq_iff_eq, if_false] at h
      obtain ⟨q, hq, hkq⟩ := ih h
      exact ⟨q, List.mem_cons_of_mem _ hq, hkq⟩

theorem find?_congr [TransCmp cmp] {a b : κ} (h : cmp a b = .eq) (l : List (κ × α)) :
    find? cmp a l = find? cmp b l := by
  induction l with
  | nil => rfl
  | cons q l ih =>
    have hab : ∀ k, cmp a k = .eq ↔ cmp b k = .eq := fun k =>
      ⟨TransCmp.eq_trans (OrientedCmp.eq_symm h), TransCmp.eq_trans h⟩
    simp only [find?, beq_iff_eq, hab, ih]

end Ordered

namespace NameMap

variable {α : Type} {k : String} {v : α} {es : List (String × α)} {q : String × α}

theorem mem_insertEntry (h : q ∈ insertEntry k v es) : q = (k, v) ∨ q ∈ es := by
  induction es with
  | nil => exact .inl (List.mem_singleton.1 h)
  | cons p es ih =>
    obtain ⟨k', v'⟩ := p
    simp only [insertEntry] at h
    split at h
    · exact List.mem_cons.1 h
    · split at h
      · exact (List.mem_cons.1 h).imp id (List.mem_cons_of_mem _)
      · rcases List.mem_cons.1 h with rfl | h
        · exact .inr List.mem_cons_self
        · exact (ih h).imp id (List.mem_cons_of_mem _)

theorem mem_insertEntry_self : (k, v) ∈ insertEntry k v es := by
  induction es with
  | nil => exact List.mem_singleton_self _
  | cons p es ih =>
    simp only [insertEntry]
    split
    · exact List.mem_cons_self
    · split
      · exact List.mem_cons_self
      · exact List.mem_cons_of_mem _ ih

theorem mem_insertEntry_of_mem (h : q ∈ es) (hk : q.1 ≠ k) : q ∈ insertEntry k v es := by
  induction es with
  | nil => cases h
  | cons p es ih =>
    obtain ⟨k', v'⟩ := p
    simp only [insertEntry]
    split
    · exact List.mem_cons_of_mem _ h
    · split
      · next heq =>
        subst heq
        rcases List.mem_cons.1 h with rfl | h
        · exact absurd rfl hk
        · exact List.mem_cons_of_mem _ h
      · rcases List.mem_cons.1 h with rfl | h
        · exact List.mem_cons_self
        · exact List.mem_cons_of_mem _ (ih h)

theorem sorted_insertEntry (h : es.Pairwise fun a b => a.1 < b.1) :
    (insertEntry k v es).Pairwise fun a b => a.1 < b.1 := by
  induction es with
  | nil => exact List.pairwise_singleton _ _
  | cons p es ih =>
    obtain ⟨k', v'⟩ := p
    obtain ⟨hp, hes⟩ := List.pairwise_cons.1 h
    simp only [insertEntry]
    split
    · next hlt =>
      refine List.pairwise_cons.2 ⟨fun q hq => ?_, h⟩
      rcases List.mem_cons.1 hq with rfl | hq
      · exact hlt
      · exact String.lt_trans hlt (hp q hq)
    · split
      · next heq =>
        subst heq
        exact List.pairwise_cons.2 ⟨hp, hes⟩
      · next hlt hne =>
        refine List.pairwise_cons.2 ⟨fun q hq => ?_, ih hes⟩
        rcases mem_insertEntry hq with rfl | hq
        · exact String.lt_of_not_lt_of_ne hlt hne
        · exact hp q hq

theorem nodup_of_sorted (h : es.Pairwise fun a b => a.1 < b.1) : (es.map Prod.fst).Nodup :=
  List.pairwise_map.2 (h.imp String.ne_of_lt)

theorem getD_eq_of_mem {m : NameMap α} (h : m.entries.Pairwise fun a b => a.1 < b.1)
    (hq : q ∈ m.entries) (d : α) : m.getD q.1 d = q.2 := by
  rw [getD, get?, lookup_eq_of_mem (nodup_of_sorted h) hq, Option.getD_some]

theorem mem_entries_of_get? {m : NameMap α} (h : m.get? k = some v) : (k, v) ∈ m.entries := by
  obtain ⟨l₁, l₂, heq, -⟩ := List.lookup_eq_some_iff.1 h
  rw [heq]
  exact List.mem_append_right _ List.mem_cons_self

theorem exists_mem_entries_of_mem_getD {m : NameMap (List α)} {x : α} (h : x ∈ m.getD k []) :
    ∃ xs, (k, xs) ∈ m.entries ∧ x ∈ xs := by
  cases hget : m.get? k with
  | none => simp [getD, hget] at h
  | some xs =>
    rw [getD, hget, Option.getD_some] at h
    exact ⟨xs, mem_entries_of_get? hget, h⟩

theorem getD_eq_of_forall_ne {m : NameMap α} {d : α} (h : ∀ q ∈ m.entries, q.1 ≠ k) :
    m.getD k d = d := by
  rw [getD, get?, List.lookup_eq_none_iff.2 fun q hq => bne_iff_ne.2 (h q hq).symm]
  rfl

end NameMap

namespace GraphBuild

section Router

variable (configs : NameMap Configuration) (t : Topology) (router : String) (c : Configuration)

def LinkEnd (iface : Interface) (n : NodeInterface) : Prop :=
  n ∈ t.neighbors ⟨router, iface.name⟩ ∧ (t.neighbors ⟨router, iface.name⟩).length ≤ 2

/-- The other end `q.2` filed for the edge `q.1` is the other direction of a link from an
interface of `router`. -/
def OtherEndOf (q : GraphEdge × GraphEdge) : Prop :=
  ∃ iface n, n ∈ t.neighbors ⟨router, iface.name⟩ ∧
    GraphEdge.cmp q.1 (linkEdge configs router iface n) = .eq ∧ q.2 = linkBack configs router iface n

/-- What the edges of a router and the other ends of their links keep while its interfaces are
read: the edges stay ascending; each leads out of an interface of the router towards the outside
or towards one end of its link; the other ends filed are the other directions of links; and every
edge towards a router has its other end filed. -/
structure RouterInv (edges : List GraphEdge) (others : EdgeMap GraphEdge) : Prop where
  sorted : edges.Pairwise fun a b => GraphEdge.cmp a b = .lt
  edge : ∀ e ∈ edges, (∃ iface ∈ c.interfaces.values, e = { router := router, start := iface }) ∨
    ∃ iface ∈ c.interfaces.values, ∃ n, LinkEnd t router iface n ∧ e = linkEdge configs router iface n
  other : ∀ q ∈ others, OtherEndOf configs t router q
  has_other : ∀ e ∈ edges, e.peer.isSome → ∃ q ∈ others, GraphEdge.cmp e q.1 = .eq

/-- The edges, the other ends of their links and the neighbors of a router while its interfaces
are read. -/
abbrev RouterAcc : Type := List GraphEdge × EdgeMap GraphEdge × List String

variable {configs t router c} {iface : Interface} {n : NodeInterface}
  {edges : List GraphEdge} {others : EdgeMap GraphEdge}

namespace RouterInv

theorem nil : RouterInv configs t router c [] [] := ⟨.nil, by simp, by simp, by simp⟩

theorem addExt (hi : iface ∈ c.interfaces.values) (h : RouterInv configs t router c edges others) :
    RouterInv configs t router c (addEdge { router := router, start := iface } edges) others := by
  refine ⟨Ordered.pairwise_insert h.sorted, fun e he => ?_, h.other, fun e he hp => ?_⟩
  · rcases Ordered.mem_insert he with rfl | he
    · exact .inl ⟨iface, hi, rfl⟩
    · exact h.edge e he
  · rcases Ordered.mem_insert he with rfl | he
    · cases hp
    · exact h.has_other e he hp

theorem addLinkEnd (hi : iface ∈ c.interfaces.values) (hn : LinkEnd t router iface n)
    {acc : RouterAcc}
    (h : RouterInv configs t router c acc.1 acc.2.1) :
    RouterInv configs t router c (addLinkEnd configs router iface acc n).1
      (addLinkEnd configs router iface acc n).2.1 := by
  obtain ⟨edges, others, neighs⟩ := acc
  have hext : RouterInv configs t router c
      (if n.router = router then addEdge { router := router, start := iface } edges else edges)
      others := by
    split
    · exact h.addExt hi
    · exact h
  simp only [GraphBuild.addLinkEnd]
  refine ⟨Ordered.pairwise_insert hext.sorted, fun e he => ?_, fun q hq => ?_, fun e he hp => ?_⟩
  · rcases Ordered.mem_insert he with rfl | he
    · exact .inr ⟨iface, hi, n, hn, rfl⟩
    · exact hext.edge e he
  · rcases Ordered.mem_put hq with ⟨hk, hv⟩ | hq
    · exact ⟨iface, n, hn.1, OrientedCmp.eq_symm hk, hv⟩
    · exact hext.other q hq
  · rcases Ordered.mem_insert he with rfl | he
    · exact Ordered.exists_key_put _ _ _
    · -- the key the edge had stays a key
      obtain ⟨q, hq, heq⟩ := hext.has_other e he hp
      obtain ⟨q', hq', hkey⟩ :=
        List.mem_map.1 (Ordered.mem_keys_put (List.mem_map_of_mem (f := Prod.fst) hq))
      exact ⟨q', hq', hkey ▸ heq⟩

theorem addInterface (hi : iface ∈ c.interfaces.values)
    {acc : RouterAcc}
    (h : RouterInv configs t router c acc.1 acc.2.1) :
    RouterInv configs t router c (addInterface configs t router acc iface).1
      (addInterface configs t router acc iface).2.1 := by
  obtain ⟨edges, others, neighs⟩ := acc
  simp only [GraphBuild.addInterface]
  split
  · split
    · exact h.addExt hi
    · exact h
  · split
    · exact h.addExt hi
    · next hlen =>
      exact List.foldlRecOn (motive := fun b : RouterAcc => RouterInv configs t router c b.1 b.2.1) _ _ h
        fun _ hb n hn => RouterInv.addLinkEnd hi (show LinkEnd t router iface n from ⟨hn, by omega⟩) hb

end RouterInv

theorem routerEdges_inv :
    RouterInv configs t router c (routerEdges configs t router c).1 (routerEdges configs t router c).2.1 :=
  List.foldlRecOn (motive := fun b : RouterAcc => RouterInv configs t router c b.1 b.2.1) _ _ RouterInv.nil
    fun _ hb _ hi => hb.addInterface hi

theorem addLinkEnd_keeps {e : GraphEdge} {acc : RouterAcc}
    (he : e ∈ acc.1) : e ∈ (addLinkEnd configs router iface acc n).1 := by
  obtain ⟨edges, others, neighs⟩ := acc
  simp only [GraphBuild.addLinkEnd]
  refine Ordered.mem_insert_of_mem ?_
  split
  · exact Ordered.mem_insert_of_mem he
  · exact he

theorem addInterface_keeps {e : GraphEdge} {acc : RouterAcc}
    (he : e ∈ acc.1) : e ∈ (addInterface configs t router acc iface).1 := by
  obtain ⟨edges, others, neighs⟩ := acc
  simp only [GraphBuild.addInterface]
  split
  · split
    · exact Ordered.mem_insert_of_mem he
    · exact he
  · split
    · exact Ordered.mem_insert_of_mem he
    · exact List.foldlRecOn (motive := fun b : RouterAcc => e ∈ b.1) _ _ he fun _ hb _ _ => addLinkEnd_keeps hb

theorem routerEdges_complete (hi : iface ∈ c.interfaces.values) (hn : LinkEnd t router iface n) :
    ∃ e ∈ (routerEdges configs t router c).1, GraphEdge.cmp e (linkEdge configs router iface n) = .eq := by
  unfold routerEdges
  refine foldl_holds_of_mem (Q := fun b : RouterAcc => ∃ e ∈ b.1, GraphEdge.cmp e (linkEdge configs router iface n) = .eq)
    hi (fun b => ?_) (fun b y _ hb => ?_) _
  · obtain ⟨edges, others, neighs⟩ := b
    have hne : ¬ (t.neighbors ⟨router, iface.name⟩).isEmpty = true := by
      simpa [List.isEmpty_iff] using List.ne_nil_of_mem hn.1
    have hlen : ¬ (t.neighbors ⟨router, iface.name⟩).length > 2 := by
      have := hn.2
      omega
    simp only [GraphBuild.addInterface, if_neg hne, if_neg hlen]
    refine foldl_holds_of_mem
      (Q := fun b : RouterAcc => ∃ e ∈ b.1, GraphEdge.cmp e (linkEdge configs router iface n) = .eq)
      hn.1 (fun b => ?_) (fun b y _ hb => ?_) _
    · obtain ⟨edges, others, neighs⟩ := b
      simp only [GraphBuild.addLinkEnd]
      obtain ⟨e, he, hel⟩ := @Ordered.exists_mem_insert _ GraphEdge.cmp _ (linkEdge configs router iface n)
        (if n.router = router then addEdge { router := router, start := iface } edges else edges)
      exact ⟨e, he, OrientedCmp.eq_symm hel⟩
    · obtain ⟨e, he, hel⟩ := hb
      exact ⟨e, addLinkEnd_keeps he, hel⟩
  · obtain ⟨e, he, hel⟩ := hb
    exact ⟨e, addInterface_keeps he, hel⟩

end Router

section Table

variable {configs : NameMap Configuration} {t : Topology}

/-- The edge map of a graph under construction: keys ascending; the list of a router is the
physical edges that `routerEdges` gives it, or none, followed by edges that are not physical;
and every configured router has its physical edges. -/
structure EdgeTable (configs : NameMap Configuration) (t : Topology) (em : NameMap (List GraphEdge)) :
    Prop where
  sorted : em.entries.Pairwise fun a b => a.1 < b.1
  entry : ∀ q ∈ em.entries, ∃ phys extra, q.2 = phys ++ extra ∧ (∀ x ∈ extra, x.isPhysical = false) ∧
    (phys = [] ∨ ∃ c, (q.1, c) ∈ configs.entries ∧ phys = (routerEdges configs t q.1 c).1)
  routers : ∀ p ∈ configs.entries,
    ∃ extra, (p.1, (routerEdges configs t p.1 p.2).1 ++ extra) ∈ em.entries

theorem EdgeTable.append {em : NameMap (List GraphEdge)} (h : EdgeTable configs t em) (r : String)
    {x : GraphEdge} (hx : x.isPhysical = false) : EdgeTable configs t (em.insert r (em.getD r [] ++ [x])) := by
  have hold : ∃ phys extra, em.getD r [] = phys ++ extra ∧ (∀ y ∈ extra, y.isPhysical = false) ∧
      (phys = [] ∨ ∃ c, (r, c) ∈ configs.entries ∧ phys = (routerEdges configs t r c).1) := by
    by_cases hr : ∃ q ∈ em.entries, q.1 = r
    · obtain ⟨q, hq, rfl⟩ := hr
      rw [NameMap.getD_eq_of_mem h.sorted hq]
      exact h.entry q hq
    · simp only [not_exists, not_and] at hr
      rw [NameMap.getD_eq_of_forall_ne hr]
      exact ⟨[], [], rfl, by simp, .inl rfl⟩
  refine ⟨NameMap.sorted_insertEntry h.sorted, fun q hq => ?_, fun p hp => ?_⟩
  · rcases NameMap.mem_insertEntry hq with rfl | hq
    · obtain ⟨phys, extra, heq, hextra, hphys⟩ := hold
      refine ⟨phys, extra ++ [x], by rw [heq, List.append_assoc], fun y hy => ?_, hphys⟩
      rcases List.mem_append.1 hy with hy | hy
      · exact hextra y hy
      · rw [List.mem_singleton.1 hy]
        exact hx
    · exact h.entry q hq
  · obtain ⟨extra, hmem⟩ := h.routers p hp
    by_cases hr : p.1 = r
    · have hv : em.getD r [] = (routerEdges configs t p.1 p.2).1 ++ extra := by
        rw [← hr]
        exact NameMap.getD_eq_of_mem h.sorted hmem []
      refine ⟨extra ++ [x], ?_⟩
      rw [hv, ← List.append_assoc, hr]
      exact NameMap.mem_insertEntry_self
    · exact ⟨extra, NameMap.mem_insertEntry_of_mem hmem hr⟩

theorem eq_of_mem_entries {α : Type} {m : NameMap α} (hs : m.entries.Pairwise fun a b => a.1 < b.1)
    {r : String} {a b : α} (ha : (r, a) ∈ m.entries) (hb : (r, b) ∈ m.entries) : a = b := by
  have hd := NameMap.nodup_of_sorted hs
  exact Option.some.inj ((NameMap.lookup_eq_of_mem hd ha).symm.trans (NameMap.lookup_eq_of_mem hd hb))

abbrev PhysicalAcc : Type :=
  NameMap (List GraphEdge) × EdgeMap GraphEdge × NameMap (List String) × List GraphEdge

theorem physicalEdges_table (hs : configs.entries.Pairwise fun a b => a.1 < b.1) :
    EdgeTable configs t (physicalEdges configs t).1 := by
  -- the entries made so far are routers' edges, with ascending keys
  have hinv : (physicalEdges configs t).1.entries.Pairwise (fun a b => a.1 < b.1) ∧
      ∀ q ∈ (physicalEdges configs t).1.entries,
        ∃ c, (q.1, c) ∈ configs.entries ∧ q.2 = (routerEdges configs t q.1 c).1 := by
    unfold physicalEdges
    refine List.foldlRecOn (motive := fun b : PhysicalAcc => b.1.entries.Pairwise (fun a b => a.1 < b.1) ∧
      ∀ q ∈ b.1.entries, ∃ c, (q.1, c) ∈ configs.entries ∧ q.2 = (routerEdges configs t q.1 c).1)
      _ _ ?_ fun b hb p hp => ?_
    · exact ⟨.nil, by simp⟩
    obtain ⟨em, others, nm, all⟩ := b
    obtain ⟨router, c⟩ := p
    dsimp only
    refine ⟨NameMap.sorted_insertEntry hb.1, fun q hq => ?_⟩
    rcases NameMap.mem_insertEntry hq with rfl | hq
    · exact ⟨c, hp, rfl⟩
    · exact hb.2 q hq
  refine ⟨hinv.1, fun q hq => ?_, fun p hp => ⟨[], ?_⟩⟩
  · obtain ⟨c, hc, heq⟩ := hinv.2 q hq
    exact ⟨q.2, [], by simp, by simp, .inr ⟨c, hc, heq⟩⟩
  · rw [List.append_nil]
    unfold physicalEdges
    refine foldl_holds_of_mem (Q := fun b : PhysicalAcc => (p.1, (routerEdges configs t p.1 p.2).1) ∈ b.1.entries)
      hp (fun b => NameMap.mem_insertEntry_self) (fun b y hy hb => ?_) _
    by_cases hyp : y.1 = p.1
    · -- the same router has the same configuration
      obtain ⟨r, c⟩ := y
      obtain ⟨r', c'⟩ := p
      dsimp only at hyp ⊢
      subst hyp
      rw [eq_of_mem_entries hs hp hy]
      exact NameMap.mem_insertEntry_self
    · exact NameMap.mem_insertEntry_of_mem hb (Ne.symm hyp)

theorem OtherEndOf.congr {router : String} {k v : GraphEdge} {q : GraphEdge × GraphEdge}
    (h : OtherEndOf configs t router (k, v)) (hk : GraphEdge.cmp k q.1 = .eq) (hv : q.2 = v) :
    OtherEndOf configs t router q := by
  obtain ⟨iface, n, hn, hkl, rfl⟩ := h
  exact ⟨iface, n, hn, TransCmp.eq_trans (OrientedCmp.eq_symm hk) hkl, hv⟩

theorem physicalEdges_others {q : GraphEdge × GraphEdge} (hq : q ∈ (physicalEdges configs t).2.1) :
    ∃ p ∈ configs.entries, OtherEndOf configs t p.1 q := by
  unfold physicalEdges at hq
  refine List.foldlRecOn (motive := fun b : PhysicalAcc => ∀ q ∈ b.2.1, ∃ p ∈ configs.entries,
    OtherEndOf configs t p.1 q) _ _ ?_ (fun b hb p hp => ?_) q hq
  · simp
  obtain ⟨em, others, nm, all⟩ := b
  obtain ⟨router, c⟩ := p
  dsimp only
  refine List.foldlRecOn (motive := fun acc : EdgeMap GraphEdge => ∀ q ∈ acc, ∃ p ∈ configs.entries,
    OtherEndOf configs t p.1 q) _ _ hb fun acc hacc kv hkv q hq => ?_
  rcases Ordered.mem_put hq with ⟨hk, hv⟩ | hq
  · exact ⟨(router, c), hp, (routerEdges_inv.other kv hkv).congr hk hv⟩
  · exact hacc q hq

theorem Ordered.mem_keys_foldl_put {κ α : Type} {cmp : κ → κ → Ordering} {k : κ}
    (l : List (κ × α)) {acc : List (κ × α)} (h : k ∈ acc.map Prod.fst) :
    k ∈ (l.foldl (fun acc q => Ordered.put cmp q.1 q.2 acc) acc).map Prod.fst :=
  List.foldlRecOn (motive := fun acc : List (κ × α) => k ∈ acc.map Prod.fst) _ _ h
    fun _ hb _ _ => Ordered.mem_keys_put hb

theorem physicalEdges_has_key {p : String × Configuration} (hp : p ∈ configs.entries)
    {q : GraphEdge × GraphEdge} (hq : q ∈ (routerEdges configs t p.1 p.2).2.1) :
    ∃ q' ∈ (physicalEdges configs t).2.1, GraphEdge.cmp q.1 q'.1 = .eq := by
  unfold physicalEdges
  refine foldl_holds_of_mem (Q := fun b : PhysicalAcc => ∃ q' ∈ b.2.1, GraphEdge.cmp q.1 q'.1 = .eq)
    hp (fun b => ?_) (fun b y _ hb => ?_) _
  · obtain ⟨em, others, nm, all⟩ := b
    dsimp only
    refine foldl_holds_of_mem (Q := fun acc : EdgeMap GraphEdge => ∃ q' ∈ acc, GraphEdge.cmp q.1 q'.1 = .eq)
      hq (fun acc => Ordered.exists_key_put _ _ _) (fun acc y _ hacc => ?_) _
    obtain ⟨q', hq', hqq'⟩ := hacc
    obtain ⟨q'', hq'', hkey⟩ := List.mem_map.1 (Ordered.mem_keys_put (List.mem_map_of_mem (f := Prod.fst) hq'))
    exact ⟨q'', hq'', hkey ▸ hqq'⟩
  · obtain ⟨em, others, nm, all⟩ := b
    obtain ⟨q', hq', hqq'⟩ := hb
    dsimp only
    obtain ⟨q'', hq'', hkey⟩ := List.mem_map.1
      (Ordered.mem_keys_foldl_put _ (List.mem_map_of_mem (f := Prod.fst) hq'))
    exact ⟨q'', hq'', hkey ▸ hqq'⟩

theorem physicalEdges_all {p : String × Configuration} (hp : p ∈ configs.entries) {e : GraphEdge}
    (he : e ∈ (routerEdges configs t p.1 p.2).1) :
    ∃ e' ∈ (physicalEdges configs t).2.2.2, GraphEdge.cmp e e' = .eq := by
  unfold physicalEdges
  refine foldl_holds_of_mem (Q := fun b : PhysicalAcc => ∃ e' ∈ b.2.2.2, GraphEdge.cmp e e' = .eq)
    hp (fun b => ?_) (fun b y _ hb => ?_) _
  · obtain ⟨em, others, nm, all⟩ := b
    dsimp only
    refine foldl_holds_of_mem (Q := fun acc : List GraphEdge => ∃ e' ∈ acc, GraphEdge.cmp e e' = .eq)
      he (fun acc => Ordered.exists_mem_insert _ _) (fun acc y _ hacc => ?_) _
    obtain ⟨e', he', hee'⟩ := hacc
    exact ⟨e', Ordered.mem_insert_of_mem he', hee'⟩
  · obtain ⟨em, others, nm, all⟩ := b
    obtain ⟨e', he', hee'⟩ := hb
    dsimp only
    exact ⟨e', List.foldlRecOn (motive := fun acc : List GraphEdge => e' ∈ acc) _ _ he'
      fun _ hb _ _ => Ordered.mem_insert_of_mem hb, hee'⟩

abbrev NullAcc : Type := NameMap (List GraphEdge) × NameMap (NameMap (List StaticRoute)) × List GraphEdge

theorem addNullEdges_table {init : NullAcc} (h : EdgeTable configs t init.1) :
    EdgeTable configs t (addNullEdges configs init).1 := by
  unfold addNullEdges
  refine List.foldlRecOn (motive := fun b : NullAcc => EdgeTable configs t b.1) _ _ h fun b hb p _ => ?_
  obtain ⟨em, sm, all⟩ := b
  obtain ⟨router, c⟩ := p
  dsimp only
  refine List.foldlRecOn (motive := fun b : NullAcc => EdgeTable configs t b.1) _ _ hb fun b hb sr _ => ?_
  obtain ⟨em, sm, all⟩ := b
  exact hb.append router rfl

theorem addNullEdges_keeps {init : NullAcc} {e : GraphEdge} (he : e ∈ init.2.2) :
    e ∈ (addNullEdges configs init).2.2 := by
  unfold addNullEdges
  refine List.foldlRecOn (motive := fun b : NullAcc => e ∈ b.2.2) _ _ he fun b hb p _ => ?_
  obtain ⟨em, sm, all⟩ := b
  obtain ⟨router, c⟩ := p
  dsimp only
  refine List.foldlRecOn (motive := fun b : NullAcc => e ∈ b.2.2) _ _ hb fun b hb sr _ => ?_
  obtain ⟨em, sm, all⟩ := b
  exact Ordered.mem_insert_of_mem hb

abbrev IbgpAcc : Type :=
  NameMap (List GraphEdge) × List GraphEdge × EdgeMap BgpNeighbor × List ((String × String) × GraphEdge)

theorem addIbgpEdges_table {sessions : NameMap (NameMap BgpNeighbor)} {em : NameMap (List GraphEdge)}
    {all : List GraphEdge} (h : EdgeTable configs t em) :
    EdgeTable configs t (addIbgpEdges sessions em all).1 := by
  unfold addIbgpEdges
  refine List.foldlRecOn (motive := fun b : IbgpAcc => EdgeTable configs t b.1) _ _ h
    fun b hb p _ => ?_
  obtain ⟨r1, ns⟩ := p
  dsimp only
  refine List.foldlRecOn (motive := fun b : IbgpAcc => EdgeTable configs t b.1) _ _ hb
    fun b hb p _ => ?_
  obtain ⟨em, all, ib, rev⟩ := b
  obtain ⟨r2, n1⟩ := p
  exact hb.append r1 rfl

theorem addIbgpEdges_abstract (sessions : NameMap (NameMap BgpNeighbor)) (em : NameMap (List GraphEdge))
    (all : List GraphEdge) : ∀ q ∈ (addIbgpEdges sessions em all).2.2.2, q.2.isAbstract = true := by
  unfold addIbgpEdges
  refine List.foldlRecOn (motive := fun b : IbgpAcc => ∀ q ∈ b.2.2.2, q.2.isAbstract = true) _ _
    (by simp) fun b hb p _ => ?_
  obtain ⟨r1, ns⟩ := p
  dsimp only
  refine List.foldlRecOn (motive := fun b : IbgpAcc => ∀ q ∈ b.2.2.2, q.2.isAbstract = true) _ _ hb
    fun b hb p _ q hq => ?_
  obtain ⟨em, all, ib, rev⟩ := b
  obtain ⟨r2, n1⟩ := p
  rcases List.mem_append.1 hq with hq | hq
  · exact hb q hq
  · rw [List.mem_singleton.1 hq]

theorem pairIbgpEdges_physical {reverse : List ((String × String) × GraphEdge)}
    (hrev : ∀ q ∈ reverse, q.2.isAbstract = true) {others : EdgeMap GraphEdge}
    {q : GraphEdge × GraphEdge} (hq : q ∈ pairIbgpEdges reverse others) (ha : q.1.isAbstract = false) :
    q ∈ others := by
  unfold pairIbgpEdges at hq
  refine List.foldlRecOn (motive := fun acc : EdgeMap GraphEdge => q ∈ acc → q ∈ others) _ _ id
    (fun acc hacc p hp hq => ?_) hq
  obtain ⟨⟨r1, r2⟩, ge1⟩ := p
  dsimp only at hq
  split at hq
  · rcases Ordered.mem_put hq with ⟨hk, -⟩ | hq
    · have h1 : ge1.isAbstract = true := hrev _ hp
      rw [(flags_eq_of_cmp_eq hk).1, ha] at h1
      cases h1
    · exact hacc hq
  · exact hacc hq

theorem pairIbgpEdges_keys {reverse : List ((String × String) × GraphEdge)} {others : EdgeMap GraphEdge}
    {k : GraphEdge} (hk : k ∈ others.map Prod.fst) : k ∈ (pairIbgpEdges reverse others).map Prod.fst := by
  unfold pairIbgpEdges
  refine List.foldlRecOn (motive := fun acc : EdgeMap GraphEdge => k ∈ acc.map Prod.fst) _ _ hk
    fun acc hacc p _ => ?_
  obtain ⟨⟨r1, r2⟩, ge1⟩ := p
  dsimp only
  split
  · exact Ordered.mem_keys_put hacc
  · exact hacc

end Table

theorem configsOf_sorted {cs : List Configuration} {configs : NameMap Configuration}
    (h : configsOf cs = .ok configs) : configs.entries.Pairwise fun a b => a.1 < b.1 := by
  unfold configsOf at h
  -- the fold starts from the empty map, whose keys are ascending
  generalize hm : ({} : NameMap Configuration) = m at h
  have hs : m.entries.Pairwise fun a b => a.1 < b.1 := hm ▸ .nil
  clear hm
  induction cs generalizing m with
  | nil =>
    cases h
    exact hs
  | cons c cs ih =>
    rw [List.foldlM_cons] at h
    split at h
    · cases h
    · exact ih _ h (NameMap.sorted_insertEntry hs)

theorem forM_ok_of_mem {ε α : Type} {xs : List α} {f : α → Except ε PUnit} (h : xs.forM f = .ok ⟨⟩)
    {x : α} (hx : x ∈ xs) : f x = .ok ⟨⟩ := by
  induction xs with
  | nil => cases hx
  | cons y xs ih =>
    simp only [List.forM] at h
    cases hy : f y with
    | error e =>
      rw [hy] at h
      cases h
    | ok u =>
      rw [hy] at h
      rcases List.mem_cons.1 hx with rfl | hx
      · exact hy
      · exact ih h hx

theorem checkLinks_end {configs : NameMap Configuration} {t : Topology} (h : checkLinks configs t = .ok ())
    {l : Link} (hl : l ∈ t.links) {x : NodeInterface} (hx : x = l.1 ∨ x = l.2) :
    ∃ c, configs.get? x.router = some c ∧ c.interfaces.contains x.iface = true := by
  have hpair := forM_ok_of_mem h hl
  obtain ⟨a, b⟩ := l
  have hend := forM_ok_of_mem hpair (x := x) (by rcases hx with rfl | rfl <;> simp)
  split at hend
  · cases hend
  · next c hc =>
    split at hend
    · exact ⟨c, hc, by assumption⟩
    · cases hend

theorem mem_neighbors {t : Topology} {m n : NodeInterface} (h : n ∈ t.neighbors m) :
    ∃ l ∈ t.links, (l.1 = m ∧ l.2 = n) ∨ (l.2 = m ∧ l.1 = n) := by
  obtain ⟨⟨a, b⟩, hl, hln⟩ := List.mem_filterMap.1 (Ordered.mem_of_mem_setOf h)
  simp only at hln
  split at hln
  · next ha => exact ⟨(a, b), hl, .inl ⟨ha, Option.some.inj hln⟩⟩
  · split at hln
    · next hb => exact ⟨(a, b), hl, .inr ⟨hb, Option.some.inj hln⟩⟩
    · cases hln

theorem checkLinks_neighbor {configs : NameMap Configuration} {t : Topology} (h : checkLinks configs t = .ok ())
    {m n : NodeInterface} (hn : n ∈ t.neighbors m) :
    ∃ c, configs.get? n.router = some c ∧ c.interfaces.contains n.iface = true := by
  obtain ⟨l, hl, hlmn⟩ := mem_neighbors hn
  rcases hlmn with ⟨-, rfl⟩ | ⟨-, rfl⟩
  · exact checkLinks_end h hl (.inr rfl)
  · exact checkLinks_end h hl (.inl rfl)

end GraphBuild

namespace GraphBuild

section Built

variable {configs : NameMap Configuration} {t : Topology} {em : NameMap (List GraphEdge)}

theorem routerEdges_edge {r : String} {c : Configuration} {e : GraphEdge}
    (he : e ∈ (routerEdges configs t r c).1) : e.router = r ∧ e.isPhysical = true := by
  rcases routerEdges_inv.edge e he with ⟨iface, -, rfl⟩ | ⟨iface, -, n, -, rfl⟩ <;> exact ⟨rfl, rfl⟩

theorem linkEdge_opposite (r : String) (iface : Interface) (n : NodeInterface) :
    Opposite (linkEdge configs r iface n) (linkBack configs r iface n) := ⟨rfl, rfl, rfl, rfl⟩

theorem EdgeTable.mem_routerEdges (h : EdgeTable configs t em) {q : String × List GraphEdge}
    (hq : q ∈ em.entries) {e : GraphEdge} (he : e ∈ q.2) (hp : e.isPhysical = true) :
    ∃ c, (q.1, c) ∈ configs.entries ∧ e ∈ (routerEdges configs t q.1 c).1 := by
  obtain ⟨phys, extra, heq, hextra, hphys⟩ := h.entry q hq
  rw [heq] at he
  rcases List.mem_append.1 he with he | he
  · rcases hphys with rfl | ⟨c, hc, rfl⟩
    · cases he
    · exact ⟨c, hc, he⟩
  · rw [hextra e he] at hp
    cases hp

theorem EdgeTable.mem_flatten (h : EdgeTable configs t em) {e : GraphEdge} (he : e ∈ em.values.flatten)
    (hp : e.isPhysical = true) : ∃ p ∈ configs.entries, e ∈ (routerEdges configs t p.1 p.2).1 := by
  obtain ⟨es, hes, he⟩ := List.mem_flatten.1 he
  obtain ⟨q, hq, rfl⟩ := List.mem_map.1 hes
  obtain ⟨c, hc, he⟩ := h.mem_routerEdges hq he hp
  exact ⟨(q.1, c), hc, he⟩

theorem EdgeTable.flatten_mem (h : EdgeTable configs t em) {p : String × Configuration}
    (hp : p ∈ configs.entries) {e : GraphEdge} (he : e ∈ (routerEdges configs t p.1 p.2).1) :
    e ∈ em.values.flatten := by
  obtain ⟨extra, hmem⟩ := h.routers p hp
  exact List.mem_flatten.2 ⟨_, List.mem_map_of_mem (f := Prod.snd) hmem, List.mem_append_left _ he⟩

theorem EdgeTable.sorted_physical (h : EdgeTable configs t em) :
    em.values.flatten.Pairwise fun a b => a.isPhysical → b.isPhysical → startCmp a b ≠ .gt := by
  rw [List.pairwise_flatten, NameMap.values, List.pairwise_map]
  refine ⟨fun es hes => ?_, List.Pairwise.imp_of_mem (fun {q q'} hq hq' hlt => ?_) h.sorted⟩
  · -- a router's physical edges are ascending, and the edges after them are not physical
    obtain ⟨q, hq, rfl⟩ := List.mem_map.1 hes
    obtain ⟨phys, extra, heq, hextra, hphys⟩ := h.entry q hq
    have hnp : ∀ x ∈ extra, x.isPhysical = true → False := fun x hx hpx => by
      rw [hextra x hx] at hpx
      cases hpx
    rw [heq, List.pairwise_append]
    refine ⟨?_, List.pairwise_of_forall_mem_list fun x hx _ _ hpx => (hnp x hx hpx).elim,
      fun _ _ y hy _ hpy => (hnp y hy hpy).elim⟩
    rcases hphys with rfl | ⟨c, -, rfl⟩
    · exact .nil
    · exact routerEdges_inv.sorted.imp fun hlt _ _ => startCmp_ne_gt_of_cmp_lt hlt
  · -- the routers are ascending
    intro x hx y hy hpx hpy
    obtain ⟨c, -, hx⟩ := h.mem_routerEdges hq hx hpx
    obtain ⟨c', -, hy⟩ := h.mem_routerEdges hq' hy hpy
    have hr : x.router < y.router := by
      rw [(routerEdges_edge hx).1, (routerEdges_edge hy).1]
      exact hlt
    rw [startCmp_of_router_lt hr]
    simp

end Built

end GraphBuild

namespace Graph

open GraphBuild

/-- A graph as `Graph.build` leaves it, in terms of its stages: the configurations by ascending
name, with a topology whose links pass the check; an edge map made from the physical edges
(`EdgeTable`); every physical edge in the set of all real edges; and other ends filed by the
routers, besides those of abstract edges. -/
structure Staged (g : Graph) (configs : NameMap Configuration) (t : Topology) : Prop where
  sorted : configs.entries.Pairwise fun a b => a.1 < b.1
  links : checkLinks configs t = .ok ()
  table : EdgeTable configs t g.edgeMap
  all_real : ∀ e ∈ (physicalEdges configs t).2.2.2, e ∈ g.allRealEdges
  others : ∃ rev : List ((String × String) × GraphEdge), (∀ q ∈ rev, q.2.isAbstract = true) ∧
    g.otherEnds = pairIbgpEdges rev (physicalEdges configs t).2.1

theorem build_stages {cs : List Configuration} {topo : Option Topology} {g : Graph}
    (h : Graph.build cs topo = .ok g) :
    ∃ configs t sm, configsOf cs = .ok configs ∧ checkLinks configs t = .ok () ∧ g.configs = configs ∧
      let phys := physicalEdges configs t
      let null := addNullEdges configs (phys.1, sm, phys.2.2.2)
      let ibgp := addIbgpEdges (ibgpSessions configs) null.1 null.2.2
      g.edgeMap = ibgp.1 ∧ g.allRealEdges = null.2.2 ∧ g.otherEnds = pairIbgpEdges ibgp.2.2.2 phys.2.1 ∧
      t = topo.getD (Topology.infer configs) := by
  unfold Graph.build at h
  simp only [bind, Except.bind] at h
  repeat' split at h
  -- every failing stage contradicts success; the last equation gives the graph
  all_goals cases h
  next _ configs hconfigs _ _ hlinks _ _ _ _ _ _ =>
  exact ⟨configs, _, _, hconfigs, hlinks, rfl, rfl, rfl, rfl, rfl⟩

theorem build_staged {cs : List Configuration} {topo : Option Topology} {g : Graph}
    (h : Graph.build cs topo = .ok g) : g.Staged g.configs (topo.getD (Topology.infer g.configs)) := by
  obtain ⟨configs, t, sm, hconfigs, hlinks, rfl, hem, hreal, hothers, rfl⟩ := build_stages h
  have hs := configsOf_sorted hconfigs
  refine ⟨hs, hlinks, ?_, fun e he => ?_, ⟨_, ?_, hothers⟩⟩
  · rw [hem]
    exact addIbgpEdges_table (addNullEdges_table (physicalEdges_table hs))
  · rw [hreal]
    exact addNullEdges_keeps he
  · exact addIbgpEdges_abstract _ _ _

namespace Staged

variable {g : Graph} {configs : NameMap Configuration} {t : Topology}

theorem filed (hg : g.Staged configs t) {e o : GraphEdge} (h : g.otherEnd? e = some o)
    (hp : e.isPhysical = true) :
    ∃ p ∈ configs.entries, ∃ k, GraphEdge.cmp e k = .eq ∧ OtherEndOf configs t p.1 (k, o) := by
  obtain ⟨rev, hrev, hothers⟩ := hg.others
  obtain ⟨q, hq, heq, rfl⟩ := Ordered.exists_mem_of_find?_eq h
  rw [hothers] at hq
  have ha : q.1.isAbstract = false := by
    rw [← (flags_eq_of_cmp_eq heq).1]
    simp only [isPhysical, Bool.and_eq_true, Bool.not_eq_true'] at hp
    exact hp.1
  obtain ⟨p, hp', hother⟩ := physicalEdges_others (pairIbgpEdges_physical hrev hq ha)
  exact ⟨p, hp', q.1, heq, hother⟩

theorem opposite (hg : g.Staged configs t) {e o : GraphEdge} (h : g.otherEnd? e = some o)
    (hp : e.isPhysical = true) : Opposite e o ∧ o.isPhysical = true := by
  obtain ⟨p, -, k, hek, iface, n, -, hkl, rfl⟩ := hg.filed h hp
  exact ⟨(linkEdge_opposite p.1 iface n).congr_left
    (sameEnds_of_cmp_eq (TransCmp.eq_trans hek hkl)).symm, rfl⟩

theorem has_other (hg : g.Staged configs t) {e : GraphEdge} (he : e ∈ g.edgeMap.values.flatten)
    (hp : e.isPhysical = true) (hpeer : e.peer.isSome) : (g.otherEnd? e).isSome := by
  obtain ⟨rev, -, hothers⟩ := hg.others
  obtain ⟨p, hp', her⟩ := hg.table.mem_flatten he hp
  obtain ⟨q, hq, heq⟩ := routerEdges_inv.has_other e her hpeer
  obtain ⟨q', hq', heq'⟩ := physicalEdges_has_key hp' hq
  -- the key stays through the pairing of iBGP edges
  obtain ⟨q'', hq'', hkey⟩ := List.mem_map.1 (pairIbgpEdges_keys (List.mem_map_of_mem (f := Prod.fst) hq') :
    q'.1 ∈ (pairIbgpEdges rev (physicalEdges configs t).2.1).map Prod.fst)
  rw [otherEnd?, hothers, Ordered.find?_isSome_iff]
  exact ⟨q'', hq'', hkey ▸ TransCmp.eq_trans heq heq'⟩

theorem real (hg : g.Staged configs t) {e : GraphEdge} (he : e ∈ g.edgeMap.values.flatten)
    (hp : e.isPhysical = true) : ∃ e' ∈ g.allRealEdges, GraphEdge.cmp e e' = .eq := by
  obtain ⟨p, hp', her⟩ := hg.table.mem_flatten he hp
  obtain ⟨e', he', hee'⟩ := physicalEdges_all hp' her
  exact ⟨e', hg.all_real e' he', hee'⟩

/-- The other direction of a link is an edge of the graph, up to the order of edges, as soon as
the graph has an edge with its ends: the checked topology gives the far interface its own edge
back, with the ends and start of the other direction. -/
theorem complete (hg : g.Staged configs t) {y o : GraphEdge} (hp : y.isPhysical = true)
    (h : g.otherEnd? y = some o) {z : GraphEdge} (hz : z ∈ g.edgeMap.values.flatten)
    (hpz : z.isPhysical = true) (hzo : SameEnds z o) :
    ∃ w ∈ g.edgeMap.values.flatten, w.isPhysical = true ∧ GraphEdge.cmp w o = .eq := by
  obtain ⟨p, -, k, -, iface, n, hn, -, rfl⟩ := hg.filed h hp
  -- the far end of the link is an interface of its router
  obtain ⟨c', hc', hcont⟩ := checkLinks_neighbor hg.links hn
  obtain ⟨far, hfar⟩ := Option.isSome_iff_exists.1 hcont
  have hfarI : farInterface configs n = far := by simp [farInterface, hc', hfar]
  obtain ⟨pz, -, hzr⟩ := hg.table.mem_flatten hz hpz
  rcases routerEdges_inv.edge z hzr with ⟨iface', -, rfl⟩ | ⟨iface', -, n', hn', rfl⟩
  · -- an edge towards the outside has no peer
    cases hzo.2.2.1
  · obtain ⟨h1, h2, h3, h4⟩ := hzo
    simp only [linkEdge, linkBack, hfarI, Option.map_some, Option.some.injEq] at h1 h2 h3 h4
    -- `z` leaves the far router over an interface named like `far`, so `far` has `z`'s ends
    have hend : LinkEnd t n.router far n' := by
      unfold LinkEnd at hn' ⊢
      rw [← h1, ← h2]
      exact hn'
    obtain ⟨w, hw, hwl⟩ := routerEdges_complete (NameMap.mem_values_of_get? hfar) hend
    have hlo : GraphEdge.cmp (linkEdge configs n.router far n') (linkBack configs p.1 iface n) = .eq :=
      cmp_eq_of rfl hfarI.symm (by simp [linkEdge, linkBack, h3]) (by simp [linkEdge, linkBack, h4]) rfl rfl
    have hmem : (n.router, c') ∈ configs.entries := NameMap.mem_entries_of_get? hc'
    exact ⟨w, hg.table.flatten_mem hmem hw, (routerEdges_edge hw).2, TransCmp.eq_trans hwl hlo⟩

end Staged

end Graph

end ControlPlane
