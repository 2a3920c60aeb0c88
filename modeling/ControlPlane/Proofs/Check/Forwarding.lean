import ControlPlane.Check.Instrument
import ControlPlane.Proofs.Encoding.Steps
import Mathlib.Logic.Relation

/-!
# Forwarding steps of a slice

A model of a slice's variables fixes where packets go: they cross an edge of a router when the
edge's crossing term holds. `Slice.Step s m r p` is one such step, from `r` to its neighbour `p`
over an edge that is not abstract.

The property instrumentation walks the graph through its edge map, so what it encodes is stated
for graphs whose edge map lists every router once and whose edges lead to routers
(`Graph.WellFormed`), for slices that give every real edge a crossing term (`Slice.Covers`),
and for models that give each crossing term a boolean (`Slice.Decides`). A model changed only
on names that the context does not register keeps every step when the crossing terms are over
registered variables (`Slice.RegisteredIn`).
-/

namespace ControlPlane

namespace NameMap

variable {α : Type}

theorem lookup_cons_ite (a k : String) (b : α) (es : List (String × α)) :
    ((k, b) :: es).lookup a = if a = k then some b else es.lookup a := by
  by_cases h : a = k
  · subst h; simp
  · rw [List.lookup_cons, beq_false_of_ne h, if_neg h]

theorem lookup_insertEntry (k k' : String) (v : α) (es : List (String × α)) :
    (insertEntry k v es).lookup k' = if k' = k then some v else es.lookup k' := by
  induction es with
  | nil => simp only [insertEntry, lookup_cons_ite, List.lookup_nil]
  | cons e es ih =>
    obtain ⟨k1, v1⟩ := e
    simp only [insertEntry]
    split
    · simp only [lookup_cons_ite]
    · split
      · subst k1; by_cases h : k' = k <;> simp [lookup_cons_ite, h]
      · by_cases h : k' = k <;> by_cases h1 : k' = k1 <;> simp_all [lookup_cons_ite]

@[simp] theorem get?_insert (m : NameMap α) (k k' : String) (v : α) :
    (m.insert k v).get? k' = if k' = k then some v else m.get? k' :=
  lookup_insertEntry k k' v m.entries

@[simp] theorem get?_empty (k : String) : ({} : NameMap α).get? k = none := rfl

theorem lookup_eq_of_mem {es : List (String × α)} {k : String} {v : α}
    (hd : (es.map Prod.fst).Nodup) (h : (k, v) ∈ es) : es.lookup k = some v := by
  induction es with
  | nil => simp at h
  | cons e es ih =>
    obtain ⟨k1, v1⟩ := e
    simp only [List.map_cons, List.nodup_cons] at hd
    rw [lookup_cons_ite]
    rcases List.mem_cons.1 h with h | h
    · cases h; simp
    · have hk : k ≠ k1 := fun hk => hd.1 (hk ▸ List.mem_map_of_mem (f := Prod.fst) h)
      simpa [hk] using ih hd.2 h

end NameMap

namespace Graph

variable {g : Graph}

/-- The edge map has one entry for every router and none for anything else, and every edge
leads to a router. Graphs read from configurations are so. -/
structure WellFormed (g : Graph) : Prop where
  keys_eq : g.edgeMap.keys = g.routers
  nodup : g.routers.Nodup
  peer_mem : ∀ r, ∀ e ∈ g.edges r, ∀ p, e.peer = some p → p ∈ g.routers

theorem WellFormed.mem_entries_iff (hg : g.WellFormed) {r : String} {es : List GraphEdge} :
    (r, es) ∈ g.edgeMap.entries ↔ r ∈ g.routers ∧ es = g.edges r := by
  have hd : (g.edgeMap.entries.map Prod.fst).Nodup := by
    simpa [← hg.keys_eq, NameMap.keys] using hg.nodup
  constructor
  · intro h
    refine ⟨hg.keys_eq ▸ List.mem_map_of_mem (f := Prod.fst) h, ?_⟩
    simp [edges, NameMap.getD, NameMap.get?, NameMap.lookup_eq_of_mem hd h]
  · rintro ⟨hr, rfl⟩
    rw [← hg.keys_eq] at hr
    obtain ⟨⟨k, es⟩, hmem, rfl⟩ := List.mem_map.1 hr
    simpa [edges, NameMap.getD, NameMap.get?, NameMap.lookup_eq_of_mem hd hmem] using hmem

theorem WellFormed.forall_entries (hg : g.WellFormed) {P : String → List GraphEdge → Prop} :
    (∀ x ∈ g.edgeMap.entries, P x.1 x.2) ↔ ∀ r ∈ g.routers, P r (g.edges r) := by
  constructor
  · intro h r hr
    exact h (r, g.edges r) (hg.mem_entries_iff.2 ⟨hr, rfl⟩)
  · rintro h ⟨r, es⟩ hx
    obtain ⟨hr, rfl⟩ := hg.mem_entries_iff.1 hx
    exact h r hr

theorem WellFormed.mem_of_mem_edges (hg : g.WellFormed) {r : String} {e : GraphEdge}
    (he : e ∈ g.edges r) : r ∈ g.routers := by
  cases h : g.edgeMap.get? r with
  | none => simp [edges, NameMap.getD, h] at he
  | some es =>
    obtain ⟨x, hx, hxr⟩ := List.lookup_isSome_iff.1 (Option.isSome_iff_exists.2 ⟨es, h⟩)
    rw [← hg.keys_eq, beq_iff_eq.1 hxr]
    exact List.mem_map_of_mem hx

end Graph

def Model.AgreeOn (m' : Model) (c : Context) (m : Model) : Prop :=
  ∀ n, (c.index[n]?).isSome → m'.get? n = m.get? n

namespace Slice

variable {s : Slice} {m m' : Model} {c : Context} {r p : String} {e : GraphEdge} {t : Term}

/-- Packets of the slice cross the edge `e` of `r` under `m`; never over an edge without a
crossing term. -/
def crosses (s : Slice) (m : Model) (r : String) (e : GraphEdge) : Bool :=
  match s.forwardsAcross? r e with
  | some t => m.holds t
  | none => false

/-- One forwarding step under `m`: packets cross an edge of `r` that is not abstract and
leads to `p`. -/
def Step (s : Slice) (m : Model) (r p : String) : Prop :=
  ∃ e ∈ s.graph.edges r, e.isAbstract = false ∧ e.peer = some p ∧ s.crosses m r e = true

def Covers (s : Slice) : Prop :=
  ∀ r, ∀ e ∈ s.graph.edges r, e.isAbstract = false → (s.forwardsAcross? r e).isSome

def Decides (s : Slice) (m : Model) : Prop :=
  ∀ r e t, s.forwardsAcross? r e = some t → ∃ b, m.eval t = .ok (.bool b)

def RegisteredIn (s : Slice) (c : Context) : Prop :=
  ∀ r e t, s.forwardsAcross? r e = some t → ∀ x ∈ t.vars, (c.index[x.1]?).isSome

theorem eval_crosses (hd : s.Decides m) (h : s.forwardsAcross? r e = some t) :
    m.eval t = .ok (.bool (s.crosses m r e)) := by
  obtain ⟨b, hb⟩ := hd r e t h
  simp [crosses, h, Model.eval_holds hb]

theorem forwardsAcross_ok (hc : s.Covers) (he : e ∈ s.graph.edges r) (ha : e.isAbstract = false) :
    ∃ t, Instrument.forwardsAcross s r e = .ok t ∧ s.forwardsAcross? r e = some t := by
  obtain ⟨t, ht⟩ := Option.isSome_iff_exists.1 (hc r e he ha)
  exact ⟨t, by simp [Instrument.forwardsAcross, ht], ht⟩

theorem Step.mem_routers (hg : s.graph.WellFormed) (h : s.Step m r p) :
    r ∈ s.graph.routers ∧ p ∈ s.graph.routers := by
  obtain ⟨e, he, -, hp, -⟩ := h
  exact ⟨hg.mem_of_mem_edges he, hg.peer_mem r e he p hp⟩

/-- Two models that agree on every registered name give crossing terms over registered
variables the same value. -/
theorem eval_congr_registered (hreg : s.RegisteredIn c)
    (hm : m'.AgreeOn c m) (h : s.forwardsAcross? r e = some t) :
    m'.eval t = m.eval t :=
  Model.eval_congr t fun x hx => by simp [Model.valueOf, hm x.1 (hreg r e t h x hx)]

theorem Decides.of_agree (hd : s.Decides m) (hreg : s.RegisteredIn c)
    (hm : m'.AgreeOn c m) : s.Decides m' := fun r e t h => by
  rw [eval_congr_registered hreg hm h]
  exact hd r e t h

theorem crosses_of_agree (hreg : s.RegisteredIn c)
    (hm : m'.AgreeOn c m) : s.crosses m' r e = s.crosses m r e := by
  unfold crosses
  split
  · next t h => simp only [Model.holds, eval_congr_registered hreg hm h]
  · rfl

theorem step_of_agree (hreg : s.RegisteredIn c)
    (hm : m'.AgreeOn c m) : s.Step m' r p ↔ s.Step m r p := by
  simp only [Step, crosses_of_agree hreg hm]

end Slice
end ControlPlane
