import ControlPlane.Order
import ControlPlane.Network.Graph

/-!
# Ordered maps and the order of edges

A map with ordered keys keeps its keys an ascending set: `Ordered.put` inserts the new key in its
place, and a key equal to one present leaves that one where it is (`keys_put`). A map built by
putting, one by one, the members of a collection therefore lists each of them once, up to the
order, in ascending order (`Ordered.Enumerates`).

Edges are ordered by router, start interface name and address, peer, end interface name and the
two flags in turn. Each of these is ordered lawfully, so the order of edges is a lawful order
(`Std.TransCmp GraphEdge.cmp`) and the ascending maps keyed by edges behave as above.
-/

namespace ControlPlane

open Std

namespace Ordered

variable {κ α : Type} {cmp : κ → κ → Ordering}

theorem keys_put (k : κ) (v : α) (l : List (κ × α)) :
    (put cmp k v l).map Prod.fst = insert cmp k (l.map Prod.fst) := by
  induction l with
  | nil => rfl
  | cons x l ih =>
    obtain ⟨k', v'⟩ := x
    simp only [put, List.map_cons, insert]
    split <;> simp [*]

theorem mem_insert {k y : κ} {ks : List κ} (h : y ∈ insert cmp k ks) : y = k ∨ y ∈ ks := by
  induction ks with
  | nil => simpa [insert] using h
  | cons z ks ih =>
    simp only [insert] at h
    split at h
    · simpa using h
    · exact .inr h
    · rcases List.mem_cons.1 h with rfl | h
      · simp
      · rcases ih h with rfl | h
        · simp
        · simp [h]

theorem mem_insert_of_mem {k y : κ} {ks : List κ} (h : y ∈ ks) : y ∈ insert cmp k ks := by
  induction ks with
  | nil => simp at h
  | cons z ks ih =>
    simp only [insert]
    split
    · exact List.mem_cons_of_mem _ h
    · exact h
    · rcases List.mem_cons.1 h with rfl | h
      · simp
      · exact List.mem_cons_of_mem _ (ih h)

theorem exists_mem_insert [ReflCmp cmp] (k : κ) (ks : List κ) :
    ∃ y ∈ insert cmp k ks, cmp k y = .eq := by
  induction ks with
  | nil => exact ⟨k, by simp [insert], ReflCmp.compare_self⟩
  | cons z ks ih =>
    simp only [insert]
    split
    · exact ⟨k, by simp, ReflCmp.compare_self⟩
    · next h => exact ⟨z, by simp, h⟩
    · obtain ⟨y, hy, hk⟩ := ih
      exact ⟨y, List.mem_cons_of_mem _ hy, hk⟩

theorem pairwise_insert [TransCmp cmp] {k : κ} {ks : List κ}
    (h : ks.Pairwise fun a b => cmp a b = .lt) :
    (insert cmp k ks).Pairwise fun a b => cmp a b = .lt := by
  induction ks with
  | nil => simp [insert]
  | cons z ks ih =>
    obtain ⟨hz, hks⟩ := List.pairwise_cons.1 h
    simp only [insert]
    split
    · next hlt =>
      refine List.pairwise_cons.2 ⟨fun y hy => ?_, h⟩
      rcases List.mem_cons.1 hy with rfl | hy
      · exact hlt
      · exact TransCmp.lt_trans hlt (hz y hy)
    · exact h
    · next hgt =>
      refine List.pairwise_cons.2 ⟨fun y hy => ?_, ih hks⟩
      rcases mem_insert hy with rfl | hy
      · exact OrientedCmp.lt_of_gt hgt
      · exact hz y hy

/-- `ks` lists the elements that satisfy `p`, one for each of them up to `cmp`, in ascending
order. -/
structure Enumerates (cmp : κ → κ → Ordering) (p : κ → Prop) (ks : List κ) : Prop where
  mem : ∀ k ∈ ks, p k
  complete : ∀ x, p x → ∃ k ∈ ks, cmp x k = .eq
  sorted : ks.Pairwise fun a b => cmp a b = .lt

theorem Enumerates.nil : Enumerates cmp (fun _ => False) [] :=
  ⟨by simp, by simp, .nil⟩

theorem Enumerates.congr {p q : κ → Prop} {ks : List κ} (h : Enumerates cmp p ks)
    (hpq : ∀ x, p x ↔ q x) : Enumerates cmp q ks :=
  ⟨fun k hk => (hpq k).1 (h.mem k hk), fun x hx => h.complete x ((hpq x).2 hx), h.sorted⟩

theorem Enumerates.insert [TransCmp cmp] {p : κ → Prop} {ks : List κ} (h : Enumerates cmp p ks)
    (x : κ) : Enumerates cmp (fun y => p y ∨ y = x) (Ordered.insert cmp x ks) where
  mem k hk := (mem_insert hk).elim .inr fun hk => .inl (h.mem k hk)
  complete y hy := by
    rcases hy with hy | rfl
    · obtain ⟨k, hk, hyk⟩ := h.complete y hy
      exact ⟨k, mem_insert_of_mem hk, hyk⟩
    · exact exists_mem_insert y ks
  sorted := pairwise_insert h.sorted

end Ordered

theorem Ip.compare_eq (a b : Ip) : compare a b = compare a.bits b.bits := by
  cases a
  cases b
  exact Ordering.then_eq

theorem InterfaceAddress.compare_eq (a b : InterfaceAddress) :
    compare a b = (compare a.ip b.ip).then (compare a.len b.len) := by
  cases a
  cases b
  exact congrArg (Ordering.then _) Ordering.then_eq

instance : TransOrd Ip where
  eq_swap {a b} := by
    rw [Ip.compare_eq, Ip.compare_eq]
    exact OrientedOrd.eq_swap
  isLE_trans {a b c} := by
    rw [Ip.compare_eq, Ip.compare_eq, Ip.compare_eq]
    exact TransOrd.isLE_trans

theorem InterfaceAddress.compare_eq_compareLex :
    (compare : InterfaceAddress → InterfaceAddress → Ordering) =
      compareLex (compareOn (·.ip)) (compareOn (·.len)) :=
  funext fun a => funext fun b => InterfaceAddress.compare_eq a b

instance : TransOrd InterfaceAddress := by
  show TransCmp compare
  rw [InterfaceAddress.compare_eq_compareLex]
  infer_instance

theorem GraphEdge.cmp_eq_compareLex :
    GraphEdge.cmp = compareLex (compareOn (·.router)) (compareLex (compareOn (·.start.name))
      (compareLex (compareOn (·.start.address)) (compareLex (compareOn (·.peer))
        (compareLex (compareOn fun e : GraphEdge => e.finish.map (·.name))
          (compareLex (compareOn (·.isAbstract)) (compareOn (·.isNullEdge))))))) :=
  rfl

instance : TransCmp GraphEdge.cmp := by
  rw [GraphEdge.cmp_eq_compareLex]
  infer_instance

end ControlPlane
