import ControlPlane.Proofs.Network.EdgeOrder

/-!
# The two directions of a link

An edge names its ends by router and interface name: the router and start interface it leaves
from, and the peer and end interface it leads to. Two edges with the same ends (`SameEnds`) are
reported as the same link, and two edges whose ends are swapped (`Opposite`) are the two
directions of one link. Edges are scanned router by router and, within a router, in the order of
edges, which begins with the start interface's name (`GraphEdge.startCmp`).
-/

namespace ControlPlane

open Std

namespace GraphEdge

def SameEnds (a b : GraphEdge) : Prop :=
  a.router = b.router ∧ a.start.name = b.start.name ∧ a.peer = b.peer ∧
    a.finish.map (·.name) = b.finish.map (·.name)

def Opposite (a b : GraphEdge) : Prop :=
  a.peer = some b.router ∧ b.peer = some a.router ∧ a.finish.map (·.name) = some b.start.name ∧
    b.finish.map (·.name) = some a.start.name

/-- The edge is one of a physical link or towards the outside: neither an iBGP session's nor a
null route's. -/
def isPhysical (e : GraphEdge) : Bool := !e.isAbstract && !e.isNullEdge

def startCmp (a b : GraphEdge) : Ordering :=
  (compare a.router b.router).then (compare a.start.name b.start.name)

theorem startCmp_eq_compareLex :
    startCmp = compareLex (compareOn (·.router)) (compareOn (·.start.name)) := rfl

instance : TransCmp startCmp := by
  rw [startCmp_eq_compareLex]
  infer_instance

theorem startCmp_self (a : GraphEdge) : startCmp a a = .eq := ReflCmp.compare_self

namespace SameEnds

theorem refl (a : GraphEdge) : SameEnds a a := ⟨rfl, rfl, rfl, rfl⟩

theorem symm {a b : GraphEdge} (h : SameEnds a b) : SameEnds b a :=
  ⟨h.1.symm, h.2.1.symm, h.2.2.1.symm, h.2.2.2.symm⟩

theorem trans {a b c : GraphEdge} (h : SameEnds a b) (h' : SameEnds b c) : SameEnds a c :=
  ⟨h.1.trans h'.1, h.2.1.trans h'.2.1, h.2.2.1.trans h'.2.2.1, h.2.2.2.trans h'.2.2.2⟩

theorem startCmp_left {a b : GraphEdge} (h : SameEnds a b) (c : GraphEdge) :
    startCmp a c = startCmp b c := by
  simp only [startCmp, h.1, h.2.1]

theorem startCmp_right {a b : GraphEdge} (h : SameEnds a b) (c : GraphEdge) :
    startCmp c a = startCmp c b := by
  simp only [startCmp, h.1, h.2.1]

theorem text_eq {a b : GraphEdge} (h : SameEnds a b) : a.text = b.text := by
  obtain ⟨h1, h2, h3, h4⟩ := h
  unfold text
  rw [h1, h2, h3]
  cases ha : a.finish <;> cases hb : b.finish <;> cases b.peer <;> simp_all

end SameEnds

theorem cmp_eq_of {a b : GraphEdge} (h1 : a.router = b.router) (h2 : a.start = b.start)
    (h3 : a.peer = b.peer) (h4 : a.finish.map (·.name) = b.finish.map (·.name))
    (h5 : a.isAbstract = b.isAbstract) (h6 : a.isNullEdge = b.isNullEdge) : cmp a b = .eq := by
  have h : cmp a b = cmp b b := by
    unfold cmp
    rw [h1, h2, h3, h4, h5, h6]
  exact h.trans ReflCmp.compare_self

theorem startCmp_of_router_lt {a b : GraphEdge} (h : a.router < b.router) : startCmp a b = .lt := by
  rw [startCmp, show compare a.router b.router = .lt from compareOfLessAndEq_eq_lt.2 h]
  rfl

theorem sameEnds_of_cmp_eq {a b : GraphEdge} (h : cmp a b = .eq) : SameEnds a b := by
  simp only [cmp, Ordering.then_eq_eq, Std.compare_eq_iff_eq] at h
  exact ⟨h.1, h.2.1, h.2.2.2.1, h.2.2.2.2.1⟩

theorem flags_eq_of_cmp_eq {a b : GraphEdge} (h : cmp a b = .eq) :
    a.isAbstract = b.isAbstract ∧ a.isNullEdge = b.isNullEdge := by
  simp only [cmp, Ordering.then_eq_eq, Std.compare_eq_iff_eq] at h
  exact ⟨h.2.2.2.2.2.1, h.2.2.2.2.2.2⟩

theorem isPhysical_eq_of_cmp_eq {a b : GraphEdge} (h : cmp a b = .eq) :
    a.isPhysical = b.isPhysical := by
  rw [isPhysical, isPhysical, (flags_eq_of_cmp_eq h).1, (flags_eq_of_cmp_eq h).2]

theorem startCmp_ne_gt_of_cmp_lt {a b : GraphEdge} (h : cmp a b = .lt) : startCmp a b ≠ .gt := by
  unfold cmp at h
  unfold startCmp
  cases h1 : compare a.router b.router <;> cases h2 : compare a.start.name b.start.name <;>
    simp_all [Ordering.then]

namespace Opposite

theorem symm {a b : GraphEdge} (h : Opposite a b) : Opposite b a := ⟨h.2.1, h.1, h.2.2.2, h.2.2.1⟩

theorem congr_right {a b c : GraphEdge} (h : Opposite a b) (hbc : SameEnds b c) : Opposite a c := by
  obtain ⟨h1, h2, h3, h4⟩ := h
  obtain ⟨e1, e2, e3, e4⟩ := hbc
  exact ⟨e1 ▸ h1, e3 ▸ h2, e2 ▸ h3, e4 ▸ h4⟩

theorem congr_left {a b c : GraphEdge} (h : Opposite a b) (hac : SameEnds a c) : Opposite c b :=
  (h.symm.congr_right hac).symm

theorem sameEnds {a b c : GraphEdge} (hb : Opposite a b) (hc : Opposite a c) : SameEnds b c := by
  obtain ⟨b1, b2, b3, b4⟩ := hb
  obtain ⟨c1, c2, c3, c4⟩ := hc
  refine ⟨Option.some.inj (b1.symm.trans c1), Option.some.inj (b3.symm.trans c3), b2.trans c2.symm,
    b4.trans c4.symm⟩

theorem sameEnds_of_startCmp_eq {a b : GraphEdge} (h : Opposite a b) (hs : startCmp a b = .eq) :
    SameEnds a b := by
  simp only [startCmp, Ordering.then_eq_eq, Std.compare_eq_iff_eq] at hs
  obtain ⟨h1, h2, h3, h4⟩ := h
  refine ⟨hs.1, hs.2, ?_, ?_⟩
  · rw [h1, h2, hs.1]
  · rw [h3, h4, hs.2]

end Opposite

end GraphEdge

end ControlPlane
