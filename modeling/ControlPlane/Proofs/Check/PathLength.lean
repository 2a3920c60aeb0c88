import ControlPlane.Proofs.Check.Counters
import Mathlib.Data.Nat.Find

/-!
# Path length

`Instrument.pathLength` gives every router an integer read as its number of forwarding steps to a
destination edge, or `-1`. Over a forwarding state these are `Slice.LengthSolution`: the shortest
lengths always solve them, and every solution is exact below `maxI64`. Addition saturates at
`maxI64`, which is one more than itself, so routers that forward around a cycle may all take it
(`pathLength_saturated_cycle`).
-/

namespace ControlPlane

namespace Term

theorem saturate_le_max (i : Int) : saturate i ≤ maxI64 := by
  unfold saturate minI64 maxI64
  split_ifs <;> omega

theorem one_le_saturate {i : Int} (h : 1 ≤ i) : 1 ≤ saturate i := by
  unfold saturate minI64 maxI64
  split_ifs <;> omega

theorem saturate_eq_of_lt_max {i : Int} (h0 : 0 ≤ i) (h : saturate i < maxI64) : saturate i = i := by
  unfold saturate minI64 maxI64 at *
  split_ifs at * <;> omega

theorem saturate_min_succ {k : Int} (h : 0 ≤ k) : saturate (min k maxI64 + 1) = min (k + 1) maxI64 := by
  unfold saturate minI64 maxI64
  split_ifs <;> omega

end Term

namespace Slice

open Relation Term

variable {s : Slice} {m : Model} {D : String → Prop} {len : String → Int} {r p : String} {n : Nat}

def ReachesIn (s : Slice) (m : Model) (D : String → Prop) : Nat → String → Prop
  | 0, r => D r
  | n + 1, r => ∃ p, s.Step m r p ∧ s.ReachesIn m D n p

theorem reaches_iff_exists_reachesIn : s.Reaches m D r ↔ ∃ n, s.ReachesIn m D n r := by
  constructor
  · rintro ⟨d, hrd, hd⟩
    induction hrd using ReflTransGen.head_induction_on with
    | refl => exact ⟨0, hd⟩
    | head hstep _ ih =>
      obtain ⟨n, hn⟩ := ih
      exact ⟨n + 1, _, hstep, hn⟩
  · rintro ⟨n, hn⟩
    induction n generalizing r with
    | zero => exact ⟨r, .refl, hn⟩
    | succ n ih =>
      obtain ⟨q, hstep, hq⟩ := hn
      exact (ih hq).head hstep

open Classical in
/-- The number of steps of the shortest forwarding path from `r` to a router of `D`, saturated
at `maxI64`, or `-1` when there is none. -/
noncomputable def shortest (s : Slice) (m : Model) (D : String → Prop) (r : String) : Int :=
  if h : ∃ n, s.ReachesIn m D n r then min (Nat.find h : Int) maxI64 else -1

/-- `len` solves the path-length equations under `m`, with `D` the direct routers: lengths are
at least `-1`, direct routers have length 0, and any other router has length `-1` when every
router it steps to has a negative length, or else one more than that of some router it steps to
with a non-negative length, the sum saturating. -/
def LengthSolution (s : Slice) (m : Model) (D : String → Prop) (len : String → Int) : Prop :=
  ∀ r ∈ s.graph.routers, -1 ≤ len r ∧ (D r → len r = 0) ∧ (¬D r →
    ((∀ p, s.Step m r p → len p < 0) ∧ len r = -1) ∨
    ∃ p, s.Step m r p ∧ 0 ≤ len p ∧ len r = saturate (len p + 1))

section Solution

variable (hg : s.graph.WellFormed) (h : s.LengthSolution m D len)
include h

theorem LengthSolution.le_max (hr : r ∈ s.graph.routers) : len r ≤ maxI64 := by
  obtain ⟨-, hD, hnD⟩ := h r hr
  by_cases hd : D r
  · rw [hD hd]; decide
  · rcases hnD hd with ⟨-, h1⟩ | ⟨p, -, -, h1⟩
    · rw [h1]; decide
    · exact h1 ▸ saturate_le_max _

theorem LengthSolution.mem_range (hr : r ∈ s.graph.routers) : minI64 ≤ len r ∧ len r ≤ maxI64 :=
  ⟨le_trans (by decide) (h r hr).1, h.le_max hr⟩

theorem LengthSolution.eq_zero_iff (hr : r ∈ s.graph.routers) : len r = 0 ↔ D r := by
  obtain ⟨-, hD, hnD⟩ := h r hr
  refine ⟨fun h0 => Classical.byContradiction fun hd => ?_, hD⟩
  rcases hnD hd with ⟨-, h1⟩ | ⟨p, -, hp, h1⟩
  · omega
  · have := one_le_saturate (i := len p + 1) (by omega)
    omega

theorem LengthSolution.exists_step_pred (hr : r ∈ s.graph.routers) (hd : ¬D r) (h0 : 0 ≤ len r)
    (hmax : len r < maxI64) : ∃ p, s.Step m r p ∧ 0 ≤ len p ∧ len r = len p + 1 := by
  rcases (h r hr).2.2 hd with ⟨-, h1⟩ | ⟨p, hstep, hp, h1⟩
  · omega
  · refine ⟨p, hstep, hp, ?_⟩
    rw [h1] at hmax ⊢
    exact saturate_eq_of_lt_max (by omega) hmax

include hg

theorem LengthSolution.nonneg_of_reachesIn (hr : r ∈ s.graph.routers) (hn : s.ReachesIn m D n r) :
    0 ≤ len r := by
  induction n generalizing r with
  | zero => rw [(h r hr).2.1 hn]
  | succ n ih =>
    obtain ⟨q, hstep, hq⟩ := hn
    have hq0 := ih (hstep.mem_routers hg).2 hq
    obtain ⟨-, hD, hnD⟩ := h r hr
    by_cases hd : D r
    · rw [hD hd]
    · rcases hnD hd with ⟨hneg, -⟩ | ⟨p, -, hp, h1⟩
      · exact absurd (hneg q hstep) (not_lt.2 hq0)
      · have := one_le_saturate (i := len p + 1) (by omega)
        omega

theorem LengthSolution.reachesIn_of_lt_max (hr : r ∈ s.graph.routers) (h0 : 0 ≤ len r)
    (hmax : len r < maxI64) : s.ReachesIn m D (len r).toNat r := by
  induction hk : (len r).toNat generalizing r with
  | zero =>
    have : len r = 0 := by omega
    exact (h.eq_zero_iff hr).1 this
  | succ k ih =>
    have hd : ¬D r := fun hd => by rw [(h r hr).2.1 hd] at hk; simp at hk
    obtain ⟨p, hstep, hp, h1⟩ := h.exists_step_pred hr hd h0 hmax
    exact ⟨p, hstep, ih (hstep.mem_routers hg).2 hp (by omega) (by omega)⟩

theorem LengthSolution.not_reaches_of_eq_neg_one (hr : r ∈ s.graph.routers) (h1 : len r = -1) :
    ¬s.Reaches m D r := fun hreach => by
  obtain ⟨n, hn⟩ := reaches_iff_exists_reachesIn.1 hreach
  have := h.nonneg_of_reachesIn hg hr hn
  omega

theorem LengthSolution.eq_neg_one_or_max (hr : r ∈ s.graph.routers) (hno : ¬s.Reaches m D r) :
    len r = -1 ∨ len r = maxI64 := by
  have hlo := (h r hr).1
  have hhi := h.le_max hr
  refine (lt_or_eq_of_le hhi).elim (fun hlt => .inl ?_) .inr
  by_contra hne
  exact hno (reaches_iff_exists_reachesIn.2
    ⟨_, h.reachesIn_of_lt_max hg hr (by omega) hlt⟩)

theorem LengthSolution.shortest_le (hr : r ∈ s.graph.routers) (hreach : s.Reaches m D r) :
    s.shortest m D r ≤ len r := by
  classical
  have hex := reaches_iff_exists_reachesIn.1 hreach
  have hlen : 0 ≤ len r := by
    obtain ⟨n, hn⟩ := hex
    exact h.nonneg_of_reachesIn hg hr hn
  rw [shortest, dif_pos hex]
  rcases lt_or_eq_of_le (h.le_max hr) with hlt | heq
  · have hfind := Nat.find_min' hex (h.reachesIn_of_lt_max hg hr hlen hlt)
    omega
  · omega

end Solution

section Shortest

open Classical

theorem exists_step_find_pred (hd : ¬D r) (hex : ∃ n, s.ReachesIn m D n r) :
    ∃ p, s.Step m r p ∧ ∃ hp : ∃ n, s.ReachesIn m D n p, Nat.find hex = Nat.find hp + 1 := by
  have hspec := Nat.find_spec hex
  cases hk : Nat.find hex with
  | zero => rw [hk] at hspec; exact absurd hspec hd
  | succ k =>
    rw [hk] at hspec
    obtain ⟨p, hstep, hp⟩ := hspec
    have hpex : ∃ n, s.ReachesIn m D n p := ⟨k, hp⟩
    refine ⟨p, hstep, hpex, ?_⟩
    have hle : Nat.find hpex ≤ k := Nat.find_min' hpex hp
    -- a shorter path from `p` would give a shorter one from `r`
    have hge : k ≤ Nat.find hpex := by
      have hsucc : s.ReachesIn m D (Nat.find hpex + 1) r := ⟨p, hstep, Nat.find_spec hpex⟩
      have := Nat.find_min' hex hsucc
      omega
    omega

theorem shortest_nonneg_iff : 0 ≤ s.shortest m D p ↔ ∃ n, s.ReachesIn m D n p := by
  unfold shortest
  split_ifs with h
  · exact iff_of_true (le_min (Int.natCast_nonneg _) (by decide)) h
  · exact iff_of_false (by decide) h

theorem lengthSolution_shortest : s.LengthSolution m D (s.shortest m D) := by
  intro r hr
  refine ⟨?_, fun hd => ?_, fun hd => ?_⟩
  · unfold shortest
    split_ifs
    · exact le_trans (by decide) (le_min (Int.natCast_nonneg _) (by decide))
    · exact le_refl _
  · have hex : ∃ n, s.ReachesIn m D n r := ⟨0, hd⟩
    rw [shortest, dif_pos hex, (Nat.find_eq_zero hex).2 hd]
    rfl
  · by_cases hex : ∃ n, s.ReachesIn m D n r
    · right
      obtain ⟨p, hstep, hpex, hk⟩ := exists_step_find_pred hd hex
      refine ⟨p, hstep, shortest_nonneg_iff.2 hpex, ?_⟩
      rw [shortest, shortest, dif_pos hex, dif_pos hpex, hk, saturate_min_succ (Int.natCast_nonneg _)]
      push_cast
      rfl
    · left
      refine ⟨fun p hstep => ?_, by rw [shortest, dif_neg hex]⟩
      have hpno : ¬∃ n, s.ReachesIn m D n p := fun ⟨n, hn⟩ => hex ⟨n + 1, p, hstep, hn⟩
      rw [shortest, dif_neg hpno]
      decide

end Shortest

/-- What every solution of the path-length equations says about the forwarding of `m`: direct
routers and only they have length 0; a length below `maxI64` at a router that is not direct is
one more than the non-negative length of a router it steps to, so it is the length of a
forwarding path to a direct router, and no shorter than the shortest one; a router of length
`-1` has no such path, and a router without one has `-1` or the saturated `maxI64`. -/
def LengthsExact (s : Slice) (m : Model) (D : String → Prop) (len : String → Int) : Prop :=
  ∀ r ∈ s.graph.routers,
    (len r = 0 ↔ D r) ∧
    (¬D r → 0 ≤ len r → len r < maxI64 → ∃ p, s.Step m r p ∧ 0 ≤ len p ∧ len r = len p + 1) ∧
    (0 ≤ len r → len r < maxI64 → s.ReachesIn m D (len r).toNat r) ∧
    (s.Reaches m D r → s.shortest m D r ≤ len r) ∧
    (len r = -1 → ¬s.Reaches m D r) ∧
    (¬s.Reaches m D r → len r = -1 ∨ len r = maxI64)

theorem LengthSolution.exact (hg : s.graph.WellFormed) (h : s.LengthSolution m D len) :
    s.LengthsExact m D len := fun _ hr =>
  ⟨h.eq_zero_iff hr, h.exists_step_pred hr, h.reachesIn_of_lt_max hg hr, h.shortest_le hg hr,
    h.not_reaches_of_eq_neg_one hg hr, h.eq_neg_one_or_max hg hr⟩

end Slice

namespace Instrument

open Encode Build Term Slice

variable {s : Slice} {m : Model} {dests : List GraphEdge} {len : String → Int} {r : String}

def sendsToDest (s : Slice) (m : Model) (dests : List GraphEdge) (r : String) : Bool :=
  (destEdges s dests r).any (s.crosses m r)

/-- No length comes to `r` through its edge `e`: the edge is abstract or leaves the network,
packets do not cross it, or its peer's length is negative. -/
def noLengthVia (s : Slice) (m : Model) (len : String → Int) (r : String) (e : GraphEdge) : Bool :=
  match e.peer with
  | some p => e.isAbstract || decide (len p < 0) || !s.crosses m r e
  | none => true

/-- `r` takes its length through its edge `e`: packets cross the real edge to a router of
non-negative length, and `r`'s length is one more, the sum saturating. -/
def lengthVia (s : Slice) (m : Model) (len : String → Int) (r : String) (e : GraphEdge) : Bool :=
  !e.isAbstract && match e.peer with
    | some p => decide (0 ≤ len p) && s.crosses m r e && decide (len r = saturate (len p + 1))
    | none => false

def lengthEquation (s : Slice) (m : Model) (dests : List GraphEdge) (len : String → Int)
    (r : String) : Bool :=
  if sendsToDest s m dests r then len r == 0
  else if (s.graph.edges r).all (noLengthVia s m len r) then len r == -1
  else (s.graph.edges r).any (lengthVia s m len r)

theorem all_noLengthVia_iff :
    (s.graph.edges r).all (noLengthVia s m len r) = true ↔ ∀ p, s.Step m r p → len p < 0 := by
  simp only [List.all_eq_true, Slice.Step]
  constructor
  · rintro h p ⟨e, he, ha, hpe, hc⟩
    simpa [noLengthVia, ha, hpe, hc] using h e he
  · intro h e he
    cases hpe : e.peer with
    | none => simp [noLengthVia, hpe]
    | some p =>
      by_cases hs : e.isAbstract = false ∧ s.crosses m r e = true
      · simp [noLengthVia, hpe, h p ⟨e, he, hs.1, hpe, hs.2⟩]
      · cases ha : e.isAbstract <;> simp_all [noLengthVia]

theorem any_lengthVia_iff :
    (s.graph.edges r).any (lengthVia s m len r) = true ↔
      ∃ p, s.Step m r p ∧ 0 ≤ len p ∧ len r = saturate (len p + 1) := by
  simp only [List.any_eq_true, Slice.Step]
  constructor
  · rintro ⟨e, he, hv⟩
    cases hpe : e.peer with
    | none => simp [lengthVia, hpe] at hv
    | some p =>
      simp only [lengthVia, hpe, Bool.and_eq_true, Bool.not_eq_true', decide_eq_true_eq] at hv
      exact ⟨p, ⟨e, he, hv.1, hpe, hv.2.1.2⟩, hv.2.1.1, hv.2.2⟩
  · rintro ⟨p, ⟨e, he, ha, hpe, hc⟩, hp, hlen⟩
    exact ⟨e, he, by simp [lengthVia, ha, hpe, hc, hp, hlen]⟩

/-- The assertion of a router as its equation: a router with no step to a non-negative length
has no step through which it takes its length, so the two branches of the assertion are the
two cases of the equation. -/
theorem lengthEquation_iff : lengthEquation s m dests len r = true ↔
    (sendsToDest s m dests r = true → len r = 0) ∧ (¬sendsToDest s m dests r = true →
      ((∀ p, s.Step m r p → len p < 0) ∧ len r = -1) ∨
      ∃ p, s.Step m r p ∧ 0 ≤ len p ∧ len r = saturate (len p + 1)) := by
  unfold lengthEquation
  by_cases hd : sendsToDest s m dests r = true
  · simp [hd]
  · rw [if_neg hd]
    cases hall : (s.graph.edges r).all (noLengthVia s m len r)
    · have hsome : ¬∀ p, s.Step m r p → len p < 0 := by
        rw [← all_noLengthVia_iff, hall]
        decide
      rw [if_neg Bool.false_ne_true, any_lengthVia_iff]
      simp [hd, hsome]
    · have hnone : ¬∃ p, s.Step m r p ∧ 0 ≤ len p ∧ len r = saturate (len p + 1) :=
        fun ⟨p, hstep, hp, _⟩ => absurd (all_noLengthVia_iff.1 hall p hstep) (not_lt.2 hp)
      rw [if_pos rfl, beq_iff_eq]
      exact ⟨fun h => ⟨(absurd · hd), fun _ => .inl ⟨all_noLengthVia_iff.1 hall, h⟩⟩,
        fun h => (h.2 hd).elim (·.2) (absurd · hnone)⟩

theorem lengthSolution_iff_forall : s.LengthSolution m (sendsToDest s m dests · = true) len ↔
    ∀ r ∈ s.graph.routers, -1 ≤ len r ∧ lengthEquation s m dests len r = true := by
  unfold Slice.LengthSolution
  simp only [lengthEquation_iff]

/-- What the path-length instrumentation adds: it returns the counter of every router, and its
assertions hold under a model that decides the counters exactly when the counters solve the
path-length equations, the direct routers being those that cross a destination edge. -/
theorem pathLength_spec (hg : s.graph.WellFormed) (hcov : s.Covers) (dests : List GraphEdge)
    {a0 : List Term} :
    Spec (fun c => FreshUnder (familyPrefix s "path-length") [] c ∧ c.assertions.toList = a0)
      (pathLength s dests)
      fun lens c => (∀ p ∈ s.graph.routers, lens.get? p = some (counter s "path-length" p)) ∧
        ∃ new, c.assertions.toList = a0 ++ new ∧ ∀ m, CountersDecided s "path-length" m →
          (m.Satisfies new ↔ s.LengthSolution m (sendsToDest s m dests · = true)
            (countIn s "path-length" m)) := by
  unfold pathLength
  refine Spec.bind (boundedCounters_spec hg "path-length" (-1)) fun lens => ?_
  refine Spec.assume fun hlens => Spec.of_exists fun new0 => Spec.assume fun hnew0 => ?_
  refine Spec.bind (Spec.mono (Spec.forIn (fun pre (_ : PUnit) c => ∃ new,
      (∀ m, CountersDecided s "path-length" m → (m.Satisfies new ↔
        ∀ x ∈ pre, lengthEquation s m dests (countIn s "path-length" m) x.1 = true)) ∧
      c.assertions.toList = a0 ++ new0 ++ new) ?entry)
      (fun c hc => ⟨[], fun m _ => by simp [Model.Satisfies], by simpa using hc⟩)
      (fun _ _ h => h)) fun _ => ?_
  case entry =>
    intro pre x post u hxs
    obtain ⟨r, edges⟩ := x
    obtain ⟨hr, rfl⟩ := hg.mem_entries_iff.1 (hxs ▸ List.mem_append_right pre List.mem_cons_self)
    refine Spec.of_exists fun new => Spec.assume fun hnew => ?_
    have hlen : lens.getD r (.int 0) = counter s "path-length" r := by
      simp [NameMap.getD, hlens r hr]
    dsimp only
    rw [hlen]
    refine Spec.bind (Spec.mono (Spec.forIn (fun pre' (d : Term) c =>
        (∀ m, CountersDecided s "path-length" m → m.eval d = .ok (.bool (pre'.any fun e =>
          (!e.isAbstract && Ordered.contains GraphEdge.cmp e dests) && s.crosses m r e))) ∧
        c.assertions.toList = a0 ++ new0 ++ new) ?dest)
        (fun c hc => ⟨fun m _ => rfl, hc⟩) (fun _ _ h => h)) fun direct => ?_
    case dest =>
      intro pre' e post' d hxs'
      have he : e ∈ s.graph.edges r := hxs' ▸ List.mem_append_right pre' List.mem_cons_self
      refine Spec.assume fun hd => ?_
      split
      · next hcond =>
        have ha : e.isAbstract = false := by simp_all
        obtain ⟨t, hft, ht⟩ := Slice.forwardsAcross_ok hcov he ha
        refine Spec.bind (Spec.liftOk hft) fun fwd => Spec.assume fun hfwd => ?_
        subst hfwd
        refine Spec.bind (Spec.term (keeps_either _ _) fun m hm =>
          builds_either (hd m hm) (Slice.eval_crosses hm.decides ht)) fun d' =>
            Spec.assume fun hd' => Spec.pure fun c hc => ⟨_, rfl, fun m hm => ?_, hc⟩
        rw [hd' m hm, List.any_append]
        simp [hcond]
      · next hcond =>
        rw [Bool.not_eq_true] at hcond
        refine Spec.pure fun c hc => ⟨_, rfl, fun m hm => ?_, hc⟩
        rw [hd m hm, List.any_append]
        simp [hcond]
    refine Spec.assume fun hdirect => ?_
    -- the two accumulators: every step leads to a negative length, and some step gives the
    -- length
    refine Spec.bind (Spec.mono (Spec.forIn (fun pre' (acc : Term × Term) c =>
        (∀ m, CountersDecided s "path-length" m →
          m.eval acc.1 = .ok (.bool (pre'.all (noLengthVia s m (countIn s "path-length" m) r))) ∧
          m.eval acc.2 = .ok (.bool (pre'.any (lengthVia s m (countIn s "path-length" m) r)))) ∧
        c.assertions.toList = a0 ++ new0 ++ new) ?edge)
        (fun c hc => ⟨fun m _ => ⟨rfl, rfl⟩, hc⟩) (fun _ _ h => h)) fun acc => ?_
    case edge =>
      intro pre' e post' acc hxs'
      have he : e ∈ s.graph.edges r := hxs' ▸ List.mem_append_right pre' List.mem_cons_self
      refine Spec.assume fun hacc => ?_
      split
      · next ha =>
        have ha : e.isAbstract = false := by simpa using ha
        split
        · next peerLen hpeer =>
          obtain ⟨p, hp, hpid⟩ := Option.bind_eq_some_iff.1 hpeer
          have hpR := hg.peer_mem r e he p hp
          rw [hlens p hpR] at hpid
          cases hpid
          obtain ⟨t, hft, ht⟩ := Slice.forwardsAcross_ok hcov he ha
          have hfwd : ∀ m, CountersDecided s "path-length" m →
              m.eval t = .ok (.bool (s.crosses m r e)) := fun m hm =>
            Slice.eval_crosses hm.decides ht
          refine Spec.bind (Spec.liftOk hft) fun fwd => Spec.assume fun hfwd_eq => ?_
          subst hfwd_eq
          refine Spec.bind (Spec.term (keeps_lt _ _) fun m (hm : CountersDecided s "path-length" m) =>
            builds_lt (m := m) (hm.eval_counter hpR) rfl) fun neg => Spec.assume fun hneg => ?_
          refine Spec.bind (Spec.term (keeps_neg _) fun m hm => builds_neg (hfwd m hm))
            fun off => Spec.assume fun hoff => ?_
          refine Spec.bind (Spec.term (keeps_either _ _) fun m hm =>
            builds_either (hneg m hm) (hoff m hm)) fun blocked => Spec.assume fun hblocked => ?_
          refine Spec.bind (Spec.term (keeps_both _ _) fun m hm =>
            builds_both (hacc m hm).1 (hblocked m hm)) fun accNone => Spec.assume fun haccNone => ?_
          refine Spec.bind (Spec.term (keeps_ge _ _) fun m (hm : CountersDecided s "path-length" m) =>
            builds_le (m := m) rfl (hm.eval_counter hpR)) fun up => Spec.assume fun hup => ?_
          refine Spec.bind (Spec.plus (G := CountersDecided s "path-length")
            (fun m hm => hm.eval_counter hpR) (fun m _ => rfl) (fun m hm => hm.countIn_mem hpR)
            (fun _ _ => by decide) rfl rfl) fun sum => Spec.assume fun hsum => ?_
          refine Spec.bind (Spec.term (keeps_equals _ _) fun m (hm : CountersDecided s "path-length" m) =>
            builds_equals (hm.eval_counter hr) (hsum.1 m hm) (by rw [hsum.2]; rfl) rfl
              (by rw [hsum.2]; rfl)) fun eq => Spec.assume fun heq => ?_
          refine Spec.bind (Spec.term (keeps_allOf _) fun m hm =>
            builds_allOf (evalAll_triple (hup m hm) (hfwd m hm) (heq m hm))) fun via =>
              Spec.assume fun hvia => ?_
          refine Spec.bind (Spec.term (keeps_either _ _) fun m hm =>
            builds_either (hacc m hm).2 (hvia m hm)) fun accSome => Spec.assume fun haccSome => ?_
          refine Spec.pure fun c hc => ⟨_, rfl, fun m hm => ⟨?_, ?_⟩, hc⟩
          · rw [haccNone m hm, List.all_append]
            simp [noLengthVia, ha, hp]
          · rw [haccSome m hm, List.any_append]
            simp [lengthVia, ha, hp, beq_eq_decide]
        · next hpeer =>
          -- every peer is a router, so an edge is skipped only without a peer
          have hnone : e.peer = none := by
            cases hp : e.peer with
            | none => rfl
            | some p => simp [hp, hlens p (hg.peer_mem r e he p hp)] at hpeer
          refine Spec.pure fun c hc => ⟨_, rfl, fun m hm => ?_, hc⟩
          rw [List.all_append, List.any_append]
          simpa [noLengthVia, lengthVia, hnone] using hacc m hm
      · next ha =>
        have ha : e.isAbstract = true := by simpa using ha
        refine Spec.pure fun c hc => ⟨_, rfl, fun m hm => ?_, hc⟩
        rw [List.all_append, List.any_append]
        cases hpe : e.peer <;> simpa [noLengthVia, lengthVia, ha, hpe] using hacc m hm
    refine Spec.assume fun hacc => ?_
    refine Spec.bind (Spec.term (keeps_equals _ _) fun m (hm : CountersDecided s "path-length" m) =>
      builds_equals (m := m) (hm.eval_counter hr) rfl rfl rfl rfl) fun t1 => Spec.assume fun ht1 => ?_
    refine Spec.bind (Spec.term (keeps_cond _ _ _) fun m hm =>
      builds_cond (hacc m hm).1 (ht1 m hm) (hacc m hm).2) fun t2 => Spec.assume fun ht2 => ?_
    refine Spec.bind (Spec.term (keeps_equals _ _) fun m (hm : CountersDecided s "path-length" m) =>
      builds_equals (m := m) (hm.eval_counter hr) rfl rfl rfl rfl) fun t3 => Spec.assume fun ht3 => ?_
    refine Spec.bind (Spec.term (keeps_cond _ _ _) fun m hm =>
      builds_cond (hdirect m hm) (ht3 m hm) (ht2 m hm)) fun t4 => Spec.assume fun ht4 => ?_
    refine Spec.bind Spec.assert fun _ => Spec.pure fun c hc =>
      ⟨_, rfl, new ++ asserted t4, fun m hm => ?_, by simp [hc]⟩
    rw [Model.satisfies_append, hnew m hm, satisfies_asserted_iff,
      Model.evalBool_eq_true_iff (ht4 m hm), List.forall_mem_append, List.forall_mem_singleton]
    simp [lengthEquation, sendsToDest, destEdges, List.any_filter, beq_eq_decide]
  refine Spec.of_exists fun new => Spec.assume fun hnew => Spec.pure fun c hc =>
    ⟨hlens, new0 ++ new, by simp [hc], fun m hm => ?_⟩
  rw [Model.satisfies_append, hnew0 m hm, hnew m hm, lengthSolution_iff_forall,
    hg.forall_entries (P := fun r _ =>
      lengthEquation s m dests (countIn s "path-length" m) r = true), ← forall₂_and]

section Solutions

variable {c : Context} {new : List Term} {m' : Model}

theorem sendsToDest_of_agree (hreg : s.RegisteredIn c) (hm : m'.AgreeOn c m) (r : String) :
    sendsToDest s m' dests r = sendsToDest s m dests r := by
  unfold sendsToDest
  congr 1
  funext e
  exact Slice.crosses_of_agree hreg hm

theorem lengthSolution_of_agree (hreg : s.RegisteredIn c) (hm : m'.AgreeOn c m) :
    s.LengthSolution m' (sendsToDest s m' dests · = true) len ↔
      s.LengthSolution m (sendsToDest s m dests · = true) len := by
  simp only [Slice.LengthSolution, sendsToDest_of_agree hreg hm, Slice.step_of_agree hreg hm]

variable (hsol : ∀ m, CountersDecided s "path-length" m → (m.Satisfies new ↔
  s.LengthSolution m (sendsToDest s m dests · = true) (countIn s "path-length" m)))
include hsol

/-- Every solution of the equations under `m` is the lengths of a solution of the
assertions. -/
theorem exists_lengthExtension (hg : s.graph.WellFormed)
    (hfresh : FreshUnder (familyPrefix s "path-length") [] c) (hreg : s.RegisteredIn c)
    (hd : s.Decides m) (hlen : s.LengthSolution m (sendsToDest s m dests · = true) len) :
    ∃ m', CounterExtension s "path-length" c new m m' ∧
      ∀ r ∈ s.graph.routers, countIn s "path-length" m' r = len r := by
  obtain ⟨m', hagree, hdec, hval⟩ :=
    exists_counted hg hfresh hreg hd len fun r hr => hlen.mem_range hr
  refine ⟨m', ⟨hagree, hdec, (hsol m' hdec).2 ?_⟩, hval⟩
  rw [lengthSolution_of_agree hreg hagree]
  intro r hr
  -- the equations read the lengths of routers only
  simp only [hval r hr]
  refine ⟨(hlen r hr).1, (hlen r hr).2.1, fun hnd => ?_⟩
  rcases (hlen r hr).2.2 hnd with ⟨hall, h1⟩ | ⟨p, hstep, hp, h1⟩
  · exact .inl ⟨fun p hstep => by rw [hval p (hstep.mem_routers hg).2]; exact hall p hstep, h1⟩
  · exact .inr ⟨p, hstep, by rw [hval p (hstep.mem_routers hg).2]; exact ⟨hp, h1⟩⟩

theorem CounterExtension.lengthSolution (hreg : s.RegisteredIn c)
    (h : CounterExtension s "path-length" c new m m') :
    s.LengthSolution m (sendsToDest s m dests · = true) (countIn s "path-length" m') :=
  (lengthSolution_of_agree hreg h.1).1 ((hsol m' h.2.1).1 h.2.2)

end Solutions

/-- The path-length instrumentation, exactly: the solutions of its assertions are those of the
path-length equations, the saturated shortest lengths (`-1` without a path) are one, and every
solution is exact in the sense of `Slice.LengthsExact`. -/
theorem pathLength_exact {c : Context} (hg : s.graph.WellFormed) (hcov : s.Covers)
    (hfresh : FreshUnder (familyPrefix s "path-length") [] c) (hreg : s.RegisteredIn c)
    (dests : List GraphEdge) :
    ∃ lens new, ((pathLength s dests).runOn c).1 = .ok lens ∧
      ((pathLength s dests).runOn c).2.assertions.toList = c.assertions.toList ++ new ∧
      (∀ p ∈ s.graph.routers, lens.get? p = some (counter s "path-length" p)) ∧
      ∀ m, s.Decides m →
        (∃ m', CounterExtension s "path-length" c new m m' ∧ ∀ r ∈ s.graph.routers,
          countIn s "path-length" m' r = s.shortest m (sendsToDest s m dests · = true) r) ∧
        (∀ len, s.LengthSolution m (sendsToDest s m dests · = true) len →
          ∃ m', CounterExtension s "path-length" c new m m' ∧
            ∀ r ∈ s.graph.routers, countIn s "path-length" m' r = len r) ∧
        ∀ m', CounterExtension s "path-length" c new m m' →
          s.LengthsExact m (sendsToDest s m dests · = true) (countIn s "path-length" m') := by
  obtain ⟨lens, hrun, hlens, new, hnew, hsol⟩ := pathLength_spec hg hcov dests c ⟨hfresh, rfl⟩
  refine ⟨lens, new, hrun, hnew, hlens, fun m hd => ⟨?_, fun len hlen => ?_, fun m' hm' => ?_⟩⟩
  · exact exists_lengthExtension hsol hg hfresh hreg hd Slice.lengthSolution_shortest
  · exact exists_lengthExtension hsol hg hfresh hreg hd hlen
  · exact (hm'.lengthSolution hsol hreg).exact hg

/-- In the slice where `S` forwards into the cycle of `A` and `B` and no edge is a destination,
no router has a forwarding path to a direct one, yet the path-length assertions have a solution
in which `S` has length `maxI64`: saturated, `maxI64` is one more than itself around the
cycle. -/
theorem pathLength_saturated_cycle :
    ∃ new, ((pathLength tailSlice []).runOn {}).2.assertions.toList = new ∧
      ∃ m', CounterExtension tailSlice "path-length" {} new {} m' ∧
        countIn tailSlice "path-length" m' "S" = maxI64 ∧
        ¬tailSlice.Reaches {} (sendsToDest tailSlice {} [] · = true) "S" := by
  have hfresh : FreshUnder (familyPrefix tailSlice "path-length") [] {} := fun _ _ => by simp
  obtain ⟨-, new, -, hnew, -, hall⟩ := pathLength_exact (c := {}) tail_wellFormed tail_covers
    hfresh (tail_registered {}) []
  have hnd : ∀ r, sendsToDest tailSlice {} [] r = false := fun r => by
    simp [sendsToDest, destEdges, Ordered.contains]
  -- every router steps to another, and `maxI64` is the saturated successor of itself
  have hsol : tailSlice.LengthSolution {} (sendsToDest tailSlice {} [] · = true)
      fun _ => maxI64 := by
    intro r hr
    have hstep : ∃ p, tailSlice.Step {} r p := by
      simp only [Graph.routers, tailSlice, NameMap.keys, List.map, List.mem_cons,
        List.not_mem_nil, or_false] at hr
      rcases hr with rfl | rfl | rfl
      · exact ⟨"B", tail_step_iff.2 (by simp)⟩
      · exact ⟨"A", tail_step_iff.2 (by simp)⟩
      · exact ⟨"A", tail_step_iff.2 (by simp)⟩
    obtain ⟨p, hp⟩ := hstep
    have hlo : (-1 : Int) ≤ maxI64 := by decide
    have hnn : (0 : Int) ≤ maxI64 := by decide
    have hsat : maxI64 = saturate (maxI64 + 1) := by decide
    exact ⟨hlo, fun h => by simp [hnd] at h, fun _ => .inr ⟨p, hp, hnn, hsat⟩⟩
  obtain ⟨m', hm', hval⟩ := ((hall {} (tail_decides {})).2.1) _ hsol
  refine ⟨new, by simpa using hnew, m', hm', hval "S" (by decide), ?_⟩
  rintro ⟨d, -, hd⟩
  simp [hnd] at hd

end Instrument
end ControlPlane
