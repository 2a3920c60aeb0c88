import ControlPlane.Proofs.Check.Counters

/-!
# Load

`Instrument.load s dests` gives every router an integer variable, read as "the number of
forwarding paths from this router to the destinations". A router that delivers (it forwards out
of a destination edge that leaves the network, or absorbs the packets) has load 1. Any other
router has the sum, over its real edges that packets cross, of the load of the router across;
the sum saturates at `maxI64` at every addition, as the library adds.

Read over a forwarding state these are `Slice.LoadSolution`. They pin the load of a router only
where relaying from it, through routers that do not deliver, never closes a cycle
(`Slice.RelayAcyclic`). There every solution gives the number of forwarding paths to the first
delivering router they reach, saturated at `maxI64` (`LoadSolution.exact`). Around a cycle of
routers that do not deliver, any load equal all around solves the equations, and a router that
feeds such a cycle adds whatever it carries. A solution always exists (`loadSolution_loadOf`):
the saturated path counts where relaying closes no cycle, and `maxI64` where it does.
-/

namespace ControlPlane

namespace Slice

open Relation Term

variable {s : Slice} {m : Model} {D : String → Prop} {ld f g : String → Int} {r p : String}
  {e : GraphEdge}

def Relay (s : Slice) (m : Model) (D : String → Prop) (r p : String) : Prop := ¬D r ∧ s.Step m r p

def RelayAcyclic (s : Slice) (m : Model) (D : String → Prop) (r : String) : Prop :=
  ∀ q, ReflTransGen (s.Relay m D) r q → ¬TransGen (s.Relay m D) q q

/-- What the edge `e` of `r` brings to a sum over the steps out of `r`: `f` of the router
across when packets cross the real edge, and 0 otherwise. -/
def viaEdge (s : Slice) (m : Model) (f : String → Int) (r : String) (e : GraphEdge) : Int :=
  if !e.isAbstract && s.crosses m r e then
    match e.peer with
    | some p => f p
    | none => 0
  else 0

def loadSum (s : Slice) (m : Model) (ld : String → Int) (r : String) : Int :=
  (s.graph.edges r).foldl (fun a e => saturate (a + s.viaEdge m ld r e)) 0

/-- `ld` solves the load equations under `m`, with `D` the delivering routers: loads are not
negative, a delivering router has load 1, and any other router the saturated sum of the loads
of the routers it forwards to, each counted once per edge. -/
def LoadSolution (s : Slice) (m : Model) (D : String → Prop) (ld : String → Int) : Prop :=
  ∀ r ∈ s.graph.routers, 0 ≤ ld r ∧ (D r → ld r = 1) ∧ (¬D r → ld r = s.loadSum m ld r)

/-- The forwarding paths of at most `n` steps from `r` that end at the first router of `D` they
reach, counted with the edges they take: 1 in `D`, and otherwise the sum over the steps out of
`r`. -/
def paths (s : Slice) (m : Model) (D : String → Prop) [DecidablePred D] : Nat → String → Int
  | 0, r => if D r then 1 else 0
  | n + 1, r => if D r then 1 else
    (s.graph.edges r).foldl (fun a e => a + s.viaEdge m (s.paths m D n) r e) 0

/-- All the forwarding paths from `r` that end at the first router of `D` they reach, when
relaying from `r` closes no cycle: none is longer than the routers are many. -/
def pathCount (s : Slice) (m : Model) (D : String → Prop) [DecidablePred D] (r : String) : Int :=
  s.paths m D s.graph.routers.length r

section Sums

theorem viaEdge_cases (he : e ∈ s.graph.edges r) :
    (∀ f, s.viaEdge m f r e = 0) ∨ ∃ p, s.Step m r p ∧ ∀ f, s.viaEdge m f r e = f p := by
  unfold viaEdge
  cases hpe : e.peer with
  | none => exact .inl fun f => by split <;> rfl
  | some p =>
    by_cases hc : (!e.isAbstract && s.crosses m r e) = true
    · have hstep : s.Step m r p := by
        simp only [Bool.and_eq_true, Bool.not_eq_true'] at hc
        exact ⟨e, he, hc.1, hpe, hc.2⟩
      exact .inr ⟨p, hstep, fun f => by rw [if_pos hc]⟩
    · exact .inl fun f => by rw [if_neg hc]

theorem viaEdge_nonneg (hf : ∀ p, 0 ≤ f p) : 0 ≤ s.viaEdge m f r e := by
  unfold viaEdge
  split
  · rcases e.peer with _ | p
    · exact le_rfl
    · exact hf p
  · exact le_rfl

theorem foldl_add_nonneg {es : List GraphEdge} {w : GraphEdge → Int} (hw : ∀ e ∈ es, 0 ≤ w e)
    {a : Int} (ha : 0 ≤ a) : 0 ≤ es.foldl (fun a e => a + w e) a := by
  induction es generalizing a with
  | nil => exact ha
  | cons e es ih =>
    exact ih (fun e' he' => hw e' (List.mem_cons_of_mem e he'))
      (Int.add_nonneg ha (hw e List.mem_cons_self))

theorem foldl_saturate_mem {es : List GraphEdge} {v : GraphEdge → Int} {a : Int}
    (ha : minI64 ≤ a ∧ a ≤ maxI64) :
    minI64 ≤ es.foldl (fun a e => saturate (a + v e)) a ∧
      es.foldl (fun a e => saturate (a + v e)) a ≤ maxI64 := by
  induction es generalizing a with
  | nil => exact ha
  | cons e es ih => exact ih (saturate_mem _)

theorem saturate_min_add {b w : Int} (hb : 0 ≤ b) (hw : 0 ≤ w) :
    saturate (min b maxI64 + min w maxI64) = min (b + w) maxI64 := by
  unfold saturate minI64 maxI64
  split_ifs <;> omega

theorem foldl_saturate_min {es : List GraphEdge} {v w : GraphEdge → Int}
    (hw : ∀ e ∈ es, 0 ≤ w e ∧ v e = min (w e) maxI64) {b : Int} (hb : 0 ≤ b) :
    es.foldl (fun a e => saturate (a + v e)) (min b maxI64) =
      min (es.foldl (fun a e => a + w e) b) maxI64 := by
  induction es generalizing b with
  | nil => rfl
  | cons e es ih =>
    obtain ⟨hw0, hv⟩ := hw e List.mem_cons_self
    simp only [List.foldl_cons]
    rw [hv, saturate_min_add hb hw0]
    exact ih (fun e' he' => hw e' (List.mem_cons_of_mem e he')) (Int.add_nonneg hb hw0)

theorem saturate_add_nonneg {a v : Int} (ha : 0 ≤ a) (hv : 0 ≤ v) :
    0 ≤ saturate (a + v) ∧ (maxI64 ≤ a + v → saturate (a + v) = maxI64) := by
  unfold saturate minI64 maxI64
  constructor <;> split_ifs <;> omega

theorem foldl_saturate_eq_max {es : List GraphEdge} {v : GraphEdge → Int}
    (hv : ∀ e ∈ es, 0 ≤ v e) {a : Int} (ha : 0 ≤ a ∧ a ≤ maxI64)
    (hmax : a = maxI64 ∨ ∃ e ∈ es, v e = maxI64) :
    es.foldl (fun a e => saturate (a + v e)) a = maxI64 := by
  induction es generalizing a with
  | nil => simpa using hmax
  | cons e es ih =>
    have hv0 := hv e List.mem_cons_self
    have hsat := saturate_add_nonneg ha.1 hv0
    refine ih (fun e' he' => hv e' (List.mem_cons_of_mem e he')) ⟨hsat.1, (saturate_mem _).2⟩ ?_
    rcases hmax with rfl | ⟨e', he', hmax⟩
    · exact .inl (hsat.2 (by omega))
    · rcases List.mem_cons.1 he' with rfl | he'
      · exact .inl (hsat.2 (by omega))
      · exact .inr ⟨e', he', hmax⟩

end Sums

theorem paths_nonneg [DecidablePred D] : ∀ n r, 0 ≤ s.paths m D n r
  | 0, r => by
    unfold paths
    split_ifs <;> decide
  | n + 1, r => by
    unfold paths
    split_ifs
    · decide
    · exact foldl_add_nonneg (fun _ _ => viaEdge_nonneg (paths_nonneg n)) le_rfl

section Relaying

theorem Relay.mem_routers (hg : s.graph.WellFormed) (h : s.Relay m D r p) :
    r ∈ s.graph.routers ∧ p ∈ s.graph.routers :=
  h.2.mem_routers hg

theorem RelayAcyclic.of_relay (hu : s.RelayAcyclic m D r) (hs : s.Relay m D r p) :
    s.RelayAcyclic m D p :=
  fun q hq => hu q (.head hs hq)

theorem relayAcyclic_of_mem (hD : D r) : s.RelayAcyclic m D r := fun q hq hcyc => by
  rcases hq.cases_head with rfl | ⟨p, hs, -⟩
  · obtain ⟨p, hs, -⟩ := TransGen.head'_iff.1 hcyc
    exact hs.1 hD
  · exact hs.1 hD

theorem exists_relay_of_not_relayAcyclic (hu : ¬s.RelayAcyclic m D r) :
    ∃ p, s.Relay m D r p ∧ ¬s.RelayAcyclic m D p := by
  simp only [RelayAcyclic, not_forall, not_not] at hu
  obtain ⟨q, hrq, hcyc⟩ := hu
  rcases hrq.cases_head with rfl | ⟨p, hs, hpq⟩
  · obtain ⟨p, hs, hpq⟩ := TransGen.head'_iff.1 hcyc
    exact ⟨p, hs, fun hp => hp r hpq hcyc⟩
  · exact ⟨p, hs, fun hp => hp q hpq hcyc⟩

open Classical in
noncomputable def relayBelow (s : Slice) (m : Model) (D : String → Prop) (r : String) :
    List String :=
  s.graph.routers.filter fun q => decide (TransGen (s.Relay m D) r q)

theorem length_relayBelow_le : (s.relayBelow m D r).length ≤ s.graph.routers.length :=
  List.length_filter_le _ _

theorem length_relayBelow_lt (hg : s.graph.WellFormed) (hu : s.RelayAcyclic m D r)
    (hs : s.Relay m D r p) : (s.relayBelow m D p).length < (s.relayBelow m D r).length := by
  classical
  have hsub : List.Sublist (s.relayBelow m D p) (s.relayBelow m D r) :=
    List.monotone_filter_right _ fun q hq => by
      simp only [decide_eq_true_eq] at hq ⊢
      exact .head hs hq
  have hp : p ∈ s.relayBelow m D r := by
    simpa [relayBelow] using ⟨(hs.mem_routers hg).2, TransGen.single hs⟩
  have hnp : p ∉ s.relayBelow m D p := by
    simpa [relayBelow] using fun _ => hu p (.single hs)
  refine lt_of_le_of_ne hsub.length_le fun hlen => hnp ?_
  rwa [hsub.eq_of_length hlen]

/-- Induction over the routers from which relaying closes no cycle: what holds of such a router
whenever it holds of every router it relays to holds of them all. -/
theorem RelayAcyclic.induction (hg : s.graph.WellFormed) {P : String → Prop}
    (step : ∀ r ∈ s.graph.routers, s.RelayAcyclic m D r → (∀ p, s.Relay m D r p → P p) → P r)
    (hr : r ∈ s.graph.routers) (hu : s.RelayAcyclic m D r) : P r := by
  -- on the number of routers below
  induction hk : (s.relayBelow m D r).length using Nat.strong_induction_on generalizing r with
  | _ k ih =>
    exact step r hr hu fun p hs =>
      ih _ (hk ▸ length_relayBelow_lt hg hu hs) (hs.mem_routers hg).2 (hu.of_relay hs) rfl

end Relaying

section Paths

variable [DecidablePred D]

theorem paths_eq_zero_of_no_relay (hD : ¬D r) (hno : ∀ p, ¬s.Step m r p) (n : Nat) :
    s.paths m D n r = 0 := by
  cases n with
  | zero => simp [paths, hD]
  | succ n =>
    rw [paths, if_neg hD, List.foldl_ext _ (fun a _ => a + 0) 0 fun a e he => ?_]
    · simp
    · rcases viaEdge_cases he with h | ⟨p, hstep, -⟩
      · rw [h]
      · exact absurd hstep (hno p)

theorem paths_eq_zero (hno : ¬s.Reaches m D r) (n : Nat) : s.paths m D n r = 0 := by
  induction n generalizing r with
  | zero => rw [paths, if_neg fun hD => hno ⟨r, .refl, hD⟩]
  | succ n ih =>
    have hD : ¬D r := fun hD => hno ⟨r, .refl, hD⟩
    rw [paths, if_neg hD, List.foldl_ext _ (fun a _ => a + 0) 0 fun a e he => ?_]
    · simp
    · rcases viaEdge_cases he with h | ⟨p, hstep, h⟩
      · rw [h]
      · rw [h, ih fun hp => hno (hp.head hstep)]

variable (hg : s.graph.WellFormed)
include hg

theorem paths_eq_of_relayAcyclic (hr : r ∈ s.graph.routers) (hu : s.RelayAcyclic m D r) :
    ∀ n k, (s.relayBelow m D r).length ≤ n → (s.relayBelow m D r).length ≤ k →
      s.paths m D n r = s.paths m D k r := by
  refine RelayAcyclic.induction hg (P := fun r => ∀ n k, (s.relayBelow m D r).length ≤ n →
    (s.relayBelow m D r).length ≤ k → s.paths m D n r = s.paths m D k r) ?_ hr hu
  intro r hr hu ih n k hn hk
  by_cases hD : D r
  · cases n <;> cases k <;> simp [paths, hD]
  by_cases hno : ∀ p, ¬s.Step m r p
  · rw [paths_eq_zero_of_no_relay hD hno, paths_eq_zero_of_no_relay hD hno]
  -- a relay puts a router below, so both counts look at least one step ahead
  obtain ⟨q, hq⟩ := not_forall_not.1 hno
  have hpos := length_relayBelow_lt hg hu ⟨hD, hq⟩
  obtain ⟨n, rfl⟩ : ∃ n', n = n' + 1 := ⟨n - 1, by omega⟩
  obtain ⟨k, rfl⟩ : ∃ k', k = k' + 1 := ⟨k - 1, by omega⟩
  rw [paths, paths, if_neg hD, if_neg hD]
  refine List.foldl_ext _ _ 0 fun a e he => ?_
  rcases viaEdge_cases he with h | ⟨p, hstep, h⟩
  · rw [h, h]
  · have hlt := length_relayBelow_lt hg hu ⟨hD, hstep⟩
    rw [h, h, ih p ⟨hD, hstep⟩ n k (by omega) (by omega)]

end Paths

section Solution

variable (hg : s.graph.WellFormed) (h : s.LoadSolution m D ld)
include h

theorem LoadSolution.mem_range (hr : r ∈ s.graph.routers) : minI64 ≤ ld r ∧ ld r ≤ maxI64 := by
  obtain ⟨h0, hD, hnD⟩ := h r hr
  refine ⟨le_trans (by decide) h0, ?_⟩
  by_cases hd : D r
  · rw [hD hd]; decide
  · rw [hnD hd]
    exact (foldl_saturate_mem (by decide)).2

include hg

/-- Where relaying closes no cycle, a solution gives the paths of at least as many steps as
routers lie below, saturated at `maxI64`. -/
theorem LoadSolution.eq_min_paths [DecidablePred D] (hr : r ∈ s.graph.routers)
    (hu : s.RelayAcyclic m D r) :
    ∀ n, (s.relayBelow m D r).length ≤ n → ld r = min (s.paths m D n r) maxI64 := by
  refine RelayAcyclic.induction hg (P := fun r => ∀ n, (s.relayBelow m D r).length ≤ n →
    ld r = min (s.paths m D n r) maxI64) ?_ hr hu
  intro r hr hu ih n hn
  obtain ⟨-, hD1, hnD⟩ := h r hr
  by_cases hD : D r
  · have h1 : min (1 : Int) maxI64 = 1 := by decide
    rw [hD1 hD]
    cases n <;> simp [paths, hD, h1]
  -- one step further changes nothing, and unfolds the count into the sum over the edges
  rw [hnD hD, paths_eq_of_relayAcyclic hg hr hu n (n + 1) hn (by omega), paths, if_neg hD, loadSum,
    show (0 : Int) = min 0 maxI64 by decide]
  refine foldl_saturate_min (fun e he => ?_) le_rfl
  rcases viaEdge_cases he with hz | ⟨p, hstep, hp⟩
  · rw [hz, hz]
    decide
  · have hlt := length_relayBelow_lt hg hu ⟨hD, hstep⟩
    rw [hp, hp]
    exact ⟨paths_nonneg n p, ih p ⟨hD, hstep⟩ n (by omega)⟩

end Solution

/-- What every solution of the load equations says about the forwarding of `m`: at a router
from which relaying closes no cycle, the load is the number of forwarding paths to the first
delivering router they reach, saturated at `maxI64`, and 0 when no delivering router is
reached. -/
def LoadsExact (s : Slice) (m : Model) (D : String → Prop) [DecidablePred D] (ld : String → Int) :
    Prop :=
  ∀ r ∈ s.graph.routers, s.RelayAcyclic m D r →
    ld r = min (s.pathCount m D r) maxI64 ∧ (¬s.Reaches m D r → ld r = 0)

theorem LoadSolution.exact [DecidablePred D] (hg : s.graph.WellFormed) (h : s.LoadSolution m D ld) :
    s.LoadsExact m D ld := by
  intro r hr hu
  have hcount := h.eq_min_paths hg hr hu _ length_relayBelow_le
  refine ⟨hcount, fun hno => ?_⟩
  rw [hcount, paths_eq_zero hno]
  decide

open Classical in
/-- Loads read off the forwarding state: the saturated path count where relaying closes no
cycle, and `maxI64` where it does. -/
noncomputable def loadOf (s : Slice) (m : Model) (D : String → Prop) (r : String) : Int :=
  if s.RelayAcyclic m D r then min (s.pathCount m D r) maxI64 else maxI64

theorem loadOf_nonneg : 0 ≤ s.loadOf m D r := by
  classical
  unfold loadOf
  split_ifs
  · exact le_min (paths_nonneg _ _) (by decide)
  · decide

theorem loadSolution_loadOf (hg : s.graph.WellFormed) : s.LoadSolution m D (s.loadOf m D) := by
  classical
  intro r hr
  -- the routers are not none, so every count looks at least one step ahead
  obtain ⟨N, hN⟩ : ∃ N, s.graph.routers.length = N + 1 :=
    ⟨s.graph.routers.length - 1, by have := List.length_pos_of_mem hr; omega⟩
  refine ⟨loadOf_nonneg, fun hD => ?_, fun hD => ?_⟩
  · have h1 : min (1 : Int) maxI64 = 1 := by decide
    simp [loadOf, relayAcyclic_of_mem hD, pathCount, hN, paths, hD, h1]
  by_cases hu : s.RelayAcyclic m D r
  · rw [loadOf, if_pos hu, pathCount, hN, paths, if_neg hD, loadSum,
      show (0 : Int) = min 0 maxI64 by decide]
    refine (foldl_saturate_min (fun e he => ?_) le_rfl).symm
    rcases viaEdge_cases he with hz | ⟨p, hstep, hp⟩
    · rw [hz, hz]
      decide
    · -- the router relayed to has fewer routers below, and its count is already final
      have hs : s.Relay m D r p := ⟨hD, hstep⟩
      have hlt := length_relayBelow_lt hg hu hs
      have hle := length_relayBelow_le (s := s) (m := m) (D := D) (r := r)
      rw [hp, hp, loadOf, if_pos (hu.of_relay hs), pathCount,
        paths_eq_of_relayAcyclic hg (hs.mem_routers hg).2 (hu.of_relay hs) s.graph.routers.length N
          (by omega) (by omega)]
      exact ⟨paths_nonneg N p, rfl⟩
  · rw [loadOf, if_neg hu, loadSum]
    obtain ⟨p, hs, hp⟩ := exists_relay_of_not_relayAcyclic hu
    obtain ⟨e, he, ha, hpe, hc⟩ := hs.2
    refine (foldl_saturate_eq_max (fun e _ => viaEdge_nonneg fun _ => loadOf_nonneg)
      ⟨le_rfl, by decide⟩ (.inr ⟨e, he, ?_⟩)).symm
    simp [viaEdge, ha, hc, hpe, loadOf, hp]

theorem loadSum_congr (hg : s.graph.WellFormed) (hfg : ∀ p ∈ s.graph.routers, f p = g p) :
    s.loadSum m f r = s.loadSum m g r :=
  List.foldl_ext _ _ 0 fun a e he => by
    rcases viaEdge_cases he with h | ⟨p, hstep, h⟩
    · rw [h, h]
    · rw [h, h, hfg p (hstep.mem_routers hg).2]

theorem LoadSolution.congr (hg : s.graph.WellFormed) (hfg : ∀ p ∈ s.graph.routers, f p = g p)
    (h : s.LoadSolution m D f) : s.LoadSolution m D g := by
  intro r hr
  rw [← hfg r hr, ← loadSum_congr hg hfg]
  exact h r hr

end Slice

namespace Instrument

open Encode Build Term Slice

variable {s : Slice} {m : Model} {dests : List GraphEdge} {ld : String → Int} {r : String}

/-- `r` delivers the packets as the load counts them: it forwards out of a destination edge that
leaves the network, or absorbs the packets. Unlike reachability, a host does not deliver by
having a destination edge alone. -/
def loadDelivers (s : Slice) (m : Model) (dests : List GraphEdge) (r : String) : Bool :=
  (destEdges s dests r).any (fun e => e.peer.isNone && s.crosses m r e) || absorbs s m dests r

def loadEquation (s : Slice) (m : Model) (dests : List GraphEdge) (ld : String → Int)
    (r : String) : Bool :=
  if loadDelivers s m dests r then ld r == 1 else ld r == s.loadSum m ld r

theorem loadSolution_iff_forall : s.LoadSolution m (loadDelivers s m dests · = true) ld ↔
    ∀ r ∈ s.graph.routers, 0 ≤ ld r ∧ loadEquation s m dests ld r = true := by
  refine forall₂_congr fun r _ => and_congr_right fun _ => ?_
  unfold loadEquation
  by_cases hd : loadDelivers s m dests r = true <;> simp [hd]

/-- What the load instrumentation adds: it returns the counter of every router, and its
assertions hold under a model that decides the counters and the delivery exactly when the
counters solve the load equations. -/
theorem load_spec (hg : s.graph.WellFormed) (hcov : s.Covers)
    (hdst : s.packet.dstIp.sort = .bitVec 32) (dests : List GraphEdge) {a0 : List Term} :
    Spec (fun c => FreshUnder (familyPrefix s "load") [] c ∧ c.assertions.toList = a0)
      (load s dests)
      fun loads c => (∀ p ∈ s.graph.routers, loads.get? p = some (counter s "load" p)) ∧
        ∃ new, c.assertions.toList = a0 ++ new ∧ ∀ m, CountersDecided s "load" m →
          DeliveryDecided s m →
          (m.Satisfies new ↔ s.LoadSolution m (loadDelivers s m dests · = true)
            (countIn s "load" m)) := by
  unfold load
  refine Spec.bind (boundedCounters_spec hg "load" 0) fun loads => ?_
  refine Spec.assume fun hloads => Spec.of_exists fun new0 => Spec.assume fun hnew0 => ?_
  refine Spec.bind (Spec.mono (Spec.forIn (fun pre (_ : PUnit) c => ∃ new,
      (∀ m, CountersDecided s "load" m → DeliveryDecided s m → (m.Satisfies new ↔
        ∀ x ∈ pre, loadEquation s m dests (countIn s "load" m) x.1 = true)) ∧
      c.assertions.toList = a0 ++ new0 ++ new) ?entry)
      (fun c hc => ⟨[], fun m _ _ => by simp [Model.Satisfies], by simpa using hc⟩)
      (fun _ _ h => h)) fun _ => ?_
  case entry =>
    intro pre x post u hxs
    obtain ⟨r, edges⟩ := x
    obtain ⟨hr, rfl⟩ := hg.mem_entries_iff.1 (hxs ▸ List.mem_append_right pre List.mem_cons_self)
    refine Spec.of_exists fun new => Spec.assume fun hnew => ?_
    have hld : loads.getD r (.int 0) = counter s "load" r := by
      simp [NameMap.getD, hloads r hr]
    dsimp only
    rw [hld]
    refine Spec.bind (Spec.mono (Spec.forIn (fun pre' (d : Term) c =>
        (∀ m, CountersDecided s "load" m → DeliveryDecided s m → m.eval d =
          .ok (.bool (pre'.any fun e => e.peer.isNone && s.crosses m r e))) ∧
        c.assertions.toList = a0 ++ new0 ++ new) ?dest)
        (fun c hc => ⟨fun m _ _ => rfl, hc⟩) (fun _ _ h => h)) fun direct => ?_
    case dest =>
      intro pre' e post' d hxs'
      have he : e ∈ destEdges s dests r := by
        rw [destEdges, hxs']
        exact List.mem_append_right pre' List.mem_cons_self
      have he' := List.mem_filter.1 he
      have ha : e.isAbstract = false := by
        have h2 := he'.2
        simp only [Bool.and_eq_true, Bool.not_eq_true'] at h2
        exact h2.1
      refine Spec.assume fun hd => ?_
      split
      · next hpeer =>
        obtain ⟨t, hft, ht⟩ := Slice.forwardsAcross_ok hcov he'.1 ha
        refine Spec.bind (Spec.liftOk hft) fun fwd => Spec.assume fun hfwd => ?_
        subst hfwd
        refine Spec.bind (Spec.term (G := fun m => CountersDecided s "load" m ∧ DeliveryDecided s m)
          (keeps_either _ _) fun m hm => builds_either (hd m hm.1 hm.2)
            (Slice.eval_crosses hm.1.decides ht)) fun d' => Spec.assume fun hd' => ?_
        refine Spec.pure fun c hc => ⟨_, rfl, fun m hm hdm => ?_, hc⟩
        rw [hd' m ⟨hm, hdm⟩, List.any_append]
        simp [hpeer]
      · next hpeer =>
        refine Spec.pure fun c hc => ⟨_, rfl, fun m hm hdm => ?_, hc⟩
        rw [hd m hm hdm, List.any_append]
        simp [hpeer]
    refine Spec.assume fun hdirect => ?_
    refine Spec.bind (Spec.term (G := fun m => CountersDecided s "load" m ∧ DeliveryDecided s m)
      (keeps_absorbed _ _) fun m hm => builds_absorbed hdst hm.2 dests r) fun abs =>
        Spec.assume fun habs => ?_
    refine Spec.bind (Spec.mono (Spec.forIn (fun pre' (acc : Term) c =>
        ((∀ m, CountersDecided s "load" m → m.eval acc = .ok (.int (pre'.foldl
          (fun a e => saturate (a + s.viaEdge m (countIn s "load" m) r e)) 0))) ∧
          acc.sort = .int) ∧
        c.assertions.toList = a0 ++ new0 ++ new) ?edge)
        (fun c hc => ⟨⟨fun m _ => rfl, rfl⟩, hc⟩) (fun _ _ h => h)) fun acc => ?_
    case edge =>
      intro pre' e post' acc hxs'
      have he : e ∈ s.graph.edges r := hxs' ▸ List.mem_append_right pre' List.mem_cons_self
      refine Spec.assume fun hacc => ?_
      -- the sum so far is a 64-bit integer, so an edge that adds nothing keeps it
      have hmem : ∀ m : Model, minI64 ≤ pre'.foldl
          (fun a e => saturate (a + s.viaEdge m (countIn s "load" m) r e)) 0 ∧
          pre'.foldl (fun a e => saturate (a + s.viaEdge m (countIn s "load" m) r e)) 0 ≤
            maxI64 :=
        fun m => foldl_saturate_mem (by decide)
      split
      · next ha =>
        have ha : e.isAbstract = false := by simpa using ha
        obtain ⟨t, hft, ht⟩ := Slice.forwardsAcross_ok hcov he ha
        refine Spec.bind (Spec.liftOk hft) fun fwd => Spec.assume fun hfwd => ?_
        subst hfwd
        split
        · next peerLoad hpeer =>
          obtain ⟨p, hp, hpid⟩ := Option.bind_eq_some_iff.1 hpeer
          have hpR := hg.peer_mem r e he p hp
          rw [hloads p hpR] at hpid
          cases hpid
          refine Spec.bind (Spec.condInt (G := CountersDecided s "load")
            (fun m hm => Slice.eval_crosses hm.decides ht) (fun m hm => hm.eval_counter hpR)
            (fun m _ => rfl) rfl rfl) fun sel => Spec.assume fun hsel => ?_
          refine Spec.bind (Spec.plus (G := CountersDecided s "load") hacc.1 hsel.1
            (fun m _ => hmem m) (fun m hm => by split; exacts [hm.countIn_mem hpR, by decide])
            hacc.2 hsel.2) fun sum => Spec.assume fun hsum => ?_
          refine Spec.pure fun c hc => ⟨_, rfl, ⟨fun m hm => ?_, hsum.2⟩, hc⟩
          rw [hsum.1 m hm, List.foldl_append]
          simp [viaEdge, ha, hp]
        · next hpeer =>
          -- every peer is a router, so an edge is skipped only without a peer
          have hnone : e.peer = none := by
            cases hp : e.peer with
            | none => rfl
            | some p => simp [hp, hloads p (hg.peer_mem r e he p hp)] at hpeer
          refine Spec.pure fun c hc => ⟨_, rfl, ⟨fun m hm => ?_, hacc.2⟩, hc⟩
          have hz : s.viaEdge m (countIn s "load" m) r e = 0 := by simp [viaEdge, hnone]
          rw [hacc.1 m hm, List.foldl_append, List.foldl_cons, List.foldl_nil, hz, Int.add_zero,
            saturate_eq (hmem m)]
      · next ha =>
        have ha : e.isAbstract = true := by simpa using ha
        refine Spec.pure fun c hc => ⟨_, rfl, ⟨fun m hm => ?_, hacc.2⟩, hc⟩
        have hz : s.viaEdge m (countIn s "load" m) r e = 0 := by simp [viaEdge, ha]
        rw [hacc.1 m hm, List.foldl_append, List.foldl_cons, List.foldl_nil, hz, Int.add_zero,
          saturate_eq (hmem m)]
    refine Spec.assume fun hacc => ?_
    refine Spec.bind (Spec.term (G := fun m => CountersDecided s "load" m ∧ DeliveryDecided s m)
      (keeps_either _ _) fun m hm => builds_either (hdirect m hm.1 hm.2) (habs m hm))
      fun t1 => Spec.assume fun ht1 => ?_
    refine Spec.bind (Spec.term (keeps_equals _ _) fun m (hm : CountersDecided s "load" m) =>
      builds_equals (m := m) (hm.eval_counter hr) rfl rfl rfl rfl) fun t2 => Spec.assume fun ht2 => ?_
    refine Spec.bind (Spec.term (keeps_equals _ _) fun m (hm : CountersDecided s "load" m) =>
      builds_equals (hm.eval_counter hr) (hacc.1 m hm) (by rw [hacc.2]; rfl) rfl
        (by rw [hacc.2]; rfl)) fun t3 => Spec.assume fun ht3 => ?_
    refine Spec.bind (Spec.term (G := fun m => CountersDecided s "load" m ∧ DeliveryDecided s m)
      (keeps_cond _ _ _) fun m hm => builds_cond (ht1 m hm) (ht2 m hm.1) (ht3 m hm.1))
      fun t4 => Spec.assume fun ht4 => ?_
    refine Spec.bind Spec.assert fun _ => Spec.pure fun c hc =>
      ⟨_, rfl, new ++ asserted t4, fun m hm hd => ?_, by simp [hc]⟩
    rw [Model.satisfies_append, hnew m hm hd, satisfies_asserted_iff,
      Model.evalBool_eq_true_iff (ht4 m ⟨hm, hd⟩), List.forall_mem_append,
      List.forall_mem_singleton]
    simp [loadEquation, loadDelivers, loadSum, destEdges, beq_eq_decide]
  refine Spec.of_exists fun new => Spec.assume fun hnew => Spec.pure fun c hc =>
    ⟨hloads, new0 ++ new, by simp [hc], fun m hm hd => ?_⟩
  rw [Model.satisfies_append, hnew0 m hm, hnew m hm hd, loadSolution_iff_forall,
    hg.forall_entries (P := fun r _ => loadEquation s m dests (countIn s "load" m) r = true),
    ← forall₂_and]

section Solutions

variable {c : Context} {new : List Term} {m' : Model}

theorem loadDelivers_of_agree (hreg : ReadsRegistered s c) (hm : m'.AgreeOn c m) (r : String) :
    loadDelivers s m' dests r = loadDelivers s m dests r := by
  simp only [loadDelivers, absorbs, Slice.crosses_of_agree hreg.crossing hm,
    eval_of_agree hm hreg.dstIp]
  cases h : s.bestOf? r .connected with
  | none => rfl
  | some conn => simp only [Model.holds, eval_of_agree hm (hreg.permitted r conn h)]; rfl

theorem loadSolution_of_agree (hreg : ReadsRegistered s c) (hm : m'.AgreeOn c m) :
    s.LoadSolution m' (loadDelivers s m' dests · = true) ld ↔
      s.LoadSolution m (loadDelivers s m dests · = true) ld := by
  simp only [Slice.LoadSolution, Slice.loadSum, Slice.viaEdge, loadDelivers_of_agree hreg hm,
    Slice.crosses_of_agree hreg.crossing hm]

variable (hsol : ∀ m, CountersDecided s "load" m → DeliveryDecided s m → (m.Satisfies new ↔
  s.LoadSolution m (loadDelivers s m dests · = true) (countIn s "load" m)))
include hsol

/-- Every solution of the equations under `m` is the loads of a solution of the
assertions. -/
theorem exists_loadExtension (hg : s.graph.WellFormed)
    (hfresh : FreshUnder (familyPrefix s "load") [] c) (hreg : ReadsRegistered s c)
    (hd : s.Decides m) (hdd : DeliveryDecided s m)
    (hld : s.LoadSolution m (loadDelivers s m dests · = true) ld) :
    ∃ m', CounterExtension s "load" c new m m' ∧
      ∀ r ∈ s.graph.routers, countIn s "load" m' r = ld r := by
  obtain ⟨m', hagree, hdec, hval⟩ :=
    exists_counted hg hfresh hreg.crossing hd ld fun r hr => hld.mem_range hr
  refine ⟨m', ⟨hagree, hdec, (hsol m' hdec (hdd.of_agree hreg hagree)).2 ?_⟩, hval⟩
  rw [loadSolution_of_agree hreg hagree]
  exact hld.congr hg fun p hp => (hval p hp).symm

theorem CounterExtension.loadSolution (hreg : ReadsRegistered s c) (hdd : DeliveryDecided s m)
    (h : CounterExtension s "load" c new m m') :
    s.LoadSolution m (loadDelivers s m dests · = true) (countIn s "load" m') :=
  (loadSolution_of_agree hreg h.1).1 ((hsol m' h.2.1 (hdd.of_agree hreg h.1)).1 h.2.2)

end Solutions

/-- The load instrumentation, exactly: the solutions of its assertions are those of the load
equations, one always exists, and where relaying closes no cycle the load is the saturated
number of forwarding paths to the first delivering router, 0 when none is reached. -/
theorem load_exact {c : Context} (hg : s.graph.WellFormed) (hcov : s.Covers)
    (hdst : s.packet.dstIp.sort = .bitVec 32) (hfresh : FreshUnder (familyPrefix s "load") [] c)
    (hreg : ReadsRegistered s c) (dests : List GraphEdge) :
    ∃ loads new, ((load s dests).runOn c).1 = .ok loads ∧
      ((load s dests).runOn c).2.assertions.toList = c.assertions.toList ++ new ∧
      (∀ p ∈ s.graph.routers, loads.get? p = some (counter s "load" p)) ∧
      ∀ m, s.Decides m → DeliveryDecided s m →
        (∃ m', CounterExtension s "load" c new m m' ∧ ∀ r ∈ s.graph.routers,
          countIn s "load" m' r = s.loadOf m (loadDelivers s m dests · = true) r) ∧
        (∀ ld, s.LoadSolution m (loadDelivers s m dests · = true) ld →
          ∃ m', CounterExtension s "load" c new m m' ∧
            ∀ r ∈ s.graph.routers, countIn s "load" m' r = ld r) ∧
        ∀ m', CounterExtension s "load" c new m m' →
          s.LoadsExact m (loadDelivers s m dests · = true) (countIn s "load" m') := by
  obtain ⟨loads, hrun, hloads, new, hnew, hsol⟩ := load_spec hg hcov hdst dests c ⟨hfresh, rfl⟩
  refine ⟨loads, new, hrun, hnew, hloads, fun m hd hdd => ⟨?_, fun ld hld => ?_, fun m' hm' => ?_⟩⟩
  · exact exists_loadExtension hsol hg hfresh hreg hd hdd (Slice.loadSolution_loadOf hg)
  · exact exists_loadExtension hsol hg hfresh hreg hd hdd hld
  · exact (hm'.loadSolution hsol hreg hdd).exact hg

/-- In the multipath slice with no destination edge, no router delivers and `R` reaches none,
yet the load assertions have a solution in which `R` has load 1: `R` and `P` forward to each
other, and any load equal on both solves their equations. -/
theorem load_carried_around_cycle :
    ∃ new, ((load multipathSlice []).runOn {}).2.assertions.toList = new ∧
      ∃ m', CounterExtension multipathSlice "load" {} new {} m' ∧
        countIn multipathSlice "load" m' "R" = 1 ∧
        ¬multipathSlice.Reaches {} (loadDelivers multipathSlice {} [] · = true) "R" := by
  have hfresh : FreshUnder (familyPrefix multipathSlice "load") [] {} := fun _ _ => by simp
  obtain ⟨-, new, -, hnew, -, hall⟩ := load_exact (c := {}) multipath_wellFormed multipath_covers
    rfl hfresh multipath_registered []
  have hnd : ∀ r, loadDelivers multipathSlice {} [] r = false := fun r => by
    simp [loadDelivers, destEdges, absorbs, multipath_bestOf, Ordered.contains]
  -- `D` forwards out of the network and carries nothing; `R` and `P` carry 1 around their cycle
  have hsol : multipathSlice.LoadSolution {} (loadDelivers multipathSlice {} [] · = true)
      fun r => if r = "D" then 0 else 1 := by
    intro r hr
    simp only [Graph.routers, multipathSlice, NameMap.keys, List.map, List.mem_cons,
      List.not_mem_nil, or_false] at hr
    rcases hr with rfl | rfl | rfl <;>
      exact ⟨by decide, fun h => by simp [hnd] at h, fun _ => by decide⟩
  obtain ⟨m', hm', hval⟩ := (hall {} multipath_decides multipath_deliveryDecided).2.1 _ hsol
  refine ⟨new, by simpa using hnew, m', hm', hval "R" (by decide), ?_⟩
  rintro ⟨d, -, hd⟩
  simp [hnd] at hd

end Instrument
end ControlPlane
