import ControlPlane.Proofs.Check.Forwarding
import Mathlib.Data.Fintype.Card
import Mathlib.Data.Set.Finite.Basic

/-!
# Forwarding loops

`Instrument.loop s R` registers one boolean variable per router, read as "packets from this
router come back to `R`", asserts for every router that its variable equals the disjunction,
over its real edges that packets cross, of "the edge leads to `R`" and "the edge leads to a
router whose variable holds", and returns the variable of `R`.

Read over a forwarding state these are the equations `Slice.LoopSolution`. Their least
solution marks the routers with a forwarding path to `R`, and every solution contains it, so
the variable of `R` holds in every solution when `R` lies on a forwarding cycle. The equations
do not force the least solution, though: a router that forwards into a cycle avoiding `R` may
be marked too. The main statement, `loop_var_holds_iff`, says exactly what the assertions
allow: the variable of `R` holds in every solution iff `R` lies on a forwarding cycle, and in
some solution iff a forwarding path leads from `R` to a cycle. `loop_var_holds_off_cycle` is a
router that lies on no cycle and still has its variable set.
-/

namespace ControlPlane
namespace Slice

open Relation

variable {s : Slice} {m : Model} {R : String} {v : String → Bool}

/-- `v` solves the on-loop equations of `R` under `m`: a router is marked iff it takes a step
to `R` or to a marked router. -/
def LoopSolution (s : Slice) (m : Model) (R : String) (v : String → Bool) : Prop :=
  ∀ r ∈ s.graph.routers, v r = true ↔ ∃ p, s.Step m r p ∧ (p = R ∨ v p = true)

def ReachesCycle (s : Slice) (m : Model) (r : String) : Prop :=
  ∃ q, ReflTransGen (s.Step m) r q ∧ TransGen (s.Step m) q q

theorem LoopSolution.of_transGen (hv : s.LoopSolution m R v) (hg : s.graph.WellFormed) {r : String}
    (h : TransGen (s.Step m) r R) : v r = true := by
  induction h using TransGen.head_induction_on with
  | single hstep => exact (hv _ (hstep.mem_routers hg).1).2 ⟨R, hstep, .inl rfl⟩
  | head hstep _ ih => exact (hv _ (hstep.mem_routers hg).1).2 ⟨_, hstep, .inr ih⟩

theorem LoopSolution.transGen_or_reachesCycle (hv : s.LoopSolution m R v) (hg : s.graph.WellFormed)
    {r : String} (hr : r ∈ s.graph.routers) (h : v r = true) :
    TransGen (s.Step m) r R ∨ s.ReachesCycle m r := by
  refine or_iff_not_imp_left.2 fun hback => Classical.byContradiction fun hcyc => ?_
  -- the routers reachable from `r` carry no cycle, so stepping forward is well founded on them
  let T := {q | q ∈ s.graph.routers ∧ ReflTransGen (s.Step m) r q}
  have : Finite T := ((List.finite_toSet s.graph.routers).subset fun q hq => hq.1).to_subtype
  let after : T → T → Prop := fun a b => TransGen (s.Step m) b.1 a.1
  have : IsTrans T after := ⟨fun _ _ _ h₁ h₂ => h₂.trans h₁⟩
  have : Std.Irrefl after := ⟨fun a ha => hcyc ⟨a.1, a.2.2, ha⟩⟩
  -- a marked router that does not reach `R` steps to another one
  have hstuck : ∀ a : T, v a.1 = true → ¬TransGen (s.Step m) a.1 R → False := by
    intro a
    induction a using (Finite.wellFounded_of_trans_of_irrefl after).induction with
    | h a ih =>
      intro hva hna
      obtain ⟨p, hstep, hp⟩ := (hv a.1 a.2.1).1 hva
      rcases hp with rfl | hvp
      · exact hna (.single hstep)
      · exact ih ⟨p, (hstep.mem_routers hg).2, a.2.2.tail hstep⟩ (.single hstep) hvp
          fun hpR => hna (.head hstep hpR)
  exact hstuck ⟨r, hr, .refl⟩ h hback

open Classical in
theorem loopSolution_transGen : s.LoopSolution m R fun r => decide (TransGen (s.Step m) r R) := by
  intro r _
  rw [decide_eq_true_eq, TransGen.head'_iff]
  refine exists_congr fun p => and_congr_right fun _ => ?_
  rw [reflTransGen_iff_eq_or_transGen, decide_eq_true_eq, eq_comm]

open Classical in
theorem loopSolution_reachesCycle :
    s.LoopSolution m R fun r => decide (TransGen (s.Step m) r R ∨ s.ReachesCycle m r) := by
  intro r _
  simp only [decide_eq_true_eq]
  constructor
  · rintro (hback | ⟨q, hrq, hq⟩)
    · obtain ⟨p, hstep, hp⟩ := TransGen.head'_iff.1 hback
      rcases reflTransGen_iff_eq_or_transGen.1 hp with hpR | hp
      · exact ⟨p, hstep, .inl hpR.symm⟩
      · exact ⟨p, hstep, .inr (.inl hp)⟩
    · -- the path to the cycle, or the cycle itself, gives the first step
      rcases hrq.cases_head with hrq | ⟨p, hstep, hpq⟩
      · subst hrq
        obtain ⟨p, hstep, hpq⟩ := TransGen.head'_iff.1 hq
        exact ⟨p, hstep, .inr (.inr ⟨r, hpq, hq⟩)⟩
      · exact ⟨p, hstep, .inr (.inr ⟨q, hpq, hq⟩)⟩
  · rintro ⟨p, hstep, rfl | hback | ⟨q, hpq, hq⟩⟩
    · exact .inl (.single hstep)
    · exact .inl (.head hstep hback)
    · exact .inr ⟨q, .head hstep hpq, hq⟩

theorem LoopSolution.congr {w : String → Bool} (hg : s.graph.WellFormed)
    (hvw : ∀ p ∈ s.graph.routers, v p = w p) (hv : s.LoopSolution m R v) : s.LoopSolution m R w := by
  intro r hr
  rw [← hvw r hr, hv r hr]
  refine exists_congr fun p => and_congr_right fun hstep => ?_
  rw [hvw p (hstep.mem_routers hg).2]

end Slice

namespace Instrument

open Encode Build

variable {s : Slice} {R : String} {m : Model}

def loopPrefix (s : Slice) (R : String) : String := s.pre ++ "_" ++ "on-loop" ++ "_" ++ R ++ "_"

theorem varName_onLoop (s : Slice) (R r : String) :
    varName s "on-loop" (R ++ "_" ++ r) = loopPrefix s R ++ r := by
  simp only [varName, loopPrefix, String.append_assoc]

def loopVar (s : Slice) (R r : String) : Term := .var (loopPrefix s R ++ r) .bool

/-- The model gives every crossing term and every on-loop variable of `R` a boolean. -/
structure LoopDecided (s : Slice) (R : String) (m : Model) : Prop where
  decides : s.Decides m
  var_bool : ∀ p ∈ s.graph.routers, ∃ b, m.eval (loopVar s R p) = .ok (.bool b)

def marked (s : Slice) (R : String) (m : Model) (r : String) : Bool := m.holds (loopVar s R r)

theorem LoopDecided.eval_var (h : LoopDecided s R m) {p : String} (hp : p ∈ s.graph.routers) :
    m.eval (loopVar s R p) = .ok (.bool (marked s R m p)) := by
  obtain ⟨b, hb⟩ := h.var_bool p hp
  exact Model.eval_holds hb

def leadsBack (s : Slice) (m : Model) (R : String) (v : String → Bool) (r : String)
    (e : GraphEdge) : Bool :=
  !e.isAbstract && s.crosses m r e && match e.peer with
    | some p => p == R || v p
    | none => false

theorem any_leadsBack_iff {v : String → Bool} {r : String} :
    (s.graph.edges r).any (leadsBack s m R v r) = true ↔
      ∃ p, s.Step m r p ∧ (p = R ∨ v p = true) := by
  simp only [List.any_eq_true, Slice.Step]
  constructor
  · rintro ⟨e, he, hlb⟩
    simp only [leadsBack, Bool.and_eq_true, Bool.not_eq_true'] at hlb
    obtain ⟨⟨ha, hc⟩, hp⟩ := hlb
    cases hpe : e.peer with
    | none => simp [hpe] at hp
    | some p =>
      simp only [hpe, Bool.or_eq_true, beq_iff_eq] at hp
      exact ⟨p, ⟨e, he, ha, hpe, hc⟩, hp⟩
  · rintro ⟨p, ⟨e, he, ha, hpe, hc⟩, hp⟩
    exact ⟨e, he, by simp [leadsBack, ha, hc, hpe, hp]⟩

/-- What the loop instrumentation adds: it returns the on-loop variable of `R`, and its
assertions hold under a model that decides the variables exactly when the marked routers solve
the on-loop equations. -/
theorem loop_spec (hg : s.graph.WellFormed) (hcov : s.Covers) (hR : R ∈ s.graph.routers)
    {a0 : List Term} :
    Spec (fun c => FreshUnder (loopPrefix s R) [] c ∧ c.assertions.toList = a0) (loop s R)
      fun x c => x = loopVar s R R ∧ ∃ new, c.assertions.toList = a0 ++ new ∧
        ∀ m, LoopDecided s R m → (m.Satisfies new ↔ s.LoopSolution m R (marked s R m)) := by
  unfold loop
  refine Spec.bind (Spec.mono (Spec.forIn (fun pre (ol : NameMap Term) c =>
      (∀ p, ol.get? p = if p ∈ pre then some (loopVar s R p) else none) ∧
        FreshUnder (loopPrefix s R) pre c ∧ c.assertions.toList = a0) ?vars)
      (fun c hc => ⟨fun p => by simp, hc⟩) (fun _ _ h => h)) fun ol => ?_
  case vars =>
    intro pre r post ol hxs
    have hr : r ∉ pre := fun h =>
      (List.nodup_append.1 (hxs ▸ hg.nodup)).2.2 r h r List.mem_cons_self rfl
    dsimp only
    rw [varName_onLoop]
    refine Spec.assume fun hol => Spec.bind (Spec.mkVar_fresh hr .bool) fun v => Spec.pure ?_
    rintro c ⟨rfl, hf, ha⟩
    refine ⟨_, rfl, fun p => ?_, hf.mono (by simp), ha⟩
    by_cases hp : p = r <;> simp [hp, hol p, loopVar]
  refine Spec.assume fun hol => ?_
  have hget : ∀ p ∈ s.graph.routers, ol.get? p = some (loopVar s R p) := fun p hp => by
    simp [hol p, hp]
  refine Spec.bind (Spec.mono (Spec.forIn (fun pre (_ : PUnit) c => ∃ new,
      (∀ m, LoopDecided s R m → (m.Satisfies new ↔
        ∀ x ∈ pre, marked s R m x.1 = x.2.any (leadsBack s m R (marked s R m) x.1))) ∧
      c.assertions.toList = a0 ++ new) ?entry)
      (fun c hc => ⟨[], fun m _ => by simp [Model.Satisfies], by simpa using hc.2⟩)
      (fun _ _ h => h)) fun _ => ?_
  case entry =>
    intro pre x post u hxs
    obtain ⟨r, edges⟩ := x
    obtain ⟨hr, rfl⟩ := hg.mem_entries_iff.1 (hxs ▸ List.mem_append_right pre List.mem_cons_self)
    dsimp only
    refine Spec.of_exists fun new => Spec.assume fun hnew => ?_
    refine Spec.bind (Spec.mono (Spec.forIn (fun pre acc c =>
        (∀ m, LoopDecided s R m →
          m.eval acc = .ok (.bool (pre.any (leadsBack s m R (marked s R m) r)))) ∧
        c.assertions.toList = a0 ++ new) ?edge) (fun c hc => ⟨fun m _ => rfl, hc⟩)
        (fun _ _ h => h)) fun acc => ?_
    case edge =>
      intro pre e post acc hxs
      have he : e ∈ s.graph.edges r := hxs ▸ List.mem_append_right pre List.mem_cons_self
      refine Spec.assume fun hacc => ?_
      split
      · next ha =>
        have ha : e.isAbstract = false := by simpa using ha
        obtain ⟨t, hft, ht⟩ := Slice.forwardsAcross_ok hcov he ha
        have hfwd : ∀ m, LoopDecided s R m → m.eval t = .ok (.bool (s.crosses m r e)) :=
          fun m hm => Slice.eval_crosses hm.decides ht
        split
        · next p hp =>
          refine Spec.bind (Spec.liftOk hft) fun fwd => Spec.assume fun hfwd_eq => ?_
          subst hfwd_eq
          split
          · next hpR =>
            refine Spec.bind (Spec.term (keeps_either _ _) fun m hm =>
              builds_either (hacc m hm) (hfwd m hm)) fun acc' => Spec.assume fun hacc' =>
                Spec.pure fun c hc => ⟨acc', rfl, fun m hm => ?_, hc⟩
            rw [hacc' m hm, List.any_append]
            simp [leadsBack, ha, hp, hpR]
          · next hpR =>
            have hpr := hg.peer_mem r e he p hp
            rw [hget p hpr]
            refine Spec.bind (Spec.term (keeps_both _ _) fun m hm =>
              builds_both (hfwd m hm) (hm.eval_var hpr)) fun b => Spec.assume fun hb => ?_
            refine Spec.bind (Spec.term (keeps_either _ _) fun m hm =>
              builds_either (hacc m hm) (hb m hm)) fun acc' => Spec.assume fun hacc' =>
                Spec.pure fun c hc => ⟨acc', rfl, fun m hm => ?_, hc⟩
            rw [hacc' m hm, List.any_append]
            simp [leadsBack, ha, hp, hpR]
        · next hp =>
          have hnone : e.peer = none := Option.eq_none_iff_forall_ne_some.2 hp
          refine Spec.pure fun c hc => ⟨acc, rfl, fun m hm => ?_, hc⟩
          rw [hacc m hm, List.any_append]
          simp [leadsBack, hnone]
      · next ha =>
        refine Spec.pure fun c hc => ⟨acc, rfl, fun m hm => ?_, hc⟩
        rw [hacc m hm, List.any_append]
        simp [leadsBack, ha]
    refine Spec.assume fun hacc => ?_
    have hgetD : ol.getD r Term.ff = loopVar s R r := by simp [NameMap.getD, hget r hr]
    rw [hgetD]
    refine Spec.bind (Spec.term (keeps_equals _ _) fun m hm =>
      builds_equals_bool (hm.eval_var hr) (hacc m hm)) fun t => Spec.assume fun ht => ?_
    refine Spec.bind Spec.assert fun _ => Spec.pure fun c hc =>
      ⟨_, rfl, new ++ asserted t, fun m hm => ?_, by simp [hc]⟩
    rw [Model.satisfies_append, hnew m hm, satisfies_asserted_iff,
      Model.evalBool_eq_true_iff (ht m hm), List.forall_mem_append, List.forall_mem_singleton,
      beq_iff_eq]
  refine Spec.of_exists fun new => Spec.assume fun hnew => ?_
  rw [hget R hR]
  refine Spec.mono Spec.need (fun c hc => hc) fun x c hxc => ⟨hxc.1, new, hxc.2, fun m hm => ?_⟩
  rw [hnew m hm, hg.forall_entries (P := fun r es => marked s R m r = es.any (leadsBack s m R (marked s R m) r))]
  exact forall₂_congr fun r _ => by rw [Bool.eq_iff_iff, any_leadsBack_iff]

section Solutions

variable {c : Context} {new : List Term}

/-- `m'` extends `m` to a solution of the assertions `new`: it keeps the value of every name
registered in `c`, decides the crossing terms and the on-loop variables, and satisfies `new`. -/
def LoopExtension (s : Slice) (R : String) (c : Context) (new : List Term) (m m' : Model) : Prop :=
  m'.AgreeOn c m ∧ LoopDecided s R m' ∧ m'.Satisfies new

/-- Any marking of the routers is read off a model that keeps the values of the registered
names, when the on-loop variables are not registered. -/
theorem exists_marking (hg : s.graph.WellFormed) (hfresh : FreshUnder (loopPrefix s R) [] c)
    (hreg : s.RegisteredIn c) (hd : s.Decides m) (v : String → Bool) :
    ∃ m', m'.AgreeOn c m ∧ LoopDecided s R m' ∧ ∀ p ∈ s.graph.routers, marked s R m' p = v p := by
  let kvs := s.graph.routers.map fun p => (loopPrefix s R ++ p, Value.bool (v p))
  have hkeys : kvs.map Prod.fst = s.graph.routers.map (loopPrefix s R ++ ·) := by simp [kvs]
  have hnd : (kvs.map Prod.fst).Nodup :=
    hkeys ▸ hg.nodup.map fun _ _ h => (String.append_right_inj _).1 h
  have hagree : (m.setAll kvs).AgreeOn c m := fun n hn => Model.get?_setAll_of_not_mem fun hmem => by
    rw [hkeys] at hmem
    obtain ⟨p, -, rfl⟩ := List.mem_map.1 hmem
    simp [hfresh p List.not_mem_nil] at hn
  have hvar : ∀ p ∈ s.graph.routers, (m.setAll kvs).eval (loopVar s R p) = .ok (.bool (v p)) :=
    fun p hp => by
      have hmem : (loopPrefix s R ++ p, Value.bool (v p)) ∈ kvs := List.mem_map_of_mem hp
      simp [loopVar, Model.eval, Model.valueOf, Model.get?_setAll_of_mem hnd hmem]
  exact ⟨m.setAll kvs, hagree, ⟨hd.of_agree hreg hagree, fun p hp => ⟨_, hvar p hp⟩⟩,
    fun p hp => Model.holds_of_eval (hvar p hp)⟩

theorem loopSolution_iff_of_agree {m' : Model} {v : String → Bool} (hreg : s.RegisteredIn c)
    (hm : m'.AgreeOn c m) : s.LoopSolution m' R v ↔ s.LoopSolution m R v := by
  simp only [Slice.LoopSolution, Slice.step_of_agree hreg hm]

variable (hsol : ∀ m, LoopDecided s R m → (m.Satisfies new ↔ s.LoopSolution m R (marked s R m)))
include hsol

/-- Every solution of the equations under `m` is the marking of a solution of the
assertions. -/
theorem exists_loopExtension (hg : s.graph.WellFormed) (hR : R ∈ s.graph.routers)
    (hfresh : FreshUnder (loopPrefix s R) [] c) (hreg : s.RegisteredIn c) (hd : s.Decides m)
    {v : String → Bool} (hv : s.LoopSolution m R v) :
    ∃ m', LoopExtension s R c new m m' ∧ marked s R m' R = v R := by
  obtain ⟨m', hagree, hdec, hmark⟩ := exists_marking hg hfresh hreg hd v
  refine ⟨m', ⟨hagree, hdec, (hsol m' hdec).2 ?_⟩, hmark R hR⟩
  rw [loopSolution_iff_of_agree hreg hagree]
  exact hv.congr hg fun p hp => (hmark p hp).symm

theorem LoopExtension.loopSolution {m' : Model} (hreg : s.RegisteredIn c)
    (h : LoopExtension s R c new m m') : s.LoopSolution m R (marked s R m') :=
  (loopSolution_iff_of_agree hreg h.1).1 ((hsol m' h.2.1).1 h.2.2)

end Solutions

open Relation

/-- The loop instrumentation, exactly. It returns the on-loop variable of `R`. Every model of
the slice's variables extends to a solution of its assertions. The variable of `R` holds in
every solution iff `R` lies on a forwarding cycle, and in some solution iff a forwarding path
leads from `R` to a cycle, which need not pass through `R`. -/
theorem loop_var_holds_iff {c : Context} (hg : s.graph.WellFormed) (hcov : s.Covers)
    (hR : R ∈ s.graph.routers) (hfresh : FreshUnder (loopPrefix s R) [] c) (hreg : s.RegisteredIn c) :
    ((loop s R).runOn c).1 = .ok (loopVar s R R) ∧ ∃ new,
      ((loop s R).runOn c).2.assertions.toList = c.assertions.toList ++ new ∧
      ∀ m, s.Decides m →
        (∃ m', LoopExtension s R c new m m') ∧
        ((∀ m', LoopExtension s R c new m m' → m'.holds (loopVar s R R) = true) ↔
          TransGen (s.Step m) R R) ∧
        ((∃ m', LoopExtension s R c new m m' ∧ m'.holds (loopVar s R R) = true) ↔
          s.ReachesCycle m R) := by
  obtain ⟨x, hx, rfl, new, hnew, hsol⟩ := loop_spec hg hcov hR c ⟨hfresh, rfl⟩
  refine ⟨hx, new, hnew, fun m hd => ?_⟩
  classical
  obtain ⟨least, hleast, hleastR⟩ :=
    exists_loopExtension hsol hg hR hfresh hreg hd Slice.loopSolution_transGen
  refine ⟨⟨least, hleast⟩, ⟨fun hall => ?_, fun hcyc m' hm' => ?_⟩, ⟨?_, fun hreach => ?_⟩⟩
  · -- the least solution marks `R` only on a cycle
    have h : marked s R least R = true := hall least hleast
    rw [hleastR] at h
    exact of_decide_eq_true h
  · exact (hm'.loopSolution hsol hreg).of_transGen hg hcyc
  · rintro ⟨m', hm', hxR⟩
    rcases (hm'.loopSolution hsol hreg).transGen_or_reachesCycle hg hR hxR with hcyc | hreach
    · exact ⟨R, .refl, hcyc⟩
    · exact hreach
  · -- the greatest solution marks every router with a path to a cycle
    obtain ⟨greatest, hgreatest, hgreatestR⟩ :=
      exists_loopExtension hsol hg hR hfresh hreg hd Slice.loopSolution_reachesCycle
    exact ⟨greatest, hgreatest, hgreatestR.trans (by simp [hreach])⟩

def linkEdge (r p : String) : GraphEdge := { router := r, start := { name := p }, peer := some p }

def tailSlice : Slice :=
  { (default : Slice) with
    graph := { (default : Graph) with
      configs := ⟨[("A", default), ("B", default), ("S", default)]⟩
      edgeMap := ⟨[("A", [linkEdge "A" "B"]), ("B", [linkEdge "B" "A"]), ("S", [linkEdge "S" "A"])]⟩ }
    forwards := ⟨[("A", [(linkEdge "A" "B", .tt)]), ("B", [(linkEdge "B" "A", .tt)]),
      ("S", [(linkEdge "S" "A", .tt)])]⟩ }

theorem mem_tail_edges {r : String} {e : GraphEdge} :
    e ∈ tailSlice.graph.edges r ↔ (r = "A" ∧ e = linkEdge "A" "B") ∨ (r = "B" ∧ e = linkEdge "B" "A") ∨
      (r = "S" ∧ e = linkEdge "S" "A") := by
  simp only [Graph.edges, NameMap.getD, NameMap.get?, tailSlice, NameMap.lookup_cons_ite]
  by_cases hA : r = "A" <;> by_cases hB : r = "B" <;> by_cases hS : r = "S" <;> simp_all

theorem tail_forwardsAcross {r : String} {e : GraphEdge} (he : e ∈ tailSlice.graph.edges r) :
    tailSlice.forwardsAcross? r e = some .tt := by
  rcases mem_tail_edges.1 he with ⟨rfl, rfl⟩ | ⟨rfl, rfl⟩ | ⟨rfl, rfl⟩ <;> rfl

theorem tail_step_iff {m : Model} {r p : String} :
    tailSlice.Step m r p ↔ (r = "A" ∧ p = "B") ∨ (r = "B" ∧ p = "A") ∨ (r = "S" ∧ p = "A") := by
  constructor
  · rintro ⟨e, he, -, hp, -⟩
    rcases mem_tail_edges.1 he with ⟨rfl, rfl⟩ | ⟨rfl, rfl⟩ | ⟨rfl, rfl⟩ <;>
      simp_all [linkEdge]
  · -- every edge is crossed, its crossing term being `true`
    have hstep : ∀ r p, linkEdge r p ∈ tailSlice.graph.edges r → tailSlice.Step m r p :=
      fun r p he => ⟨_, he, rfl, rfl, by
        simp [Slice.crosses, tail_forwardsAcross he, Model.holds, Model.eval, Term.tt]⟩
    rintro (⟨rfl, rfl⟩ | ⟨rfl, rfl⟩ | ⟨rfl, rfl⟩) <;> exact hstep _ _ (mem_tail_edges.2 (by simp))

theorem tail_wellFormed : tailSlice.graph.WellFormed where
  keys_eq := rfl
  nodup := by decide
  peer_mem := fun r e he p hp => by
    rcases mem_tail_edges.1 he with ⟨rfl, rfl⟩ | ⟨rfl, rfl⟩ | ⟨rfl, rfl⟩ <;>
      cases hp <;> decide

theorem tail_covers : tailSlice.Covers := fun _ _ he _ => by simp [tail_forwardsAcross he]

theorem tail_forwardsAcross_eq {r : String} {e : GraphEdge} {t : Term}
    (h : tailSlice.forwardsAcross? r e = some t) : t = .tt := by
  simp only [Slice.forwardsAcross?, tailSlice, NameMap.getD, NameMap.get?,
    NameMap.lookup_cons_ite] at h
  by_cases hA : r = "A" <;> by_cases hB : r = "B" <;> by_cases hS : r = "S" <;>
    simp_all [Ordered.find?]

theorem tail_registered (c : Context) : tailSlice.RegisteredIn c := fun _ _ _ h x hx => by
  cases tail_forwardsAcross_eq h
  simp [Term.tt, Term.vars] at hx

theorem tail_decides (m : Model) : tailSlice.Decides m := fun _ _ _ h =>
  ⟨true, by cases tail_forwardsAcross_eq h; rfl⟩

theorem tail_not_on_cycle {m : Model} : ¬TransGen (tailSlice.Step m) "S" "S" := fun h => by
  obtain ⟨b, -, hstep⟩ := TransGen.tail'_iff.1 h
  simp [tail_step_iff] at hstep

theorem tail_reachesCycle {m : Model} : tailSlice.ReachesCycle m "S" := by
  have hSA : tailSlice.Step m "S" "A" := tail_step_iff.2 (by simp)
  have hAB : tailSlice.Step m "A" "B" := tail_step_iff.2 (by simp)
  have hBA : tailSlice.Step m "B" "A" := tail_step_iff.2 (by simp)
  exact ⟨"A", .single hSA, .head hAB (.single hBA)⟩

/-- In the slice where `S` forwards into the cycle of `A` and `B`, the loop assertions of `S`
have a solution in which the on-loop variable of `S` holds, though `S` lies on no forwarding
cycle. -/
theorem loop_var_holds_off_cycle :
    tailSlice.graph.WellFormed ∧ tailSlice.Covers ∧
      ∃ new, ((loop tailSlice "S").runOn {}).2.assertions.toList = new ∧
        ∃ m, LoopExtension tailSlice "S" {} new {} m ∧ m.holds (loopVar tailSlice "S" "S") = true ∧
          ¬TransGen (tailSlice.Step m) "S" "S" := by
  have hfresh : FreshUnder (loopPrefix tailSlice "S") [] {} := fun _ _ => by simp
  obtain ⟨-, new, hnew, hall⟩ := loop_var_holds_iff (c := {}) tail_wellFormed tail_covers
    (by decide) hfresh (tail_registered {})
  obtain ⟨m, hm, hx⟩ := ((hall {} (tail_decides {})).2.2).2 tail_reachesCycle
  exact ⟨tail_wellFormed, tail_covers, new, by simpa using hnew, m, hm, hx, tail_not_on_cycle⟩

end Instrument
end ControlPlane
