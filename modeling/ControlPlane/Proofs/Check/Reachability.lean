import ControlPlane.Proofs.Check.Loop

/-!
# Reachability

`Instrument.reachability` gives every router a boolean read as "packets from here reach a
destination" and an integer rank, positive exactly when the boolean holds. Over a forwarding state
these are `Slice.Ranking`: in every ranking the routers of positive rank are those with a
forwarding path to a delivering router (`Ranking.pos_iff`), and a ranking exists iff the steps
into reaching routers form no cycle (`exists_ranking_iff`), which a multipath state can break.
-/

namespace ControlPlane
namespace Slice

open Relation

variable {s : Slice} {m : Model} {D : String → Prop} {rank : String → Int} {r p : String}

def Reaches (s : Slice) (m : Model) (D : String → Prop) (r : String) : Prop :=
  ∃ d, ReflTransGen (s.Step m) r d ∧ D d

def RankStep (s : Slice) (m : Model) (D : String → Prop) (r p : String) : Prop :=
  ¬D r ∧ s.Step m r p ∧ s.Reaches m D p

/-- `rank` solves the rank equations under `m`: ranks are not negative, a router of `D` has
rank 1, and any other router either steps to a router of positive rank and ranks above every
such router it steps to, or steps to none and has rank 0. -/
def Ranking (s : Slice) (m : Model) (D : String → Prop) (rank : String → Int) : Prop :=
  ∀ r ∈ s.graph.routers, 0 ≤ rank r ∧ (D r → rank r = 1) ∧ (¬D r →
    ((∃ p, s.Step m r p ∧ 0 < rank p) ∧ ∀ p, s.Step m r p → 0 < rank p → rank p < rank r) ∨
    ((¬∃ p, s.Step m r p ∧ 0 < rank p) ∧ rank r = 0))

theorem Reaches.head (h : s.Step m r p) (hp : s.Reaches m D p) : s.Reaches m D r :=
  let ⟨d, hpd, hd⟩ := hp
  ⟨d, .head h hpd, hd⟩

section Ranking

variable (hg : s.graph.WellFormed) (h : s.Ranking m D rank)
include hg h

theorem Ranking.pos_of_reaches (hr : r ∈ s.graph.routers) (hreach : s.Reaches m D r) :
    0 < rank r := by
  obtain ⟨d, hrd, hd⟩ := hreach
  induction hrd using ReflTransGen.head_induction_on with
  | refl => rw [(h _ hr).2.1 hd]; exact Int.one_pos
  | @head a c hstep _ ih =>
    have hc := ih (hstep.mem_routers hg).2
    by_cases hD : D a
    · rw [(h a hr).2.1 hD]; exact Int.one_pos
    · rcases (h a hr).2.2 hD with ⟨-, hlt⟩ | ⟨hno, -⟩
      · exact lt_trans hc (hlt c hstep hc)
      · exact absurd ⟨c, hstep, hc⟩ hno

theorem Ranking.reaches_of_pos (hr : r ∈ s.graph.routers) (hpos : 0 < rank r) :
    s.Reaches m D r := by
  induction hn : (rank r).toNat using Nat.strong_induction_on generalizing r with
  | _ n ih =>
    by_cases hD : D r
    · exact ⟨r, .refl, hD⟩
    · rcases (h r hr).2.2 hD with ⟨⟨p, hstep, hp⟩, hlt⟩ | ⟨-, h0⟩
      · have hlt := hlt p hstep hp
        exact .head hstep (ih _ (by omega) (hstep.mem_routers hg).2 hp rfl)
      · omega

theorem Ranking.pos_iff (hr : r ∈ s.graph.routers) : 0 < rank r ↔ s.Reaches m D r :=
  ⟨h.reaches_of_pos hg hr, h.pos_of_reaches hg hr⟩

theorem Ranking.lt_of_rankStep (hs : s.RankStep m D r p) : rank p < rank r := by
  obtain ⟨hD, hstep, hreach⟩ := hs
  have hmem := hstep.mem_routers hg
  have hp : 0 < rank p := h.pos_of_reaches hg hmem.2 hreach
  rcases (h r hmem.1).2.2 hD with ⟨-, hlt⟩ | ⟨hno, -⟩
  · exact hlt p hstep hp
  · exact absurd ⟨p, hstep, hp⟩ hno

theorem Ranking.not_rankStep_cycle : ¬TransGen (s.RankStep m D) r r := by
  have hfall : ∀ {a b}, TransGen (s.RankStep m D) a b → rank b < rank a := by
    intro a b hab
    induction hab with
    | single hs => exact h.lt_of_rankStep hg hs
    | tail _ hs ih => exact lt_trans (h.lt_of_rankStep hg hs) ih
  exact fun hc => lt_irrefl _ (hfall hc)

end Ranking

open Classical in
noncomputable def below (s : Slice) (m : Model) (D : String → Prop) (r : String) : List String :=
  s.graph.routers.filter fun q => decide (TransGen (s.RankStep m D) r q)

open Classical in
/-- Ranks read off the forwarding state: 1 in `D`, 0 for routers that do not reach `D`, and for
the others 2 more than the number of routers below them. -/
noncomputable def rankOf (s : Slice) (m : Model) (D : String → Prop) (r : String) : Int :=
  if D r then 1 else if s.Reaches m D r then 2 + (s.below m D r).length else 0

theorem length_below_lt (hg : s.graph.WellFormed) (hacyc : ∀ q, ¬TransGen (s.RankStep m D) q q)
    (hs : s.RankStep m D r p) : (s.below m D p).length < (s.below m D r).length := by
  classical
  have hsub : List.Sublist (s.below m D p) (s.below m D r) :=
    List.monotone_filter_right _ fun q hq => by
      simp only [decide_eq_true_eq] at hq ⊢
      exact .head hs hq
  have hp : p ∈ s.below m D r := by
    simpa [below] using ⟨(hs.2.1.mem_routers hg).2, TransGen.single hs⟩
  have hnp : p ∉ s.below m D p := by simpa [below] using fun _ => hacyc p
  refine lt_of_le_of_ne hsub.length_le fun hlen => hnp ?_
  rwa [hsub.eq_of_length hlen]

theorem rankOf_pos (h : s.Reaches m D r) : 0 < s.rankOf m D r := by
  unfold rankOf
  split_ifs
  · exact Int.one_pos
  · omega

theorem ranking_rankOf (hg : s.graph.WellFormed) (hacyc : ∀ q, ¬TransGen (s.RankStep m D) q q) :
    s.Ranking m D (s.rankOf m D) := by
  classical
  -- a router of positive rank reaches `D`
  have hpos : ∀ q, 0 < s.rankOf m D q → s.Reaches m D q := fun q hq => by
    by_cases hD : D q
    · exact ⟨q, .refl, hD⟩
    · by_cases hR : s.Reaches m D q
      · exact hR
      · simp [rankOf, hD, hR] at hq
  intro r hr
  refine ⟨by unfold rankOf; split_ifs <;> omega, fun hD => by simp [rankOf, hD], fun hD => ?_⟩
  by_cases hR : s.Reaches m D r
  · left
    have hr2 : s.rankOf m D r = 2 + (s.below m D r).length := by simp [rankOf, hD, hR]
    refine ⟨?_, fun p hstep hp => ?_⟩
    · -- the path from `r` to `D` starts with a step, since `r` is not in `D`
      obtain ⟨d, hrd, hd⟩ := hR
      rcases hrd.cases_head with rfl | ⟨p, hstep, hpd⟩
      · exact absurd hd hD
      · exact ⟨p, hstep, rankOf_pos ⟨d, hpd, hd⟩⟩
    · have hs : s.RankStep m D r p := ⟨hD, hstep, hpos p hp⟩
      rw [hr2]
      by_cases hDp : D p
      · simp only [rankOf, hDp, if_true]
        omega
      · have hp2 : s.rankOf m D p = 2 + (s.below m D p).length := by simp [rankOf, hDp, hs.2.2]
        have := length_below_lt hg hacyc hs
        omega
  · right
    exact ⟨fun ⟨p, hstep, hp⟩ => hR (.head hstep (hpos p hp)), by simp [rankOf, hD, hR]⟩

theorem Ranking.congr {m' : Model} {rank' : String → Int} (hg : s.graph.WellFormed)
    (hstep : ∀ r p, s.Step m' r p ↔ s.Step m r p) (hrank : ∀ p ∈ s.graph.routers, rank' p = rank p)
    (h : s.Ranking m D rank) : s.Ranking m' D rank' := by
  intro r hr
  -- steps lead to routers, where the two rankings agree
  have hex : (∃ p, s.Step m' r p ∧ 0 < rank' p) ↔ ∃ p, s.Step m r p ∧ 0 < rank p :=
    exists_congr fun p => by
      rw [hstep]
      exact and_congr_right fun hs => by rw [hrank p (hs.mem_routers hg).2]
  have hall : (∀ p, s.Step m' r p → 0 < rank' p → rank' p < rank' r) ↔
      ∀ p, s.Step m r p → 0 < rank p → rank p < rank r :=
    forall_congr' fun p => by
      rw [hstep]
      exact imp_congr_right fun hs => by rw [hrank p (hs.mem_routers hg).2, hrank r hr]
  rw [hex, hall, hrank r hr]
  exact h r hr

theorem ranking_iff_forall [DecidablePred D] : s.Ranking m D rank ↔ ∀ r ∈ s.graph.routers,
    0 ≤ rank r ∧ if D r then rank r = 1 else
      ((∃ p, s.Step m r p ∧ 0 < rank p) ∧ ∀ p, s.Step m r p → 0 < rank p → rank p < rank r) ∨
      ((¬∃ p, s.Step m r p ∧ 0 < rank p) ∧ rank r = 0) := by
  refine forall₂_congr fun r _ => and_congr_right fun _ => ?_
  by_cases hD : D r <;> simp [hD]

theorem exists_ranking_iff (hg : s.graph.WellFormed) :
    (∃ rank, s.Ranking m D rank) ↔ ∀ r, ¬TransGen (s.RankStep m D) r r :=
  ⟨fun ⟨_, h⟩ _ => h.not_rankStep_cycle hg, fun hacyc => ⟨_, ranking_rankOf hg hacyc⟩⟩

end Slice

namespace Instrument

open Encode Build

variable {s : Slice} {m : Model} {r : String}

def reachPrefix (s : Slice) : String := s.pre ++ "_" ++ "reachable" ++ "_"

def rankPrefix (s : Slice) : String := s.pre ++ "_" ++ "reachable-id" ++ "_"

theorem varName_reachable (s : Slice) (r : String) : varName s "reachable" r = reachPrefix s ++ r := by
  simp only [varName, reachPrefix, String.append_assoc]

theorem varName_rank (s : Slice) (r : String) : varName s "reachable-id" r = rankPrefix s ++ r := by
  simp only [varName, rankPrefix, String.append_assoc]

theorem rankPrefix_append_ne (s : Slice) (r k : String) : rankPrefix s ++ r ≠ reachPrefix s ++ k := by
  intro h
  have := congrArg String.toList h
  simp [rankPrefix, reachPrefix, String.toList_append] at this

def reachVar (s : Slice) (r : String) : Term := .var (reachPrefix s ++ r) .bool

def rankVar (s : Slice) (r : String) : Term := .var (rankPrefix s ++ r) .int

/-- The model gives every crossing term and every reachable variable a boolean, and every rank
variable an integer. -/
structure RankDecided (s : Slice) (m : Model) : Prop where
  decides : s.Decides m
  reach_bool : ∀ r ∈ s.graph.routers, ∃ b, m.eval (reachVar s r) = .ok (.bool b)
  rank_int : ∀ r ∈ s.graph.routers, ∃ i, m.eval (rankVar s r) = .ok (.int i)

def reached (s : Slice) (m : Model) (r : String) : Bool := m.holds (reachVar s r)

def rankIn (s : Slice) (m : Model) (r : String) : Int :=
  match m.eval (rankVar s r) with
  | .ok (.int i) => i
  | _ => 0

theorem RankDecided.eval_reach (h : RankDecided s m) (hr : r ∈ s.graph.routers) :
    m.eval (reachVar s r) = .ok (.bool (reached s m r)) := by
  obtain ⟨b, hb⟩ := h.reach_bool r hr
  exact Model.eval_holds hb

theorem RankDecided.eval_rank (h : RankDecided s m) (hr : r ∈ s.graph.routers) :
    m.eval (rankVar s r) = .ok (.int (rankIn s m r)) := by
  obtain ⟨i, hi⟩ := h.rank_int r hr
  simp [rankIn, hi]

/-- The variables of the routers, with a reachable variable equal to "the rank is positive" and
a rank that is not negative. -/
theorem reachabilityVars_triple (hg : s.graph.WellFormed) {a0 : List Term} :
    Triple (fun c => FreshUnder (rankPrefix s) [] c ∧ FreshUnder (reachPrefix s) [] c ∧
        c.assertions.toList = a0) (reachabilityVars s)
      fun x c => (∀ p ∈ s.graph.routers, x.1.get? p = some (reachVar s p) ∧
          x.2.get? p = some (rankVar s p)) ∧
        ∃ new, (∀ m, RankDecided s m → (m.Satisfies new ↔ ∀ r ∈ s.graph.routers,
            reached s m r = decide (0 < rankIn s m r) ∧ 0 ≤ rankIn s m r)) ∧
          c.assertions.toList = a0 ++ new := by
  unfold reachabilityVars
  refine Triple.bind (Triple.mono (Triple.forIn (fun pre (x : NameMap Term × NameMap Term) c =>
      (∀ p, x.1.get? p = if p ∈ pre then some (reachVar s p) else none) ∧
      (∀ p, x.2.get? p = if p ∈ pre then some (rankVar s p) else none) ∧
      ∃ new, (∀ m, RankDecided s m → (m.Satisfies new ↔
        ∀ r ∈ pre, reached s m r = decide (0 < rankIn s m r) ∧ 0 ≤ rankIn s m r)) ∧
      FreshUnder (rankPrefix s) pre c ∧ FreshUnder (reachPrefix s) pre c ∧
      c.assertions.toList = a0 ++ new) ?step)
    (fun c hc => ⟨fun p => by simp, fun p => by simp, [], fun m _ => by simp [Model.Satisfies],
      hc.1, hc.2.1, by simpa using hc.2.2⟩) (fun _ _ h => h)) fun x => Triple.pure ?fin
  case step =>
    intro pre r post x hxs
    have hr : r ∉ pre := fun h =>
      (List.nodup_append.1 (hxs ▸ hg.nodup)).2.2 r h r List.mem_cons_self rfl
    have hrR : r ∈ s.graph.routers := hxs ▸ List.mem_append_right pre List.mem_cons_self
    dsimp only
    rw [varName_rank, varName_reachable]
    refine Triple.assume fun hreach => Triple.assume fun hids => Triple.of_exists fun new =>
      Triple.assume fun hnew => ?_
    refine Triple.bind (Triple.mkVar_fresh
      (F := fun c => FreshUnder (reachPrefix s) pre c ∧ c.assertions.toList = a0 ++ new) hr .int fun c hc =>
      ⟨hc.1.mkVar_apart (rankPrefix_append_ne s r) _, by rw [assertions_mkVar, hc.2]⟩)
      fun id => Triple.assume fun hid => ?_
    refine Triple.bind (Triple.mono (Triple.mkVar_fresh
        (F := fun c => FreshUnder (rankPrefix s) (r :: pre) c ∧ c.assertions.toList = a0 ++ new)
        hr .bool fun c hc =>
        ⟨hc.1.mkVar_apart (fun k h => rankPrefix_append_ne s k r h.symm) _,
          by rw [assertions_mkVar, hc.2]⟩)
      (fun c hc => ⟨hc.2.1, hc.1, hc.2.2⟩) (fun _ _ h => h)) fun v => Triple.assume fun hv => ?_
    subst hid hv
    have hF : ∀ c c' : Context, c'.index = c.index →
        FreshUnder (reachPrefix s) (r :: pre) c ∧ FreshUnder (rankPrefix s) (r :: pre) c →
        FreshUnder (reachPrefix s) (r :: pre) c' ∧ FreshUnder (rankPrefix s) (r :: pre) c' :=
      fun c c' he h => ⟨h.1.of_index_eq he, h.2.of_index_eq he⟩
    refine Triple.bind (Triple.mono (Triple.term_frame hF (keeps_gt _ _) fun m (hm : RankDecided s m) =>
        builds_lt (m := m) rfl (hm.eval_rank hrR))
      (fun c hc => ⟨⟨hc.1, hc.2.1⟩, hc.2.2⟩) (fun _ _ h => h)) fun t => Triple.assume fun ht => ?_
    refine Triple.bind (Triple.term_frame hF (keeps_equals _ _) fun m hm =>
      builds_equals_bool (hm.eval_reach hrR) (ht m hm)) fun t1 => Triple.assume fun ht1 => ?_
    refine Triple.bind (Triple.assert_frame hF) fun _ => ?_
    refine Triple.bind (Triple.term_frame hF (keeps_ge _ _) fun m (hm : RankDecided s m) =>
      builds_le (m := m) rfl (hm.eval_rank hrR)) fun t2 => Triple.assume fun ht2 => ?_
    refine Triple.bind (Triple.assert_frame hF) fun _ => Triple.pure fun c hc => ?_
    refine ⟨_, rfl, fun p => ?_, fun p => ?_, new ++ asserted t1 ++ asserted t2, fun m hm => ?_,
      hc.1.2.mono (by simp), hc.1.1.mono (by simp), by simp [hc.2]⟩
    · by_cases hp : p = r <;> simp [hp, hreach p, reachVar]
    · by_cases hp : p = r <;> simp [hp, hids p, rankVar]
    · rw [Model.satisfies_append, Model.satisfies_append, hnew m hm, satisfies_asserted_iff,
        satisfies_asserted_iff, Model.evalBool_eq_true_iff (ht1 m hm),
        Model.evalBool_eq_true_iff (ht2 m hm), List.forall_mem_append, List.forall_mem_singleton,
        beq_iff_eq, decide_eq_true_eq, and_assoc]
  case fin =>
    intro c hc
    obtain ⟨hreach, hids, new, hnew, -, -, ha⟩ := hc
    exact ⟨fun p hp => by simp [hreach p, hids p, hp], new, hnew, ha⟩

def sendsUp (s : Slice) (m : Model) (rank : String → Int) (r : String) (e : GraphEdge) : Bool :=
  !e.isAbstract && s.crosses m r e && match e.peer with
    | some p => decide (0 < rank p)
    | none => false

def ranksBelow (s : Slice) (m : Model) (rank : String → Int) (r : String) (e : GraphEdge) : Bool :=
  !sendsUp s m rank r e || match e.peer with
    | some p => decide (rank p < rank r)
    | none => true

variable {rank : String → Int}

theorem any_sendsUp_iff :
    (s.graph.edges r).any (sendsUp s m rank r) = true ↔ ∃ p, s.Step m r p ∧ 0 < rank p := by
  simp only [List.any_eq_true, Slice.Step]
  constructor
  · rintro ⟨e, he, hs⟩
    simp only [sendsUp, Bool.and_eq_true, Bool.not_eq_true'] at hs
    obtain ⟨⟨ha, hc⟩, hp⟩ := hs
    cases hpe : e.peer with
    | none => simp [hpe] at hp
    | some p =>
      simp only [hpe, decide_eq_true_eq] at hp
      exact ⟨p, ⟨e, he, ha, hpe, hc⟩, hp⟩
  · rintro ⟨p, ⟨e, he, ha, hpe, hc⟩, hp⟩
    exact ⟨e, he, by simp [sendsUp, ha, hc, hpe, hp]⟩

theorem all_ranksBelow_iff :
    (s.graph.edges r).all (ranksBelow s m rank r) = true ↔
      ∀ p, s.Step m r p → 0 < rank p → rank p < rank r := by
  simp only [List.all_eq_true, Slice.Step]
  constructor
  · rintro h p ⟨e, he, ha, hpe, hc⟩ hp
    simpa [ranksBelow, sendsUp, ha, hc, hpe, hp] using h e he
  · intro h e he
    cases hpe : e.peer with
    | none => simp [ranksBelow, sendsUp, hpe]
    | some p =>
      by_cases hs : sendsUp s m rank r e = true
      · simp only [sendsUp, hpe, Bool.and_eq_true, Bool.not_eq_true', decide_eq_true_eq] at hs
        simp [ranksBelow, hpe, h p ⟨e, he, hs.1.1, hpe, hs.1.2⟩ hs.2]
      · simp [ranksBelow, hs]

/-- The recursive condition of a router that does not deliver, as the ranks read it: it steps
to a router of positive rank and ranks above all such, or it steps to none and has rank 0. -/
theorem recursive_value_iff :
    (if (s.graph.edges r).any (sendsUp s m rank r) then (s.graph.edges r).all (ranksBelow s m rank r)
      else rank r == 0) = true ↔
      ((∃ p, s.Step m r p ∧ 0 < rank p) ∧ ∀ p, s.Step m r p → 0 < rank p → rank p < rank r) ∨
      ((¬∃ p, s.Step m r p ∧ 0 < rank p) ∧ rank r = 0) := by
  rw [← any_sendsUp_iff, ← all_ranksBelow_iff]
  split <;> simp_all

/-- What the recursive condition of `r` evaluates to, under a model that decides the crossing
terms and the variables. -/
theorem recursiveReachability_spec (hg : s.graph.WellFormed) (hcov : s.Covers)
    (hr : r ∈ s.graph.routers) {ids : NameMap Term}
    (hids : ∀ p ∈ s.graph.routers, ids.get? p = some (rankVar s p)) {as : List Term} :
    Spec (fun c => c.assertions.toList = as) (recursiveReachability s r ids) fun t c =>
      (∀ m, RankDecided s m → m.eval t = .ok (.bool
        (if (s.graph.edges r).any (sendsUp s m (rankIn s m) r)
          then (s.graph.edges r).all (ranksBelow s m (rankIn s m) r)
          else rankIn s m r == 0))) ∧
      c.assertions.toList = as := by
  unfold recursiveReachability
  have hid : ids.getD r (.int 0) = rankVar s r := by simp [NameMap.getD, hids r hr]
  dsimp only
  rw [hid]
  -- the disjunction "some step up" and the conjunction "all steps up lead below", edge by edge
  refine Spec.bind (Spec.mono (Spec.forIn (fun pre (x : Term × Term) c =>
      (∀ m, RankDecided s m →
        m.eval x.1 = .ok (.bool (pre.any (sendsUp s m (rankIn s m) r))) ∧
        m.eval x.2 = .ok (.bool (pre.all (ranksBelow s m (rankIn s m) r)))) ∧
      c.assertions.toList = as) ?edge) (fun c hc => ⟨fun m _ => ⟨rfl, rfl⟩, hc⟩)
      (fun _ _ h => h)) fun x => ?_
  case edge =>
    intro pre e post x hxs
    have he : e ∈ s.graph.edges r := hxs ▸ List.mem_append_right pre List.mem_cons_self
    refine Spec.assume fun hx => ?_
    split
    · next ha =>
      have ha : e.isAbstract = false := by simpa using ha
      obtain ⟨t, hft, ht⟩ := Slice.forwardsAcross_ok hcov he ha
      split
      · next peerId hpeer =>
        obtain ⟨p, hp, hpid⟩ := Option.bind_eq_some_iff.1 hpeer
        have hpR := hg.peer_mem r e he p hp
        rw [hids p hpR] at hpid
        cases hpid
        refine Spec.bind (Spec.liftOk hft) fun fwd => Spec.assume fun hfwd => ?_
        subst hfwd
        refine Spec.bind (Spec.term (keeps_gt _ _) fun m (hm : RankDecided s m) =>
          builds_lt (m := m) rfl (hm.eval_rank hpR)) fun up => Spec.assume fun hup => ?_
        refine Spec.bind (Spec.term (keeps_both _ _) fun m hm =>
          builds_both (Slice.eval_crosses hm.decides ht) (hup m hm)) fun sends =>
            Spec.assume fun hsends => ?_
        refine Spec.bind (Spec.term (keeps_either _ _) fun m hm =>
          builds_either (hx m hm).1 (hsends m hm)) fun route => Spec.assume fun hroute => ?_
        refine Spec.bind (Spec.term (keeps_gt _ _) fun m (hm : RankDecided s m) =>
          builds_lt (hm.eval_rank hpR) (hm.eval_rank hr)) fun below => Spec.assume fun hbelow => ?_
        refine Spec.bind (Spec.term (keeps_implies _ _) fun m hm =>
          builds_implies (hsends m hm) (hbelow m hm)) fun imp => Spec.assume fun himp => ?_
        refine Spec.bind (Spec.term (keeps_both _ _) fun m hm =>
          builds_both (hx m hm).2 (himp m hm)) fun larger => Spec.assume fun hlarger => ?_
        refine Spec.pure fun c hc => ⟨_, rfl, fun m hm => ⟨?_, ?_⟩, hc⟩
        · rw [hroute m hm, List.any_append]
          simp [sendsUp, ha, hp]
        · rw [hlarger m hm, List.all_append]
          simp [ranksBelow, sendsUp, ha, hp]
      · next hpeer =>
        -- every peer is a router, so an edge is skipped only without a peer
        have hnone : e.peer = none := by
          cases hp : e.peer with
          | none => rfl
          | some p => simp [hp, hids p (hg.peer_mem r e he p hp)] at hpeer
        refine Spec.pure fun c hc => ⟨_, rfl, fun m hm => ?_, hc⟩
        rw [List.any_append, List.all_append]
        simpa [sendsUp, ranksBelow, hnone] using hx m hm
    · next ha =>
      refine Spec.pure fun c hc => ⟨_, rfl, fun m hm => ?_, hc⟩
      rw [List.any_append, List.all_append]
      simpa [sendsUp, ranksBelow, ha] using hx m hm
  refine Spec.assume fun hx => ?_
  refine Spec.bind (Spec.term (keeps_equals _ _) fun m (hm : RankDecided s m) =>
    builds_equals (m := m) (hm.eval_rank hr) rfl rfl rfl rfl) fun z => Spec.assume fun hz => ?_
  refine Spec.mono (Spec.term (keeps_cond _ _ _) fun m hm =>
    builds_cond (hx m hm).1 (hx m hm).2 (hz m hm)) (fun c hc => hc) fun t c htc => ⟨?_, htc.2⟩
  intro m hm
  rw [htc.1 m hm]
  simp

/-- The reachable variables and the ranks that `m` gives solve the equations with delivering
routers `D`: the ranks are a ranking, and a router is marked iff its rank is positive. -/
def Solves (s : Slice) (m : Model) (D : String → Prop) : Prop :=
  s.Ranking m D (rankIn s m) ∧ ∀ r ∈ s.graph.routers, reached s m r = decide (0 < rankIn s m r)

theorem solves_iff {D : String → Prop} [DecidablePred D] : Solves s m D ↔ ∀ r ∈ s.graph.routers,
    (reached s m r = decide (0 < rankIn s m r) ∧ 0 ≤ rankIn s m r) ∧
    (if D r then rankIn s m r == 1 else
      if (s.graph.edges r).any (sendsUp s m (rankIn s m) r)
        then (s.graph.edges r).all (ranksBelow s m (rankIn s m) r)
        else rankIn s m r == 0) = true := by
  rw [Solves, Slice.ranking_iff_forall, ← forall₂_and]
  refine forall₂_congr fun r _ => ?_
  have hrouter : (if D r then rankIn s m r = 1 else
      ((∃ p, s.Step m r p ∧ 0 < rankIn s m p) ∧
        ∀ p, s.Step m r p → 0 < rankIn s m p → rankIn s m p < rankIn s m r) ∨
      ((¬∃ p, s.Step m r p ∧ 0 < rankIn s m p) ∧ rankIn s m r = 0)) ↔
      (if D r then rankIn s m r == 1 else
        if (s.graph.edges r).any (sendsUp s m (rankIn s m) r)
          then (s.graph.edges r).all (ranksBelow s m (rankIn s m) r)
          else rankIn s m r == 0) = true := by
    by_cases hD : D r
    · simp only [hD, if_true, beq_iff_eq]
    · simp only [hD, if_false]
      exact recursive_value_iff.symm
  rw [hrouter]
  exact ⟨fun h => ⟨⟨h.2, h.1.1⟩, h.1.2⟩, fun h => ⟨⟨h.1.2, h.2⟩, h.1.1⟩⟩

theorem reachabilityOf_spec (hg : s.graph.WellFormed) (hcov : s.Covers) (dst : String)
    {a0 : List Term} :
    Spec (fun c => FreshUnder (rankPrefix s) [] c ∧ FreshUnder (reachPrefix s) [] c ∧
        c.assertions.toList = a0) (reachabilityOf s dst)
      fun reach c => (∀ p ∈ s.graph.routers, reach.get? p = some (reachVar s p)) ∧
        ∃ new, c.assertions.toList = a0 ++ new ∧
          ∀ m, RankDecided s m → (m.Satisfies new ↔ Solves s m (· = dst)) := by
  unfold reachabilityOf
  refine Spec.bind (Spec.lift (reachabilityVars_triple hg)) fun x => ?_
  obtain ⟨reach, ids⟩ := x
  dsimp only
  refine Spec.assume fun hmaps => Spec.of_exists fun new0 => Spec.assume fun hnew0 => ?_
  have hid : ∀ r ∈ s.graph.routers, ids.getD r (.int 0) = rankVar s r := fun r hr => by
    simp [NameMap.getD, (hmaps r hr).2]
  refine Spec.bind (Spec.mono (Spec.forIn (fun pre (_ : PUnit) c => ∃ new,
      (∀ m, RankDecided s m → (m.Satisfies new ↔ ∀ r ∈ pre,
        (if r = dst then rankIn s m r == 1 else
          if (s.graph.edges r).any (sendsUp s m (rankIn s m) r)
            then (s.graph.edges r).all (ranksBelow s m (rankIn s m) r)
            else rankIn s m r == 0) = true)) ∧
      c.assertions.toList = a0 ++ new0 ++ new) ?router)
      (fun c hc => ⟨[], fun m _ => by simp [Model.Satisfies], by simpa using hc⟩)
      (fun _ _ h => h)) fun _ => ?_
  case router =>
    intro pre r post u hxs
    have hr : r ∈ s.graph.routers := hxs ▸ List.mem_append_right pre List.mem_cons_self
    refine Spec.of_exists fun new => Spec.assume fun hnew => ?_
    have hstep : ∀ t : Term, (∀ m, RankDecided s m → m.eval t = .ok (.bool
        (if r = dst then rankIn s m r == 1 else
          if (s.graph.edges r).any (sendsUp s m (rankIn s m) r)
            then (s.graph.edges r).all (ranksBelow s m (rankIn s m) r)
            else rankIn s m r == 0))) →
        Spec (fun c => c.assertions.toList = a0 ++ new0 ++ new)
          (do liftM (Build.assert t); pure (ForInStep.yield PUnit.unit))
          fun res c => ∃ b', res = .yield b' ∧ ∃ new, (∀ m, RankDecided s m → (m.Satisfies new ↔
            ∀ q ∈ pre ++ [r], (if q = dst then rankIn s m q == 1 else
              if (s.graph.edges q).any (sendsUp s m (rankIn s m) q)
                then (s.graph.edges q).all (ranksBelow s m (rankIn s m) q)
                else rankIn s m q == 0) = true)) ∧
            c.assertions.toList = a0 ++ new0 ++ new := fun t ht =>
      Spec.bind Spec.assert fun _ => Spec.pure fun c hc => ⟨_, rfl, new ++ asserted t, fun m hm => by
        rw [Model.satisfies_append, hnew m hm, satisfies_asserted_iff,
          Model.evalBool_eq_true_iff (ht m hm), List.forall_mem_append, List.forall_mem_singleton],
        by simp [hc]⟩
    split
    · next hdst =>
      have hdst : r = dst := by simpa using hdst
      rw [hid r hr]
      refine Spec.bind (Spec.term (keeps_equals _ _) fun m (hm : RankDecided s m) =>
        builds_equals (m := m) (hm.eval_rank hr) rfl rfl rfl rfl) fun t => Spec.assume fun ht =>
          hstep t fun m hm => by simpa [hdst] using ht m hm
    · next hdst =>
      have hdst : r ≠ dst := by simpa using hdst
      refine Spec.bind (recursiveReachability_spec hg hcov hr fun p hp => (hmaps p hp).2)
        fun t => Spec.assume fun ht => hstep t fun m hm => by simpa [hdst] using ht m hm
  refine Spec.of_exists fun new => Spec.assume fun hnew => Spec.pure fun c hc =>
    ⟨fun p hp => (hmaps p hp).1, new0 ++ new, by simp [hc], fun m hm => ?_⟩
  rw [Model.satisfies_append, hnew0 m hm, hnew m hm, solves_iff, ← forall₂_and]

/-- The model gives the permitted flag of every connected best route a boolean, and the packet's
destination a bit-vector. -/
structure DeliveryDecided (s : Slice) (m : Model) : Prop where
  permitted : ∀ r conn, s.bestOf? r .connected = some conn → ∃ b, m.eval conn.permitted = .ok (.bool b)
  dstIp : ∃ v, m.eval s.packet.dstIp = .ok v ∧ v.fits (.bitVec 32)

def destEdges (s : Slice) (dests : List GraphEdge) (r : String) : List GraphEdge :=
  (s.graph.edges r).filter fun e => !e.isAbstract && Ordered.contains GraphEdge.cmp e dests

/-- `r` delivers directly: it is a host with a destination edge, or packets cross one of its
destination edges that leaves the network. -/
def deliversDirectly (s : Slice) (m : Model) (dests : List GraphEdge) (r : String) : Bool :=
  (s.graph.isHost r && !(destEdges s dests r).isEmpty) ||
    (destEdges s dests r).any fun e => e.peer.isNone && s.crosses m r e

/-- `r` absorbs the packets: its connected route is permitted and the packet's destination is the
address of one of its destination edges. -/
def absorbs (s : Slice) (m : Model) (dests : List GraphEdge) (r : String) : Bool :=
  match s.bestOf? r .connected with
  | none => false
  | some conn => ((destEdges s dests r).filterMap (·.startAddress)).any fun a =>
      m.holds conn.permitted && decide (m.eval s.packet.dstIp = m.eval (Term.mkBv a.ip.toNat 32))

def delivers (s : Slice) (m : Model) (dests : List GraphEdge) (r : String) : Bool :=
  deliversDirectly s m dests r || absorbs s m dests r

theorem keeps_absorbed (r : String) (edges : List GraphEdge) : Keeps (absorbed s r edges) := by
  unfold absorbed
  split
  · exact Keeps.pure
  · exact (Keeps.mapM fun _ => (keeps_equals _ _).bind fun _ => keeps_both _ _).bind
      fun _ => keeps_anyOf _

theorem builds_absorbed (hdst : s.packet.dstIp.sort = .bitVec 32) (hm : DeliveryDecided s m)
    (dests : List GraphEdge) (r : String) :
    Builds (absorbed s r (destEdges s dests r)) fun t =>
      m.eval t = .ok (.bool (absorbs s m dests r)) := by
  unfold absorbed
  cases h : s.bestOf? r .connected with
  | none => exact Builds.pure (by simp [absorbs, h])
  | some conn =>
    obtain ⟨b, hb⟩ := hm.permitted r conn h
    obtain ⟨v, hv, hfit⟩ := hm.dstIp
    have hone : ∀ a : InterfaceAddress, Builds (do
        Build.both conn.permitted (← Build.equals s.packet.dstIp (Term.mkBv a.ip.toNat 32)))
        fun t => m.eval t = .ok (.bool (m.holds conn.permitted &&
          decide (m.eval s.packet.dstIp = m.eval (Term.mkBv a.ip.toNat 32)))) := fun a =>
      (builds_equals hv rfl (by rw [hdst]; rfl) (by rwa [hdst]) rfl).bind fun t ht =>
        (builds_both (Model.eval_holds hb) ht).mono fun _ h => by
          rw [h, hv]
          simp [Term.mkBv, Model.eval, beq_eq_decide]
    refine (builds_mapM_bool fun a _ => hone a).bind fun ts hts => ?_
    simpa [absorbs, h] using builds_anyOf (m := m) hts.2

/-- The equations of `reachability s dests`: the delivering routers are those that deliver to
the destinations directly or absorb the packets. -/
theorem reachability_spec (hg : s.graph.WellFormed) (hcov : s.Covers)
    (hdst : s.packet.dstIp.sort = .bitVec 32) (dests : List GraphEdge) {a0 : List Term} :
    Spec (fun c => FreshUnder (rankPrefix s) [] c ∧ FreshUnder (reachPrefix s) [] c ∧
        c.assertions.toList = a0) (reachability s dests)
      fun reach c => (∀ p ∈ s.graph.routers, reach.get? p = some (reachVar s p)) ∧
        ∃ new, c.assertions.toList = a0 ++ new ∧ ∀ m, RankDecided s m → DeliveryDecided s m →
          (m.Satisfies new ↔ Solves s m (delivers s m dests · = true)) := by
  unfold reachability
  refine Spec.bind (Spec.lift (reachabilityVars_triple hg)) fun x => ?_
  obtain ⟨reach, ids⟩ := x
  dsimp only
  refine Spec.assume fun hmaps => Spec.of_exists fun new0 => Spec.assume fun hnew0 => ?_
  have hid : ∀ r ∈ s.graph.routers, ids.getD r (.int 0) = rankVar s r := fun r hr => by
    simp [NameMap.getD, (hmaps r hr).2]
  refine Spec.bind (Spec.mono (Spec.forIn (fun pre (_ : PUnit) c => ∃ new,
      (∀ m, RankDecided s m → DeliveryDecided s m → (m.Satisfies new ↔ ∀ x ∈ pre,
        (if delivers s m dests x.1 = true then rankIn s m x.1 == 1 else
          if (s.graph.edges x.1).any (sendsUp s m (rankIn s m) x.1)
            then (s.graph.edges x.1).all (ranksBelow s m (rankIn s m) x.1)
            else rankIn s m x.1 == 0) = true)) ∧
      c.assertions.toList = a0 ++ new0 ++ new) ?entry)
      (fun c hc => ⟨[], fun m _ _ => by simp [Model.Satisfies], by simpa using hc⟩)
      (fun _ _ h => h)) fun _ => ?_
  case entry =>
    intro pre x post u hxs
    obtain ⟨r, edges⟩ := x
    obtain ⟨hr, rfl⟩ := hg.mem_entries_iff.1 (hxs ▸ List.mem_append_right pre List.mem_cons_self)
    refine Spec.of_exists fun new => Spec.assume fun hnew => ?_
    have htail : ∀ direct : Term, (∀ m, RankDecided s m → DeliveryDecided s m →
        m.eval direct = .ok (.bool (deliversDirectly s m dests r))) →
        Spec (fun c => c.assertions.toList = a0 ++ new0 ++ new) (do
          let abs ← liftM (absorbed s r (destEdges s dests r))
          let recursive ← recursiveReachability s r ids
          let t1 ← liftM (Build.either direct abs)
          let t2 ← liftM (Build.equals (ids.getD r (Term.int 0)) (Term.int 1))
          let t3 ← liftM (Build.cond t1 t2 recursive)
          liftM (Build.assert t3)
          pure (ForInStep.yield PUnit.unit))
          fun res c => ∃ b', res = .yield b' ∧ ∃ new, (∀ m, RankDecided s m →
            DeliveryDecided s m → (m.Satisfies new ↔ ∀ x ∈ pre ++ [(r, s.graph.edges r)],
              (if delivers s m dests x.1 = true then rankIn s m x.1 == 1 else
                if (s.graph.edges x.1).any (sendsUp s m (rankIn s m) x.1)
                  then (s.graph.edges x.1).all (ranksBelow s m (rankIn s m) x.1)
                  else rankIn s m x.1 == 0) = true)) ∧
            c.assertions.toList = a0 ++ new0 ++ new := by
      intro direct hdirect
      refine Spec.bind (Spec.term (G := fun m => RankDecided s m ∧ DeliveryDecided s m)
        (keeps_absorbed _ _) fun m hm => builds_absorbed hdst hm.2 dests r) fun abs =>
          Spec.assume fun habs => ?_
      refine Spec.bind (recursiveReachability_spec hg hcov hr fun p hp => (hmaps p hp).2)
        fun rec => Spec.assume fun hrec => ?_
      refine Spec.bind (Spec.term (G := fun m => RankDecided s m ∧ DeliveryDecided s m)
        (keeps_either _ _) fun m hm => builds_either (hdirect m hm.1 hm.2) (habs m hm))
        fun t1 => Spec.assume fun ht1 => ?_
      rw [hid r hr]
      refine Spec.bind (Spec.term (keeps_equals _ _) fun m (hm : RankDecided s m) =>
        builds_equals (m := m) (hm.eval_rank hr) rfl rfl rfl rfl) fun t2 => Spec.assume fun ht2 => ?_
      refine Spec.bind (Spec.term (G := fun m => RankDecided s m ∧ DeliveryDecided s m)
        (keeps_cond _ _ _) fun m hm => builds_cond (ht1 m hm) (ht2 m hm.1) (hrec m hm.1))
        fun t3 => Spec.assume fun ht3 => ?_
      refine Spec.bind Spec.assert fun _ => Spec.pure fun c hc =>
        ⟨_, rfl, new ++ asserted t3, fun m hm hd => ?_, by simp [hc]⟩
      rw [Model.satisfies_append, hnew m hm hd, satisfies_asserted_iff,
        Model.evalBool_eq_true_iff (ht3 m ⟨hm, hd⟩), List.forall_mem_append,
        List.forall_mem_singleton]
      simp [delivers]
    dsimp only
    split
    · next hhost =>
      exact htail _ fun m _ _ => by
        simp only [deliversDirectly, destEdges, hhost, Bool.true_or]
        rfl
    · next hhost =>
      refine Spec.bind (Spec.mono (Spec.forIn (fun pre' (d : Term) c =>
          (∀ m, RankDecided s m → DeliveryDecided s m → m.eval d =
            .ok (.bool (pre'.any fun e => e.peer.isNone && s.crosses m r e))) ∧
          c.assertions.toList = a0 ++ new0 ++ new) ?dest)
          (fun c hc => ⟨fun m _ _ => rfl, hc⟩) (fun _ _ h => h)) fun d => ?_
      case dest =>
        intro pre' e post' d hxs'
        have he : e ∈ destEdges s dests r := by
          rw [destEdges, hxs']
          exact List.mem_append_right pre' List.mem_cons_self
        have he' := List.mem_filter.1 he
        have ha : e.isAbstract = false := by
          have h2 := he'.2
          simp only [Bool.and_eq_true, Bool.not_eq_true'] at h2
          exact h2.1
        refine Spec.assume fun hd => ?_
        split
        · next hpeer =>
          obtain ⟨t, hft, ht⟩ := Slice.forwardsAcross_ok hcov he'.1 ha
          refine Spec.bind (Spec.liftOk hft) fun fwd => Spec.assume fun hfwd => ?_
          subst hfwd
          refine Spec.bind (Spec.term (G := fun m => RankDecided s m ∧ DeliveryDecided s m)
            (keeps_either _ _) fun m hm => builds_either (hd m hm.1 hm.2)
              (Slice.eval_crosses hm.1.decides ht)) fun d' => Spec.assume fun hd' => ?_
          refine Spec.pure fun c hc => ⟨_, rfl, fun m hm hdm => ?_, hc⟩
          rw [hd' m ⟨hm, hdm⟩, List.any_append]
          simp [hpeer]
        · next hpeer =>
          refine Spec.pure fun c hc => ⟨_, rfl, fun m hm hdm => ?_, hc⟩
          rw [hd m hm hdm, List.any_append]
          simp [hpeer]
      refine Spec.assume fun hd => htail d fun m hm hdm => ?_
      rw [hd m hm hdm]
      simp only [deliversDirectly, destEdges] at hhost ⊢
      simp [hhost]
  refine Spec.of_exists fun new => Spec.assume fun hnew => Spec.pure fun c hc =>
    ⟨fun p hp => (hmaps p hp).1, new0 ++ new, by simp [hc], fun m hm hd => ?_⟩
  rw [Model.satisfies_append, hnew0 m hm, hnew m hm hd, solves_iff,
    hg.forall_entries (P := fun r _ => (if delivers s m dests r = true then rankIn s m r == 1 else
      if (s.graph.edges r).any (sendsUp s m (rankIn s m) r)
        then (s.graph.edges r).all (ranksBelow s m (rankIn s m) r)
        else rankIn s m r == 0) = true), ← forall₂_and]

section Solutions

open Relation

variable {c : Context} {new : List Term} {m' : Model}

/-- Every variable read by the crossing terms, the permitted flags of connected best routes and
the packet's destination is registered in `c`. -/
structure ReadsRegistered (s : Slice) (c : Context) : Prop where
  crossing : s.RegisteredIn c
  permitted : ∀ r conn, s.bestOf? r .connected = some conn →
    ∀ x ∈ conn.permitted.vars, (c.index[x.1]?).isSome
  dstIp : ∀ x ∈ s.packet.dstIp.vars, (c.index[x.1]?).isSome

theorem eval_of_agree {t : Term} (hm : m'.AgreeOn c m)
    (ht : ∀ x ∈ t.vars, (c.index[x.1]?).isSome) : m'.eval t = m.eval t :=
  Model.eval_congr t fun x hx => by simp [Model.valueOf, hm x.1 (ht x hx)]

theorem DeliveryDecided.of_agree (hd : DeliveryDecided s m) (hreg : ReadsRegistered s c)
    (hm : m'.AgreeOn c m) : DeliveryDecided s m' where
  permitted r conn h := by
    rw [eval_of_agree hm (hreg.permitted r conn h)]
    exact hd.permitted r conn h
  dstIp := by
    rw [eval_of_agree hm hreg.dstIp]
    exact hd.dstIp

theorem delivers_of_agree (hreg : ReadsRegistered s c) (hm : m'.AgreeOn c m)
    (dests : List GraphEdge) (r : String) : delivers s m' dests r = delivers s m dests r := by
  simp only [delivers, deliversDirectly, absorbs, Slice.crosses_of_agree hreg.crossing hm,
    eval_of_agree hm hreg.dstIp]
  cases h : s.bestOf? r .connected with
  | none => rfl
  | some conn => simp only [Model.holds, eval_of_agree hm (hreg.permitted r conn h)]; rfl

/-- Any marking and ranks of the routers are read off a model that keeps the values of the
registered names, when the reachable and rank variables are not registered. -/
theorem exists_ranked (hg : s.graph.WellFormed)
    (hfresh : FreshUnder (rankPrefix s) [] c ∧ FreshUnder (reachPrefix s) [] c)
    (hreg : s.RegisteredIn c) (hd : s.Decides m) (v : String → Bool) (rank : String → Int) :
    ∃ m', m'.AgreeOn c m ∧ RankDecided s m' ∧
      ∀ p ∈ s.graph.routers, reached s m' p = v p ∧ rankIn s m' p = rank p := by
  let kvs := s.graph.routers.map (fun p => (reachPrefix s ++ p, Value.bool (v p))) ++
    s.graph.routers.map fun p => (rankPrefix s ++ p, Value.int (rank p))
  have hkeys : kvs.map Prod.fst =
      s.graph.routers.map (reachPrefix s ++ ·) ++ s.graph.routers.map (rankPrefix s ++ ·) := by
    simp [kvs, Function.comp_def]
  have hinj : ∀ pre : String, (s.graph.routers.map (pre ++ ·)).Nodup :=
    fun pre => hg.nodup.map fun _ _ h => (String.append_right_inj _).1 h
  have hnd : (kvs.map Prod.fst).Nodup := by
    rw [hkeys]
    refine List.nodup_append.2 ⟨hinj _, hinj _, ?_⟩
    simp only [List.mem_map]
    rintro _ ⟨p, -, rfl⟩ _ ⟨q, -, rfl⟩ h
    exact rankPrefix_append_ne s q p h.symm
  have hagree : (m.setAll kvs).AgreeOn c m := fun n hn => Model.get?_setAll_of_not_mem fun hmem => by
    rw [hkeys, List.mem_append] at hmem
    rcases hmem with hmem | hmem <;> obtain ⟨p, -, rfl⟩ := List.mem_map.1 hmem
    · simp [hfresh.2 p List.not_mem_nil] at hn
    · simp [hfresh.1 p List.not_mem_nil] at hn
  have hreach : ∀ p ∈ s.graph.routers, (m.setAll kvs).eval (reachVar s p) = .ok (.bool (v p)) :=
    fun p hp => by
      have hmem : (reachPrefix s ++ p, Value.bool (v p)) ∈ kvs :=
        List.mem_append_left _ (List.mem_map_of_mem hp)
      simp [reachVar, Model.eval, Model.valueOf, Model.get?_setAll_of_mem hnd hmem]
  have hrank : ∀ p ∈ s.graph.routers, (m.setAll kvs).eval (rankVar s p) = .ok (.int (rank p)) :=
    fun p hp => by
      have hmem : (rankPrefix s ++ p, Value.int (rank p)) ∈ kvs :=
        List.mem_append_right _ (List.mem_map_of_mem hp)
      simp [rankVar, Model.eval, Model.valueOf, Model.get?_setAll_of_mem hnd hmem]
  exact ⟨m.setAll kvs, hagree,
    ⟨hd.of_agree hreg hagree, fun p hp => ⟨_, hreach p hp⟩, fun p hp => ⟨_, hrank p hp⟩⟩,
    fun p hp => ⟨Model.holds_of_eval (hreach p hp), by simp [rankIn, hrank p hp]⟩⟩

/-- `m'` extends `m` to a solution of the assertions `new`: it keeps the value of every name
registered in `c`, decides the reachable and rank variables, and satisfies `new`. -/
def RankExtension (s : Slice) (c : Context) (new : List Term) (m m' : Model) : Prop :=
  m'.AgreeOn c m ∧ RankDecided s m' ∧ m'.Satisfies new

/-- Read as rank equations over the forwarding of `m`, the assertions `new` have exactly the
solutions the equations have: each marks the routers with a forwarding path to `D`, and one
exists iff rank steps form no cycle. -/
theorem rankExtension_iff (hg : s.graph.WellFormed)
    (hfresh : FreshUnder (rankPrefix s) [] c ∧ FreshUnder (reachPrefix s) [] c)
    (hreg : s.RegisteredIn c) (hd : s.Decides m) {D : String → Prop}
    (hsol : ∀ m', m'.AgreeOn c m → RankDecided s m' → (m'.Satisfies new ↔ Solves s m' D)) :
    (∀ m', RankExtension s c new m m' → ∀ r ∈ s.graph.routers,
      (m'.holds (reachVar s r) = true ↔ s.Reaches m D r)) ∧
    ((∃ m', RankExtension s c new m m') ↔ ∀ r, ¬TransGen (s.RankStep m D) r r) := by
  -- a ranking under a model that agrees with `m` is one under `m`, and back
  have hrank : ∀ {m' : Model}, m'.AgreeOn c m → ∀ {rank : String → Int},
      (s.Ranking m' D rank ↔ s.Ranking m D rank) := fun hm =>
    ⟨Slice.Ranking.congr hg (fun r p => (Slice.step_of_agree hreg hm (r := r) (p := p)).symm)
      fun _ _ => rfl,
     Slice.Ranking.congr hg (fun r p => Slice.step_of_agree hreg hm) fun _ _ => rfl⟩
  refine ⟨fun m' hm' r hr => ?_, ⟨fun hex q => ?_, fun hacyc => ?_⟩⟩
  · obtain ⟨hranking, hreached⟩ := (hsol m' hm'.1 hm'.2.1).1 hm'.2.2
    have h := hreached r hr
    simp only [reached] at h
    rw [h, decide_eq_true_iff]
    exact ((hrank hm'.1).1 hranking).pos_iff hg hr
  · obtain ⟨m', hm'⟩ := hex
    exact ((hrank hm'.1).1 ((hsol m' hm'.1 hm'.2.1).1 hm'.2.2).1).not_rankStep_cycle hg
  · classical
    obtain ⟨m', hagree, hdec, hval⟩ := exists_ranked hg hfresh hreg hd
      (fun p => decide (0 < s.rankOf m D p)) (s.rankOf m D)
    refine ⟨m', hagree, hdec, (hsol m' hagree hdec).2 ⟨?_, fun p hp => ?_⟩⟩
    · exact (hrank hagree).2 ((Slice.ranking_rankOf hg hacyc).congr hg (fun _ _ => Iff.rfl)
        fun p hp => (hval p hp).2)
    · rw [(hval p hp).1, (hval p hp).2]

end Solutions

open Relation

/-- What a reachability instrumentation `x` does, exactly, with `D m` the routers that deliver
under `m`. It returns the reachable variable of every router. For every model `m` of the
slice's variables, each solution of the assertions it adds marks exactly the routers with a
forwarding path to a delivering router, and a solution exists iff the steps out of routers that
do not deliver, into routers that reach a delivering one, form no cycle. -/
def ReachabilityExact (s : Slice) (c : Context) (x : Encode (NameMap Term))
    (D : Model → String → Prop) : Prop :=
  ∃ reach new, (x.runOn c).1 = .ok reach ∧
    (x.runOn c).2.assertions.toList = c.assertions.toList ++ new ∧
    (∀ p ∈ s.graph.routers, reach.get? p = some (reachVar s p)) ∧
    ∀ m, s.Decides m → DeliveryDecided s m →
      (∀ m', RankExtension s c new m m' → ∀ r ∈ s.graph.routers,
        (m'.holds (reachVar s r) = true ↔ s.Reaches m (D m) r)) ∧
      ((∃ m', RankExtension s c new m m') ↔ ∀ r, ¬TransGen (s.RankStep m (D m)) r r)

/-- Both reachability instrumentations, exactly: towards destination edges, where a router
delivers when it forwards out of a destination edge that leaves the network or owns the
packet's destination on one, and towards the router `dst`, the only one that delivers. -/
theorem reachability_marks_delivering_paths {c : Context} (hg : s.graph.WellFormed)
    (hcov : s.Covers) (hdst : s.packet.dstIp.sort = .bitVec 32)
    (hfresh : FreshUnder (rankPrefix s) [] c ∧ FreshUnder (reachPrefix s) [] c)
    (hreg : ReadsRegistered s c) :
    (∀ dests, ReachabilityExact s c (reachability s dests) fun m r => delivers s m dests r = true) ∧
    ∀ dst, ReachabilityExact s c (reachabilityOf s dst) fun _ r => r = dst := by
  constructor
  · intro dests
    obtain ⟨reach, hrun, hmaps, new, hnew, hsol⟩ :=
      reachability_spec hg hcov hdst dests c ⟨hfresh.1, hfresh.2, rfl⟩
    refine ⟨reach, new, hrun, hnew, hmaps, fun m hd hdd =>
      rankExtension_iff hg hfresh hreg.crossing hd fun m' hm hdec => ?_⟩
    rw [hsol m' hdec (hdd.of_agree hreg hm)]
    simp only [delivers_of_agree hreg hm]
  · intro dst
    obtain ⟨reach, hrun, hmaps, new, hnew, hsol⟩ :=
      reachabilityOf_spec hg hcov dst c ⟨hfresh.1, hfresh.2, rfl⟩
    exact ⟨reach, new, hrun, hnew, hmaps, fun m hd _ =>
      rankExtension_iff hg hfresh hreg.crossing hd fun m' _ hdec => hsol m' hdec⟩

def lanEdge (r : String) : GraphEdge := { router := r, start := { name := "lan" } }

/-- `R` forwards both to `P` and to `D`, `P` forwards back to `R`, and `D` forwards out of its
`lan` edge; every edge is crossed. -/
def multipathSlice : Slice :=
  { (default : Slice) with
    graph := { (default : Graph) with
      configs := ⟨[("D", default), ("P", default), ("R", default)]⟩
      edgeMap := ⟨[("D", [lanEdge "D"]), ("P", [linkEdge "P" "R"]),
        ("R", [linkEdge "R" "P", linkEdge "R" "D"])]⟩ }
    packet := { (default : Packet) with dstIp := .bv 0 32 }
    forwards := ⟨[("D", [(lanEdge "D", .tt)]), ("P", [(linkEdge "P" "R", .tt)]),
      ("R", [(linkEdge "R" "P", .tt), (linkEdge "R" "D", .tt)])]⟩ }

theorem mem_multipath_edges {r : String} {e : GraphEdge} :
    e ∈ multipathSlice.graph.edges r ↔ (r = "D" ∧ e = lanEdge "D") ∨
      (r = "P" ∧ e = linkEdge "P" "R") ∨ (r = "R" ∧ (e = linkEdge "R" "P" ∨ e = linkEdge "R" "D")) := by
  simp only [Graph.edges, NameMap.getD, NameMap.get?, multipathSlice, NameMap.lookup_cons_ite]
  by_cases hD : r = "D" <;> by_cases hP : r = "P" <;> by_cases hR : r = "R" <;> simp_all

theorem multipath_forwardsAcross_eq {r : String} {e : GraphEdge} {t : Term}
    (h : multipathSlice.forwardsAcross? r e = some t) : t = .tt := by
  simp only [Slice.forwardsAcross?, multipathSlice, NameMap.getD, NameMap.get?,
    NameMap.lookup_cons_ite] at h
  by_cases hD : r = "D" <;> by_cases hP : r = "P" <;> by_cases hR : r = "R" <;>
    simp_all [Ordered.find?]; split at h <;> simp_all

theorem multipath_bestOf (r : String) (p : Protocol) : multipathSlice.bestOf? r p = none := rfl

theorem multipath_wellFormed : multipathSlice.graph.WellFormed where
  keys_eq := rfl
  nodup := by decide
  peer_mem := fun r e he p hp => by
    rcases mem_multipath_edges.1 he with ⟨rfl, rfl⟩ | ⟨rfl, rfl⟩ | ⟨rfl, rfl | rfl⟩ <;>
      cases hp <;> decide

theorem multipath_covers : multipathSlice.Covers := fun r e he _ => by
  rcases mem_multipath_edges.1 he with ⟨rfl, rfl⟩ | ⟨rfl, rfl⟩ | ⟨rfl, rfl | rfl⟩ <;> decide

theorem multipath_registered : ReadsRegistered multipathSlice {} where
  crossing := fun _ _ _ h x hx => by
    cases multipath_forwardsAcross_eq h
    simp [Term.tt, Term.vars] at hx
  permitted := fun r _ h => by simp [multipath_bestOf r] at h
  dstIp := fun x hx => by simp [multipathSlice, Term.vars] at hx

theorem multipath_decides : multipathSlice.Decides {} := fun _ _ _ h =>
  ⟨true, by cases multipath_forwardsAcross_eq h; rfl⟩

theorem multipath_deliveryDecided : DeliveryDecided multipathSlice {} where
  permitted := fun r _ h => by simp [multipath_bestOf r] at h
  dstIp := ⟨.bv 0, rfl, rfl⟩

theorem multipath_steps : multipathSlice.Step {} "R" "P" ∧ multipathSlice.Step {} "P" "R" ∧
    multipathSlice.Step {} "R" "D" :=
  ⟨⟨linkEdge "R" "P", mem_multipath_edges.2 (.inr (.inr ⟨rfl, .inl rfl⟩)), rfl, rfl, by decide⟩,
    ⟨linkEdge "P" "R", mem_multipath_edges.2 (.inr (.inl ⟨rfl, rfl⟩)), rfl, rfl, by decide⟩,
    ⟨linkEdge "R" "D", mem_multipath_edges.2 (.inr (.inr ⟨rfl, .inr rfl⟩)), rfl, rfl, by decide⟩⟩

theorem multipath_rankStep_cycle {D : String → Prop} (hD : D "D") (hR : ¬D "R") (hP : ¬D "P") :
    TransGen (multipathSlice.RankStep {} D) "R" "R" := by
  obtain ⟨hRP, hPR, hRD⟩ := multipath_steps
  have hreachR : multipathSlice.Reaches {} D "R" := ⟨"D", .single hRD, hD⟩
  exact .head ⟨hR, hRP, .head hPR hreachR⟩ (.single ⟨hP, hPR, hreachR⟩)

/-- In the multipath slice, `R` reaches `D` and packets loop between `R` and `P` as well: the
reachability assertions towards `D`'s `lan` edge, and those towards the router `D`, have no
solution under the model that sets nothing. -/
theorem reachability_unsolvable_multipath :
    (∃ new, ((reachability multipathSlice [lanEdge "D"]).runOn {}).2.assertions.toList = new ∧
      multipathSlice.Reaches {} (delivers multipathSlice {} [lanEdge "D"] · = true) "R" ∧
      ¬∃ m', RankExtension multipathSlice {} new {} m') ∧
    (∃ new, ((reachabilityOf multipathSlice "D").runOn {}).2.assertions.toList = new ∧
      multipathSlice.Reaches {} (· = "D") "R" ∧ ¬∃ m', RankExtension multipathSlice {} new {} m') := by
  have hfresh : FreshUnder (rankPrefix multipathSlice) [] {} ∧
      FreshUnder (reachPrefix multipathSlice) [] {} := ⟨fun _ _ => by simp, fun _ _ => by simp⟩
  obtain ⟨hdests, hdst⟩ := reachability_marks_delivering_paths (c := {}) multipath_wellFormed
    multipath_covers rfl hfresh multipath_registered
  have hRD := multipath_steps.2.2
  obtain ⟨_, new, _, hnew, _, hall⟩ := hdests [lanEdge "D"]
  obtain ⟨_, new', _, hnew', _, hall'⟩ := hdst "D"
  refine ⟨⟨new, by simpa using hnew, ⟨"D", .single hRD, by decide⟩, fun hex => ?_⟩,
    ⟨new', by simpa using hnew', ⟨"D", .single hRD, rfl⟩, fun hex => ?_⟩⟩
  · exact ((hall {} multipath_decides multipath_deliveryDecided).2.1 hex) "R"
      (multipath_rankStep_cycle (by decide) (by decide) (by decide))
  · exact ((hall' {} multipath_decides multipath_deliveryDecided).2.1 hex) "R"
      (multipath_rankStep_cycle rfl (by decide) (by decide))

end Instrument
end ControlPlane
