import ControlPlane.Proofs.Encoding.SliceGrowth
import ControlPlane.Proofs.Encoding.Guarantees

/-!
# Selection of best routes

Three families of constraints tie the best routes of a slice to the routes its routers import:

* a chosen import edge carries a permitted route (`Slice.ChoiceSound`);
* a permitted import makes the best route of its protocol permitted (`Slice.BestSound`);
* a permitted best route of one protocol makes the overall best route of a router with several
  protocols permitted (`Slice.OverallSound`).

Each holds in every model of the assertions after the step that adds it. The best route
constraints assert a disjunction equal to the best route's permitted flag; where that flag has a
value, one permitted route of the disjunction makes it permitted (`Model.ImpliedByAny`).
-/

namespace ControlPlane

def Model.ImpliedByAny (m : Model) (b : Term) (ts : List Term) : Prop :=
  (∃ v, m.eval b = .ok v) → ∀ t ∈ ts, m.eval t = .ok (.bool true) → m.eval b = .ok (.bool true)

namespace Encode

variable {β : Type} {F : Model → Prop}

/-- A disjunction of `ts` asserted equal to `b`: where `b` has a value, it is true when one of
`ts` is. -/
theorem Hoare.assert_anyOf_equals (ts : List Term) (b : Term) {k : Term → Unit → Encode β}
    {Q : β → Context → Prop}
    (hk : ∀ o, Hoare (fun c => c.Ensures fun m => F m ∧ m.ImpliedByAny b ts) (k o ()) Q) :
    Hoare (fun c => c.Ensures F)
      (liftM (Build.anyOf ts) >>= fun o => liftM (Build.equals o b) >>= fun e =>
        liftM (Build.assert e) >>= k o) Q := by
  refine Hoare.build_bind (by simp) (Build.builds_anyOf_of_mem ts) fun o ho => ?_
  refine Hoare.build_bind (by simp) (Build.builds_equals_true o b) fun e he => ?_
  refine Hoare.assert_bind (Hoare.mono (hk o) (fun c hc => hc.mono fun m hm => ⟨hm.1, ?_⟩) fun _ _ h => h)
  -- the disjunction has the value of `b`, so it is true, and so is `b`
  intro hb t ht htrue
  obtain ⟨v, hv⟩ := (he m hm.2).2 hb
  cases ho m v hv t ht htrue
  exact (he m hm.2).1.1 hv

end Encode

open Encode

namespace Slice

variable {s : Slice} {m : Model}

def ChosenPermitted (s : Slice) (m : Model) (r : String) (le : LogicalEdge) : Prop :=
  ∀ ch, s.decisions.choiceOf? r le.id = some ch → m.eval ch = .ok (.bool true) →
    m.eval le.route.permitted = .ok (.bool true)

def ChoiceSound (s : Slice) (m : Model) : Prop :=
  ∀ q ∈ s.scope.protocols.entries, ∀ c, s.graph.config q.1 = .ok c → ∀ p ∈ q.2,
    (s.bestOf? q.1 p).isSome → ∀ le ∈ s.logical.importEdges s.graph c p, s.ChosenPermitted m q.1 le

theorem hoare_addChoicePerProtocol (s : Slice) (F : Model → Prop) :
    Hoare (fun c => c.Ensures F) s.addChoicePerProtocol
      fun _ c => c.Ensures fun m => F m ∧ s.ChoiceSound m := by
  unfold addChoicePerProtocol
  refine Hoare.bind (Hoare.forIn_each (fun q _ F => ?_) F) fun _ =>
    Hoare.pure fun c hc => hc.mono fun m hm => ⟨hm.1, hm.2⟩
  obtain ⟨router, protos⟩ := q
  refine Hoare.bind Hoare.liftNetwork fun c => Hoare.assume fun hc => ?_
  refine Hoare.bind (Hoare.forIn_each (G := fun p m => (s.bestOf? router p).isSome →
      ∀ le ∈ s.logical.importEdges s.graph c p, s.ChosenPermitted m router le) (fun p _ F => ?_) F)
    fun _ => Hoare.pure fun c' hc' => ⟨rfl, hc'.mono fun m hm => ⟨hm.1, fun c'' hc'' => ?_⟩⟩
  · split
    · next best hbest =>
      refine Hoare.bind (Hoare.forIn_each (G := fun le m => s.ChosenPermitted m router le)
        (fun le _ F => ?_) F) fun _ => Hoare.pure fun c hc => ⟨rfl, hc.mono fun m hm => ⟨hm.1, fun _ => hm.2⟩⟩
      refine Hoare.bind Hoare.need fun ch => Hoare.assume fun hch => ?_
      refine Hoare.frame_bind (by simp) fun e => ?_
      refine Hoare.build_bind (by simp) (Build.builds_both_holds _ _) fun isBest hbest => ?_
      refine Hoare.build_bind (by simp) (Build.builds_equals_holds _ _) fun eq heq => ?_
      refine Hoare.assert_bind (Hoare.pure fun c hc => ⟨rfl, hc.mono fun m hm => ⟨hm.1, ?_⟩⟩)
      intro ch' hch' htrue
      rw [hch] at hch'
      cases hch'
      exact (hbest m ((heq m hm.2).1 htrue)).1
    · next hnone =>
      refine Hoare.pure fun c hc => ⟨rfl, hc.mono fun m hm => ⟨hm, fun h => ?_⟩⟩
      obtain ⟨b, hb⟩ := Option.isSome_iff_exists.1 h
      exact absurd hb (hnone b)
  · cases hc.symm.trans hc''
    exact hm.2

/-- The best route constraints of each protocol: a permitted import makes the protocol's best
route permitted. -/
def BestSound (s : Slice) (m : Model) : Prop :=
  ∀ q ∈ s.scope.protocols.entries, ∀ c, s.graph.config q.1 = .ok c → ∀ p ∈ q.2, ∀ bp,
    s.bestOf? q.1 p = some bp →
      m.ImpliedByAny bp.permitted ((s.logical.importEdges s.graph c p).map (·.route.permitted))

theorem hoare_addBestPerProtocol (s : Slice) (env : SliceEnv) (F : Model → Prop) :
    Hoare (fun c => c.Ensures F) (s.addBestPerProtocol env)
      fun _ c => c.Ensures fun m => F m ∧ s.BestSound m := by
  unfold addBestPerProtocol
  refine Hoare.bind (Hoare.forIn_each (fun q _ F => ?_) F) fun _ =>
    Hoare.pure fun c hc => hc.mono fun m hm => ⟨hm.1, hm.2⟩
  obtain ⟨router, protos⟩ := q
  refine Hoare.bind Hoare.liftNetwork fun c => Hoare.assume fun hc => ?_
  refine Hoare.bind (Hoare.forIn_each (G := fun p m => ∀ bp, s.bestOf? router p = some bp →
      m.ImpliedByAny bp.permitted ((s.logical.importEdges s.graph c p).map (·.route.permitted)))
      (fun p _ F => ?_) F)
    fun _ => Hoare.pure fun c' hc' => ⟨rfl, hc'.mono fun m hm => ⟨hm.1, fun c'' hc'' => ?_⟩⟩
  · split
    · next best hbest =>
      -- the loop collects the permitted flags of the import edges
      refine Hoare.bind (Hoare.mono (Hoare.forIn (fun pre b c =>
          b.1 = pre.map (·.route.permitted) ∧ c.Ensures F) fun pre le post b _ => ?_)
        (fun c hc => ⟨rfl, hc⟩) fun _ _ h => h) fun b => Hoare.assume fun hb => ?_
      · refine Hoare.assume fun hb => ?_
        refine Hoare.frame_bind (by simp) fun _ => ?_
        refine Hoare.frame_bind (by simp) fun _ => ?_
        refine Hoare.frame_bind (by simp) fun _ => ?_
        refine Hoare.frame_bind (by simp) fun _ => ?_
        refine Hoare.frame_bind (by simp) fun _ => ?_
        exact Hoare.pure fun c hc => ⟨_, rfl, by simp [hb], hc⟩
      dsimp only
      split
      · refine Hoare.assert_anyOf_equals _ _ fun o => ?_
        refine Hoare.frame_bind (by simp) fun _ => ?_
        refine Hoare.frame_bind (by simp) fun _ => ?_
        refine Hoare.frame_bind (by simp) fun _ => ?_
        refine Hoare.pure fun c hc => ⟨rfl, hc.mono fun m hm => ⟨hm.1, fun bp hbp => ?_⟩⟩
        rw [hbest] at hbp
        cases hbp
        rw [← hb]
        exact hm.2
      · next hempty =>
        refine Hoare.pure fun c hc => ⟨rfl, hc.mono fun m hm => ⟨hm, fun bp _ _ t ht => ?_⟩⟩
        simp only [hb, Bool.not_eq_true', List.isEmpty_eq_false_iff, ne_eq, Classical.not_not] at hempty
        rw [hempty] at ht
        cases ht
    · next hnone =>
      exact Hoare.pure fun c hc => ⟨rfl, hc.mono fun m hm => ⟨hm, fun bp hbp => absurd hbp (hnone bp)⟩⟩
  · cases hc.symm.trans hc''
    exact hm.2

/-- The overall best route constraints of a router with several protocols: a permitted best route
of one of its protocols makes its overall best route permitted. -/
def OverallSound (s : Slice) (m : Model) : Prop :=
  ∀ q ∈ s.scope.protocols.entries, s.scope.isSingle q.1 = false → ∀ best,
    s.decisions.best.get? q.1 = some best →
      m.ImpliedByAny best.permitted ((q.2.filterMap (s.bestOf? q.1)).map (·.permitted))

theorem hoare_addBestOverall (s : Slice) (env : SliceEnv) (F : Model → Prop) :
    Hoare (fun c => c.Ensures F) (s.addBestOverall env)
      fun _ c => c.Ensures fun m => F m ∧ s.OverallSound m := by
  unfold addBestOverall
  refine Hoare.bind (Hoare.forIn_each (fun q _ F => ?_) F) fun _ =>
    Hoare.pure fun c hc => hc.mono fun m hm => ⟨hm.1, hm.2⟩
  obtain ⟨router, protos⟩ := q
  dsimp only
  split
  · next hmulti =>
    refine Hoare.bind Hoare.liftNetwork fun c => Hoare.assume fun _ => ?_
    split
    · next best hbest =>
      -- the loop collects the permitted flags of the protocols' best routes
      refine Hoare.bind (Hoare.mono (Hoare.forIn (fun pre b c =>
          b.1 = (pre.filterMap (s.bestOf? router)).map (·.permitted) ∧ c.Ensures F)
          fun pre p post b _ => ?_)
        (fun c hc => ⟨rfl, hc⟩) fun _ _ h => h) fun b => Hoare.assume fun hb => ?_
      · refine Hoare.assume fun hb => ?_
        split
        · next bv hbv =>
          refine Hoare.frame_bind (by simp) fun _ => ?_
          refine Hoare.frame_bind (by simp) fun _ => ?_
          refine Hoare.frame_bind (by simp) fun _ => ?_
          refine Hoare.frame_bind (by simp) fun _ => ?_
          refine Hoare.frame_bind (by simp) fun _ => ?_
          exact Hoare.pure fun c hc => ⟨_, rfl, by simp [hb, hbv], hc⟩
        · next hnone =>
          refine Hoare.pure fun c hc => ⟨_, rfl, ?_, hc⟩
          cases hp : s.bestOf? router p with
          | none => simp [hb, hp]
          | some bv => exact absurd hp (hnone bv)
      split
      · next hempty =>
        refine Hoare.frame_bind (by simp) fun _ => ?_
        refine Hoare.frame_bind (by simp) fun _ => ?_
        refine Hoare.pure fun c hc => ⟨rfl, hc.mono fun m hm => ⟨hm, fun h best' hbest' _ t ht => ?_⟩⟩
        rw [← hb, List.isEmpty_iff.1 hempty] at ht
        cases ht
      · refine Hoare.assert_anyOf_equals _ _ fun o => ?_
        refine Hoare.frame_bind (by simp) fun _ => ?_
        refine Hoare.frame_bind (by simp) fun _ => ?_
        refine Hoare.frame_bind (by simp) fun _ => ?_
        refine Hoare.pure fun c hc => ⟨rfl, hc.mono fun m hm => ⟨hm.1, fun _ best' hbest' => ?_⟩⟩
        rw [hbest] at hbest'
        cases hbest'
        rw [← hb]
        exact hm.2
    · next hnone =>
      exact Hoare.pure fun c hc =>
        ⟨rfl, hc.mono fun m hm => ⟨hm, fun _ best hbest => absurd hbest (hnone best)⟩⟩
  · next hsingle =>
    refine Hoare.pure fun c hc => ⟨rfl, hc.mono fun m hm => ⟨hm, fun h => ?_⟩⟩
    simp [h] at hsingle

end Slice

end ControlPlane
