import ControlPlane.Proofs.Encoding.SelectionConstraints
import ControlPlane.Proofs.Encoding.BestRecords
import ControlPlane.Proofs.Network.BuiltGraph

/-!
# Forwarding decisions follow the selected route

No constraint says directly that a router forwards only with a permitted best route. It follows
from the selection constraints and two more families, each shown to hold in every model after
the step that adds it: a control forwarding variable is true only over a chosen import edge of a
modeled protocol and false where no used import edge runs (`Slice.ControlSound`), and a data
forwarding variable only where the router forwards and the outbound filter lets the packet out
(`Slice.DataSound`). `forwarding_follows_best_route` reads the result off every encoding.
-/

namespace ControlPlane

namespace Ordered

variable {κ α : Type} {cmp : κ → κ → Ordering}

theorem find?_put_of_cmp_eq [Std.TransCmp cmp] {k k' : κ} (h : cmp k k' = .eq) (v : α) (l : List (κ × α)) :
    find? cmp k (put cmp k' v l) = some v := by
  rw [find?_congr h, find?_put_self]

theorem find?_put_of_cmp_ne [Std.TransCmp cmp] {k k' : κ} (h : cmp k k' ≠ .eq) (v : α) (l : List (κ × α)) :
    find? cmp k (put cmp k' v l) = find? cmp k l := by
  have hne : ∀ y, cmp k' y = .eq → cmp k y ≠ .eq := fun y hy hky =>
    h (Std.TransCmp.eq_trans hky (Std.OrientedCmp.eq_symm hy))
  induction l with
  | nil => simp [put, find?, hne k' Std.ReflCmp.compare_self]
  | cons q l ih =>
    obtain ⟨k'', v'⟩ := q
    simp only [put]
    split
    · simp [find?, hne k' Std.ReflCmp.compare_self]
    · next heq => simp [find?, hne k'' heq]
    · simp [find?, ih]

end Ordered

namespace Decisions

variable {d : Decisions} {a b : GraphEdge}

theorem controlOf?_congr (h : GraphEdge.cmp a b = .eq) : d.controlOf? a = d.controlOf? b := by
  unfold controlOf?
  rw [(GraphEdge.sameEnds_of_cmp_eq h).1]
  exact Ordered.find?_congr h _

end Decisions

open Encode

namespace Slice

variable {s : Slice} {m : Model}

/-- An import edge of a modeled protocol of `r`, used by the protocol in configuration `c`, runs
over `e`, and its logical edge satisfies `P`. -/
def ImportOver (s : Slice) (r : String) (c : Configuration) (e : GraphEdge)
    (P : LogicalEdge → Prop) : Prop :=
  ∃ p ∈ s.scope.protocolsOf r, ∃ le ∈ s.logical.importEdges s.graph c p,
    GraphEdge.cmp le.edge e = .eq ∧ P le

theorem ImportOver.congr {r : String} {c : Configuration} {e e' : GraphEdge} {P : LogicalEdge → Prop}
    (h : s.ImportOver r c e P) (he : GraphEdge.cmp e e' = .eq) : s.ImportOver r c e' P := by
  obtain ⟨p, hp, le, hle, hcmp, hP⟩ := h
  exact ⟨p, hp, le, hle, Std.TransCmp.eq_trans hcmp he, hP⟩

def Chosen (s : Slice) (m : Model) (r : String) (le : LogicalEdge) : Prop :=
  ∃ ch, s.decisions.choiceOf? r le.id = some ch ∧ m.eval ch = .ok (.bool true)

/-- What the sending conditions collected for router `r` with configuration `c` say: an edge with
conditions carries a used import edge, and means that the router has an import edge; a true
condition comes from a chosen import edge over the edge. -/
def SendsInv (s : Slice) (r : String) (c : Configuration) (x : List (GraphEdge × List Term) × Bool) :
    Prop :=
  ∀ k ts, Ordered.find? GraphEdge.cmp k x.1 = some ts → x.2 = true ∧
    s.ImportOver r c k (fun _ => True) ∧
      ∀ t ∈ ts, ∀ m : Model, m.eval t = .ok (.bool true) → s.ImportOver r c k (s.Chosen m r)

theorem sendsInv_nil (r : String) (c : Configuration) (b : Bool) : s.SendsInv r c ([], b) :=
  fun _ _ h => nomatch h

/-- Adding the condition of a used import edge of a modeled protocol keeps what the conditions
say. -/
theorem SendsInv.update {r : String} {c : Configuration} {x : List (GraphEdge × List Term) × Bool}
    (h : s.SendsInv r c x) {p : Protocol} (hp : p ∈ s.scope.protocolsOf r) {le : LogicalEdge}
    (hle : le ∈ s.logical.importEdges s.graph c p) {sends : Term}
    (hsends : ∀ m : Model, m.eval sends = .ok (.bool true) → s.Chosen m r le) :
    s.SendsInv r c (Ordered.update GraphEdge.cmp le.edge [] (· ++ [sends]) x.1, true) := by
  intro k ts hk
  unfold Ordered.update at hk
  by_cases hkl : GraphEdge.cmp k le.edge = .eq
  · rw [Ordered.find?_put_of_cmp_eq hkl] at hk
    cases hk
    have hlk := Std.OrientedCmp.eq_symm hkl
    refine ⟨rfl, ⟨p, hp, le, hle, hlk, trivial⟩, fun t ht m htrue => ?_⟩
    rcases List.mem_append.1 ht with ht | ht
    · -- a condition collected before, under the same edge
      cases hold : Ordered.find? GraphEdge.cmp le.edge x.1 with
      | none => simp [hold] at ht
      | some old =>
        rw [hold, Option.getD_some] at ht
        exact ((h le.edge old hold).2.2 t ht m htrue).congr hlk
    · rw [List.mem_singleton.1 ht] at htrue
      exact ⟨p, hp, le, hle, hlk, hsends m htrue⟩
  · rw [Ordered.find?_put_of_cmp_ne hkl] at hk
    exact ⟨rfl, (h k ts hk).2⟩

theorem hoare_addSendingEdges (s : Slice) (r : String) (c : Configuration) (best : Route)
    (F : Model → Prop) :
    Hoare (fun c => c.Ensures F) (s.addSendingEdges r c best)
      fun x ctx => s.SendsInv r c x ∧ ctx.Ensures F := by
  unfold addSendingEdges
  refine Hoare.bind (Hoare.mono (Hoare.forIn (fun _ x ctx => s.SendsInv r c x ∧ ctx.Ensures F)
      fun pre p post x hxs => ?_) (fun _ hctx => ⟨sendsInv_nil r c false, hctx⟩) fun _ _ h => h)
    fun x => Hoare.pure fun _ h => h
  have hp : p ∈ s.scope.protocolsOf r := by simp [hxs]
  refine Hoare.assume fun hx => ?_
  refine Hoare.bind (Hoare.mono (Hoare.forIn (fun _ y ctx => s.SendsInv r c y ∧ ctx.Ensures F)
      fun pre le post y hys => ?_) (fun _ hctx => ⟨hx, hctx⟩) fun _ _ h => h)
    fun y => Hoare.pure fun _ h => ⟨_, rfl, h⟩
  have hle : le ∈ s.logical.importEdges s.graph c p := by simp [hys]
  refine Hoare.assume fun hy => ?_
  dsimp only
  refine Hoare.bind Hoare.need fun ch => Hoare.assume fun hch => ?_
  refine Hoare.frame_bind (by simp) fun _ => ?_
  refine Hoare.build_bind (by simp) (Build.builds_both_holds _ _) fun isBest hbest => ?_
  -- connected routes send under a condition of their own; the rest of the pass is the same
  split <;> refine Hoare.frame_bind (by simp) fun canSend => ?_
  all_goals
    refine Hoare.build_bind (by simp) (Build.builds_both_holds _ _) fun sends hsends => ?_
    refine Hoare.frame_bind (by simp) fun _ => ?_
    refine Hoare.frame_bind (by simp) fun _ => ?_
    refine Hoare.frame_bind (by simp) fun _ => ?_
    exact Hoare.pure fun _ hctx => ⟨_, rfl,
      hy.update hp hle fun m h => ⟨ch, hch, (hbest m (hsends m h).2).1⟩, hctx⟩

theorem hoare_forbidSilentEdges (s : Slice) (r : String) (l : List (GraphEdge × List Term))
    (F : Model → Prop) :
    Hoare (fun c => c.Ensures F) (s.forbidSilentEdges r l) fun _ c => c.Ensures fun m => F m ∧
      ∀ e ∈ s.graph.edges r, Ordered.find? GraphEdge.cmp e l = none →
        ∃ cf, s.decisions.controlOf? e = some cf ∧ m.eval cf = .ok (.bool false) := by
  unfold forbidSilentEdges
  refine Hoare.bind (Hoare.forIn_each (G := fun e m => Ordered.find? GraphEdge.cmp e l = none →
      ∃ cf, s.decisions.controlOf? e = some cf ∧ m.eval cf = .ok (.bool false)) (fun e _ F => ?_) F)
    fun _ => Hoare.pure fun _ h => h
  split
  · refine Hoare.bind Hoare.need fun cf => Hoare.assume fun hcf => ?_
    refine Hoare.build_bind (by simp) (Build.builds_neg_holds _) fun d hd => ?_
    exact Hoare.assert_bind (Hoare.pure fun c hc =>
      ⟨rfl, hc.mono fun m hm => ⟨hm.1, fun _ => ⟨cf, hcf, hd m hm.2⟩⟩⟩)
  · next hmem =>
    refine Hoare.pure fun c hc => ⟨rfl, hc.mono fun m hm => ⟨hm, fun hnone => ?_⟩⟩
    simp [Ordered.mem, hnone] at hmem

/-- The edge `e` has a control forwarding variable, and where it is true, one of the sending
conditions of `e` in `l` is true. -/
def Required (s : Slice) (m : Model) (l : List (GraphEdge × List Term)) (e : GraphEdge) : Prop :=
  ∃ cf, s.decisions.controlOf? e = some cf ∧ (m.eval cf = .ok (.bool true) →
    ∃ ts, Ordered.find? GraphEdge.cmp e l = some ts ∧ ∃ t ∈ ts, m.eval t = .ok (.bool true))

theorem Required.congr {l : List (GraphEdge × List Term)} {e e' : GraphEdge} (h : s.Required m l e)
    (he : GraphEdge.cmp e e' = .eq) : s.Required m l e' := by
  obtain ⟨cf, hcf, hsends⟩ := h
  refine ⟨cf, by rw [← Decisions.controlOf?_congr he]; exact hcf, fun htrue => ?_⟩
  obtain ⟨ts, hts, ht⟩ := hsends htrue
  exact ⟨ts, by rw [← Ordered.find?_congr he]; exact hts, ht⟩

theorem hoare_requireSending (s : Slice) (r : String) (l : List (GraphEdge × List Term))
    (F : Model → Prop) :
    Hoare (fun c => c.Ensures F) (s.requireSending r l) fun _ c => c.Ensures fun m => F m ∧
      ∀ p ∈ s.scope.protocolsOf r, ∀ le ∈ s.logical.edgesOf r p, s.Required m l le.edge := by
  unfold requireSending
  -- the edges seen so far are required, and so are the edges of the protocols done
  refine Hoare.bind (Hoare.mono (Hoare.forIn (fun pre seen c => c.Ensures fun m => F m ∧
      (∀ k ∈ seen, s.Required m l k) ∧ ∀ p ∈ pre, ∀ le ∈ s.logical.edgesOf r p, s.Required m l le.edge)
      fun pre p post seen _ => ?_) (fun c hc => hc.mono fun m hm => ⟨hm, by simp, by simp⟩)
      fun _ _ h => h)
    fun _ => Hoare.pure fun c hc => hc.mono fun m hm => ⟨hm.1, hm.2.2⟩
  refine Hoare.bind (Hoare.mono (Hoare.forIn (fun pre' seen c => c.Ensures fun m =>
      (F m ∧ ∀ p ∈ pre, ∀ le ∈ s.logical.edgesOf r p, s.Required m l le.edge) ∧
        (∀ k ∈ seen, s.Required m l k) ∧ ∀ le ∈ pre', s.Required m l le.edge)
      fun pre' le post' seen _ => ?_)
      (fun c hc => hc.mono fun m hm => ⟨⟨hm.1, hm.2.2⟩, hm.2.1, by simp⟩) fun _ _ h => h)
    fun seen' => Hoare.pure fun c hc => ⟨_, rfl, hc.mono fun m hm => ⟨hm.1.1, hm.2.1, fun p' hp' => ?_⟩⟩
  · dsimp only
    split
    · -- a new edge: its assertion makes it required
      refine Hoare.bind Hoare.need fun cf => Hoare.assume fun hcf => ?_
      have hstep : ∀ m : Model, (F m ∧ ∀ p ∈ pre, ∀ le ∈ s.logical.edgesOf r p, s.Required m l le.edge) ∧
          (∀ k ∈ seen, s.Required m l k) ∧ (∀ le ∈ pre', s.Required m l le.edge) →
          s.Required m l le.edge →
          (F m ∧ ∀ p ∈ pre, ∀ le ∈ s.logical.edgesOf r p, s.Required m l le.edge) ∧
            (∀ k ∈ Ordered.insert GraphEdge.cmp le.edge seen, s.Required m l k) ∧
            ∀ le' ∈ pre' ++ [le], s.Required m l le'.edge := by
        rintro m ⟨hF, hseen, hpre⟩ hle
        refine ⟨hF, fun k hk => ?_, fun le' hle' => ?_⟩
        · rcases Ordered.mem_insert hk with rfl | hk
          · exact hle
          · exact hseen k hk
        · rcases List.mem_append.1 hle' with hle' | hle'
          · exact hpre le' hle'
          · rw [List.mem_singleton.1 hle']
            exact hle
      split
      · next sends hsends =>
        refine Hoare.build_bind (by simp) (Build.builds_anyOf_holds sends) fun a ha => ?_
        refine Hoare.build_bind (by simp) (Build.builds_neg_eval a) fun na hna => ?_
        refine Hoare.build_bind (by simp) (Build.builds_neg_eval cf) fun ncf hncf => ?_
        refine Hoare.build_bind (by simp) (Build.builds_implies_holds na ncf) fun i hi => ?_
        refine Hoare.assert_bind (Hoare.pure fun c hc =>
          ⟨_, rfl, hc.mono fun m hm => hstep m hm.1 ⟨cf, hcf, fun htrue => ?_⟩⟩)
        -- a true control variable makes the negated disjunction false
        have hncf' : m.eval ncf = .ok (.bool false) := (hncf m false).2 htrue
        have hna' : m.eval a = .ok (.bool true) := (hna m false).1 ((hi m hm.2).2 hncf')
        exact ⟨sends, hsends, ha m hna'⟩
      · refine Hoare.build_bind (by simp) (Build.builds_neg_eval cf) fun ncf hncf => ?_
        refine Hoare.assert_bind (Hoare.pure fun c hc =>
          ⟨_, rfl, hc.mono fun m hm => hstep m hm.1 ⟨cf, hcf, fun htrue => ?_⟩⟩)
        cases htrue.symm.trans ((hncf m true).1 hm.2)
    · -- an edge seen before is required already
      next hseen =>
      refine Hoare.pure fun c hc => ⟨_, rfl, hc.mono fun m hm => ⟨hm.1, hm.2.1, fun le' hle' => ?_⟩⟩
      rcases List.mem_append.1 hle' with hle' | hle'
      · exact hm.2.2 le' hle'
      · rw [List.mem_singleton.1 hle']
        simp only [Ordered.contains, Bool.not_eq_true', Bool.not_eq_false, List.any_eq_true,
          beq_iff_eq] at hseen
        obtain ⟨k, hk, hcmp⟩ := hseen
        exact (hm.2.1 k hk).congr (Std.OrientedCmp.eq_symm hcmp)
  · rcases List.mem_append.1 hp' with hp' | hp'
    · exact hm.1.2 p' hp'
    · rw [List.mem_singleton.1 hp']
      exact hm.2.2

/-- The control forwarding variables of router `r` with configuration `c`: every edge has one; one
that is true runs over a chosen import edge, and one over no used import edge is false. -/
def ControlAt (s : Slice) (m : Model) (r : String) (c : Configuration) : Prop :=
  ∀ e ∈ s.graph.edges r, ∃ cf, s.decisions.controlOf? e = some cf ∧
    (m.eval cf = .ok (.bool true) → s.ImportOver r c e (s.Chosen m r)) ∧
    (¬s.ImportOver r c e (fun _ => True) → m.eval cf = .ok (.bool false))

def ControlSound (s : Slice) (m : Model) : Prop :=
  ∀ q ∈ s.graph.configs.entries, q.2.hostname = q.1 → s.ControlAt m q.1 q.2

/-- The three constraints on the control forwarding variables of a router give what they mean:
an edge without conditions is forbidden, and an edge with conditions, which lies among the
router's logical edges, is required to meet one. -/
theorem controlAt_of_sending {r : String} {c : Configuration} (hhost : c.hostname = r)
    {x : List (GraphEdge × List Term) × Bool} (hx : s.SendsInv r c x)
    (hforbid : ∀ e ∈ s.graph.edges r, Ordered.find? GraphEdge.cmp e x.1 = none →
      ∃ cf, s.decisions.controlOf? e = some cf ∧ m.eval cf = .ok (.bool false))
    (hreq : x.2 = true → ∀ p ∈ s.scope.protocolsOf r, ∀ le ∈ s.logical.edgesOf r p,
      s.Required m x.1 le.edge) :
    s.ControlAt m r c := by
  intro e he
  cases hfind : Ordered.find? GraphEdge.cmp e x.1 with
  | none =>
    obtain ⟨cf, hcf, hfalse⟩ := hforbid e he hfind
    exact ⟨cf, hcf, fun htrue => (by cases htrue.symm.trans hfalse), fun _ => hfalse⟩
  | some ts =>
    obtain ⟨hse, hover, hts⟩ := hx e ts hfind
    obtain ⟨p, hp, le, hle, hcmp, -⟩ := hover
    have hle_edges : le ∈ s.logical.edgesOf r p := by
      rw [← hhost]
      exact (List.mem_filter.1 hle).1
    obtain ⟨cf, hcf, hsends⟩ := (hreq hse p hp le hle_edges).congr hcmp
    refine ⟨cf, hcf, fun htrue => ?_, fun hno => absurd ⟨p, hp, le, hle, hcmp, trivial⟩ hno⟩
    obtain ⟨ts', hts', t, ht, htrue'⟩ := hsends htrue
    rw [hfind] at hts'
    cases hts'
    exact hts t ht m htrue'

theorem hoare_addControlForwarding (s : Slice) (F : Model → Prop) :
    Hoare (fun c => c.Ensures F) s.addControlForwarding
      fun _ c => c.Ensures fun m => F m ∧ s.ControlSound m := by
  unfold addControlForwarding
  refine Hoare.bind (Hoare.forIn_each
    (G := fun (q : String × Configuration) m => q.2.hostname = q.1 → s.ControlAt m q.1 q.2)
    (fun q _ F => ?_) F) fun _ => Hoare.pure fun _ h => h
  obtain ⟨r, c⟩ := q
  dsimp -zeta only
  extract_lets jp
  -- with or without a best route, the edges without conditions are forbidden, and the others
  -- required to meet one
  have hjp : ∀ x, s.SendsInv r c x → Hoare (fun ctx => ctx.Ensures F) (jp x) fun res ctx =>
      res = .yield ⟨⟩ ∧ ctx.Ensures fun m => F m ∧ (c.hostname = r → s.ControlAt m r c) := by
    rintro ⟨so, se⟩ hx
    refine Hoare.bind (hoare_forbidSilentEdges s r so F) fun _ => ?_
    split
    · refine Hoare.bind (hoare_requireSending s r so _) fun _ => Hoare.pure fun _ hc =>
        ⟨rfl, hc.mono fun m hm => ⟨hm.1.1, fun hhost => controlAt_of_sending hhost hx hm.1.2 fun _ => hm.2⟩⟩
    · next hse =>
      exact Hoare.pure fun _ hc => ⟨rfl, hc.mono fun m hm =>
        ⟨hm.1, fun hhost => controlAt_of_sending hhost hx hm.2 fun h => absurd h hse⟩⟩
  split
  · exact Hoare.bind (hoare_addSendingEdges s r c _ F) fun x => Hoare.assume (hjp x)
  · exact Hoare.bind (Hoare.pure (Q := fun x ctx => s.SendsInv r c x ∧ ctx.Ensures F)
      fun _ h => ⟨sendsInv_nil r c false, h⟩) fun x => Hoare.assume (hjp x)

def ForwardsVia (s : Slice) (edges : List GraphEdge) (via : List Term) : Prop :=
  ∀ t ∈ via, ∀ m : Model, m.eval t = .ok (.bool true) →
    ∃ e ∈ edges, ∃ cf, s.decisions.controlOf? e = some cf ∧ m.eval cf = .ok (.bool true)

theorem ForwardsVia.snoc {edges : List GraphEdge} {via : List Term} (h : s.ForwardsVia edges via)
    {e : GraphEdge} (he : e ∈ edges) {ctrl t : Term} (hctrl : s.decisions.controlOf? e = some ctrl)
    (ht : ∀ m : Model, m.eval t = .ok (.bool true) → m.eval ctrl = .ok (.bool true)) :
    s.ForwardsVia edges (via ++ [t]) := by
  intro t' ht' m htrue
  rcases List.mem_append.1 ht' with ht' | ht'
  · exact h t' ht' m htrue
  · rw [List.mem_singleton.1 ht'] at htrue
    exact ⟨e, he, ctrl, hctrl, ht m htrue⟩

theorem returns_nextHopForwarding (s : Slice) (env : SliceEnv) (r : String) (edges : List GraphEdge)
    (e : GraphEdge) : Returns (s.nextHopForwarding env r edges e) (s.ForwardsVia edges) := by
  unfold nextHopForwarding
  refine Returns.bind (Returns.forIn (fun _ fwd => s.ForwardsVia edges fwd) (fun _ h => nomatch h)
    fun pre e2 post fwd hxs hfwd => ?_) fun _ h => Returns.pure h
  have he2 : e2 ∈ edges := by simp [hxs]
  dsimp only
  split
  · split
    · next ctrl hctrl =>
      refine Returns.bind_any fun _ => ?_
      split
      · -- a session to a route reflector: one condition per originator
        refine Returns.bind (Returns.forIn (fun _ fwd => s.ForwardsVia edges fwd) hfwd
          fun pre' x post' fwd' _ hfwd' => ?_) fun fwd'' h => Returns.pure ⟨_, rfl, h⟩
        split
        · refine Returns.bind_any fun _ => ?_
          refine Returns.bind (Returns.build (Build.builds_allOf_holds _)) fun a ha => ?_
          exact Returns.pure ⟨_, rfl, hfwd'.snoc he2 hctrl fun m h => ha m h ctrl (by simp)⟩
        · exact Returns.pure ⟨_, rfl, hfwd'⟩
      · split
        · split
          · refine Returns.bind (Returns.build (Build.builds_both_holds _ _)) fun a ha => ?_
            exact Returns.pure ⟨_, rfl, hfwd.snoc he2 hctrl fun m h => (ha m h).1⟩
          · exact Returns.pure ⟨_, rfl, hfwd⟩
        · exact Returns.pure ⟨_, rfl, hfwd⟩
    · exact Returns.pure ⟨_, rfl, hfwd⟩
  · exact Returns.pure ⟨_, rfl, hfwd⟩

/-- The data forwarding variable of edge `e` among the `edges` of a router: where it is true, the
router forwards over one of its edges, and the outbound filter of `e` lets the packet out. -/
def DataAt (s : Slice) (m : Model) (edges : List GraphEdge) (e : GraphEdge) : Prop :=
  ∀ df, s.decisions.dataOf? e = some df → m.eval df = .ok (.bool true) →
    (∃ e' ∈ edges, ∃ cf, s.decisions.controlOf? e' = some cf ∧ m.eval cf = .ok (.bool true)) ∧
    ∀ acl, Ordered.find? GraphEdge.cmp e s.outboundAcls = some acl → m.eval acl = .ok (.bool true)

def DataSound (s : Slice) (m : Model) : Prop :=
  ∀ q ∈ s.graph.edgeMap.entries, ∀ e ∈ q.2, e.isAbstract = false → s.DataAt m q.2 e

theorem hoare_addDataForwarding (s : Slice) (env : SliceEnv) (F : Model → Prop) :
    Hoare (fun c => c.Ensures F) (s.addDataForwarding env)
      fun _ c => c.Ensures fun m => F m ∧ s.DataSound m := by
  unfold addDataForwarding
  refine Hoare.bind (Hoare.forIn_each (fun q _ F => ?_) F) fun _ => Hoare.pure fun _ h => h
  obtain ⟨r, edges⟩ := q
  refine Hoare.bind (Hoare.forIn_each (G := fun e m => e.isAbstract = false → s.DataAt m edges e)
    (fun e he F => ?_) F) fun _ => Hoare.pure fun _ hc => ⟨rfl, hc⟩
  split
  · refine Hoare.bind Hoare.need fun cf => Hoare.assume fun hcf => ?_
    refine Hoare.bind Hoare.need fun df => Hoare.assume fun hdf => ?_
    extract_lets acl jp
    -- with or without sessions, the data variable is the disjunction, filtered
    have hjp : ∀ via, s.ForwardsVia edges via → Hoare (fun c => c.Ensures F) (jp via) fun res c =>
        res = .yield ⟨⟩ ∧ c.Ensures fun m => F m ∧ (e.isAbstract = false → s.DataAt m edges e) := by
      intro via hvia
      refine Hoare.build_bind (by simp) (Build.builds_anyOf_holds _) fun a ha => ?_
      refine Hoare.build_bind (by simp) (Build.builds_both_holds _ _) fun b hb => ?_
      refine Hoare.build_bind (by simp) (Build.builds_equals_holds _ _) fun q hq => ?_
      refine Hoare.assert_bind (Hoare.pure fun _ hc =>
        ⟨rfl, hc.mono fun m hm => ⟨hm.1, fun _ df' hdf' htrue => ?_⟩⟩)
      rw [hdf] at hdf'
      cases hdf'
      obtain ⟨hany, hacl⟩ := hb m ((hq m hm.2).2 htrue)
      refine ⟨?_, fun acl' hacl' => ?_⟩
      · obtain ⟨t, ht, htt⟩ := ha m hany
        rcases List.mem_cons.1 ht with rfl | ht
        · exact ⟨e, he, t, hcf, htt⟩
        · exact hvia t ht m htt
      · have hacl_def : acl = (Ordered.find? GraphEdge.cmp e s.outboundAcls).getD Term.tt := rfl
        rwa [hacl_def, hacl', Option.getD_some] at hacl
    split
    · exact Hoare.bind (Hoare.with_returns (Hoare.frame (by simp)) (returns_nextHopForwarding s env r edges e))
        fun via => Hoare.assume (hjp via)
    · exact Hoare.bind (Hoare.pure (Q := fun via c => s.ForwardsVia edges via ∧ c.Ensures F)
        fun _ h => ⟨(fun _ h => nomatch h), h⟩) fun via => Hoare.assume (hjp via)
  · next habs =>
    refine Hoare.pure fun _ hc => ⟨rfl, hc.mono fun m hm => ⟨hm, fun h => ?_⟩⟩
    simp [h] at habs

def DecisionsSound (s : Slice) (m : Model) : Prop :=
  s.ChoiceSound m ∧ s.BestSound m ∧ s.OverallSound m ∧ s.ControlSound m ∧ s.DataSound m

theorem hoare_computeEncoding (s : Slice) (env : SliceEnv) (F : Model → Prop) :
    Hoare (fun c => c.Ensures F) (s.computeEncoding env)
      fun _ c => c.Ensures fun m => F m ∧ s.DecisionsSound m := by
  unfold computeEncoding
  refine Hoare.frame_bind (by simp) fun _ => ?_
  refine Hoare.frame_bind (by simp) fun _ => ?_
  refine Hoare.frame_bind (by simp) fun _ => ?_
  refine Hoare.frame_bind (by simp) fun _ => ?_
  refine Hoare.bind (hoare_addBestPerProtocol s env F) fun _ => ?_
  refine Hoare.bind (hoare_addChoicePerProtocol s _) fun _ => ?_
  refine Hoare.bind (hoare_addBestOverall s env _) fun _ => ?_
  refine Hoare.bind (hoare_addControlForwarding s _) fun _ => ?_
  refine Hoare.bind (hoare_addDataForwarding s env _) fun _ => ?_
  refine Hoare.frame_bind (by simp) fun _ => ?_
  refine Hoare.frame_bind (by simp) fun _ => ?_
  refine Hoare.frame_bind (by simp) fun _ => ?_
  refine Hoare.mono (Hoare.frame ?_) (fun _ h => h) fun _ c hc => hc.mono fun m hm => ?_
  · split <;> simp
  · obtain ⟨⟨⟨⟨⟨hF, hbest⟩, hchoice⟩, hoverall⟩, hcontrol⟩, hdata⟩ := hm
    exact ⟨hF, hchoice, hbest, hoverall, hcontrol, hdata⟩

end Slice

namespace Encoder

open Slice

@[simp] theorem grows_addFailedConstraints (e : Encoder) (k : Nat) :
    Build.Grows (e.addFailedConstraints k) := by
  unfold addFailedConstraints
  repeat' first
    | with_reducible apply Build.Grows.bind | with_reducible apply Build.growsClosed.forIn
    | split | with_reducible intro _ | extract_lets | simp

/-- After the constraints of an encoder, the constraints of every slice on its decisions hold in
every model. -/
theorem hoare_computeEncoding (e : Encoder) (F : Model → Prop) :
    Hoare (fun c => c.Ensures F) e.computeEncoding fun _ c => c.Ensures fun m =>
      F m ∧ ∀ name s, e.slices.get? name = some s → s.DecisionsSound m := by
  unfold computeEncoding
  refine Hoare.frame_bind (by simp) fun _ => ?_
  extract_lets env jp
  -- after the environment routes, the main slice, then the other slices one after the other
  have hjp : Hoare (fun c => c.Ensures F) (jp ()) fun _ c => c.Ensures fun m =>
      F m ∧ ∀ name s, e.slices.get? name = some s → s.DecisionsSound m := by
    refine Hoare.bind (Slice.hoare_computeEncoding e.main env F) fun _ => ?_
    refine Hoare.bind (Hoare.forIn_each
      (G := fun (q : String × Slice) m => q.1 ≠ e.mainName → q.2.DecisionsSound m) (fun q _ F => ?_) _)
      fun _ => Hoare.pure fun _ hc => hc.mono fun m hm => ⟨hm.1.1, fun name s hs => ?_⟩
    · obtain ⟨name, s⟩ := q
      dsimp only
      split
      · refine Hoare.bind (Slice.hoare_computeEncoding s env F) fun _ =>
          Hoare.pure fun _ hc => ⟨rfl, hc.mono fun m hm => ⟨hm.1, fun _ => hm.2⟩⟩
      · next heq =>
        refine Hoare.pure fun _ hc => ⟨rfl, hc.mono fun m hm => ⟨hm, fun hne => ?_⟩⟩
        simp [hne] at heq
    · by_cases hmain : name = e.mainName
      · subst hmain
        have : e.main = s := by simp [main, NameMap.getD, hs]
        exact this ▸ hm.1.2
      · exact hm.2 (name, s) (NameMap.mem_entries_of_get? hs) hmain
  split
  · refine Hoare.frame_bind ?_ fun _ => hjp
    repeat' first
      | with_reducible apply Encode.Grows.bind | with_reducible apply Encode.growsClosed.forIn
      | with_reducible intro _ | simp
  · exact hjp

end Encoder

namespace Slice

variable {s : Slice} {m : Model}

def BestPermitted (s : Slice) (m : Model) (r : String) : Prop :=
  ∃ best, s.decisions.best.get? r = some best ∧ m.eval best.permitted = .ok (.bool true)

/-- Forwarding decisions never outrun the selected route, for every router `r` and edge `e` of
`r`: `e` has a control forwarding variable; where it is true, or packets leave on `e`, the best
route of `r` is permitted, and packets leave on `e` only through its outbound filter; it is false
when `e` carries no import edge of a modeled protocol used in the configuration of `r`. -/
def ForwardingFollowsBest (s : Slice) (m : Model) : Prop :=
  ∀ r, ∀ e ∈ s.graph.edges r,
    (∃ cf, s.decisions.controlOf? e = some cf ∧
      (m.eval cf = .ok (.bool true) → s.BestPermitted m r) ∧
      (∀ c, s.graph.config r = .ok c →
        (¬∃ p ∈ s.scope.protocolsOf r, ∃ le ∈ s.logical.edgesOf r p, le.kind = .importing ∧
          s.graph.isEdgeUsed c p le.edge = true ∧ GraphEdge.cmp le.edge e = .eq) →
        m.eval cf = .ok (.bool false))) ∧
    ∀ df, s.decisions.dataOf? e = some df → m.eval df = .ok (.bool true) →
      s.BestPermitted m r ∧
        ∀ acl, Ordered.find? GraphEdge.cmp e s.outboundAcls = some acl → m.eval acl = .ok (.bool true)

/-- A chosen import edge of a modeled protocol makes the router's best route permitted: the
choice makes the edge's route permitted, that makes the protocol's best route permitted, and
that, for a router with several protocols, the overall one. -/
theorem bestPermitted_of_chosen (hrec : s.BestRecords) (hsound : s.DecisionsSound m) {r : String}
    {c : Configuration} (hc : s.graph.config r = .ok c) {e : GraphEdge}
    (h : s.ImportOver r c e (s.Chosen m r)) : s.BestPermitted m r := by
  obtain ⟨hchoice, hbest, hoverall, -⟩ := hsound
  obtain ⟨p, hp, le, hle, -, ch, hch, htrue⟩ := h
  obtain ⟨protos, hprotos, hpp⟩ : ∃ protos, s.scope.protocols.get? r = some protos ∧ p ∈ protos := by
    unfold Scope.protocolsOf NameMap.getD at hp
    cases hget : s.scope.protocols.get? r with
    | none => simp [hget] at hp
    | some protos => exact ⟨protos, rfl, by simpa [hget] using hp⟩
  have hq := NameMap.mem_entries_of_get? hprotos
  obtain ⟨⟨b, hb, hbvar⟩, hbests⟩ := hrec _ hq
  obtain ⟨bp, hbp, hbpvar⟩ := hbests p hpp
  have hle_true : m.eval le.route.permitted = .ok (.bool true) :=
    hchoice _ hq c hc p hpp (by simp [Slice.bestOf?, hbp]) le hle ch hch htrue
  have hbp_true : m.eval bp.permitted = .ok (.bool true) :=
    hbest _ hq c hc p hpp bp hbp (hbpvar.eval_ok m) _ (List.mem_map_of_mem hle) hle_true
  cases hs : s.scope.isSingle r
  · exact ⟨b, hb, hoverall _ hq hs b hb (hbvar.eval_ok m) _
      (List.mem_map_of_mem (List.mem_filterMap.2 ⟨p, hpp, hbp⟩)) hbp_true⟩
  · -- one protocol: its best route is the overall one
    refine ⟨bp, ?_, hbp_true⟩
    simpa [bestOf?, Decisions.bestOf?, hs] using hbp

theorem isAbstract_of_dataOf? (h : s.DataInOrder) {e : GraphEdge} {df : Term}
    (hd : s.decisions.dataOf? e = some df) : e.isAbstract = false := by
  obtain ⟨q, hq, hcmp, -⟩ := Ordered.exists_mem_of_find?_eq hd
  have hkey := (h e.router).mem q.1 (List.mem_map_of_mem hq)
  rw [(GraphEdge.flags_eq_of_cmp_eq hcmp).1]
  exact hkey.2

/-- The constraints of a slice created over a well-formed graph whose configurations are filed
under their host names make its forwarding follow its best routes. -/
theorem forwardingFollowsBest_of_sound (hwf : s.graph.WellFormed)
    (hhost : ∀ q ∈ s.graph.configs.entries, q.2.hostname = q.1) (hdata : s.DataInOrder)
    (hrec : s.BestRecords) (hsound : s.DecisionsSound m) : s.ForwardingFollowsBest m := by
  have hcontrol := hsound.2.2.2.1
  have hconfig : ∀ r, r ∈ s.graph.routers →
      ∃ c, s.graph.config r = .ok c ∧ c.hostname = r ∧ s.ControlAt m r c := by
    intro r hr
    obtain ⟨q, hq, rfl⟩ := List.mem_map.1 hr
    have hget : s.graph.configs.get? q.1 = some q.2 :=
      NameMap.lookup_eq_of_mem hwf.nodup hq
    exact ⟨q.2, Graph.config_eq_ok_iff.2 hget, hhost q hq, hcontrol q hq (hhost q hq)⟩
  have hcf : ∀ r, ∀ e ∈ s.graph.edges r, ∀ cf, s.decisions.controlOf? e = some cf →
      m.eval cf = .ok (.bool true) → s.BestPermitted m r := by
    intro r e he cf hcf htrue
    obtain ⟨c, hc, -, hat⟩ := hconfig r (hwf.mem_of_mem_edges he)
    obtain ⟨cf', hcf', hchosen, -⟩ := hat e he
    rw [hcf] at hcf'
    cases hcf'
    exact bestPermitted_of_chosen hrec hsound hc (hchosen htrue)
  intro r e he
  obtain ⟨c, hc, hhr, hat⟩ := hconfig r (hwf.mem_of_mem_edges he)
  obtain ⟨cf, hcfe, -, hunused⟩ := hat e he
  refine ⟨⟨cf, hcfe, hcf r e he cf hcfe, fun c' hc' hno => hunused ?_⟩, fun df hdf htrue => ?_⟩
  · rw [hc] at hc'
    cases hc'
    -- a used import edge is a logical edge of the router, of the import kind, used by the protocol
    intro himport
    obtain ⟨p, hp, le, hle, hcmp, -⟩ := himport
    rw [LogicalGraph.importEdges, hhr, List.mem_filter, Bool.and_eq_true, beq_iff_eq] at hle
    exact hno ⟨p, hp, le, hle.1, hle.2.1, hle.2.2, hcmp⟩
  · have hentry : (r, s.graph.edges r) ∈ s.graph.edgeMap.entries :=
      hwf.mem_entries_iff.2 ⟨hwf.mem_of_mem_edges he, rfl⟩
    obtain ⟨⟨e', he', cf', hcf', hcftrue⟩, hacl⟩ :=
      hsound.2.2.2.2 _ hentry e he (isAbstract_of_dataOf? hdata hdf) df hdf htrue
    exact ⟨hcf r e' he' cf' hcf' hcftrue, hacl⟩

end Slice

/-- Forwarding never outruns the selected route: in every model of a new encoder's assertions, a
router forwards or sends out only with a permitted best route, past the outbound filter, and
never over an edge that carries no modeled protocol of its configuration. -/
theorem forwarding_follows_best_route {cs : List Configuration} {topo : Option Topology} {g : Graph}
    (hg : Graph.build cs topo = .ok g) (q : HeaderQuestion) :
    Hoare Context.VarsOnly (do let e ← Encoder.new g q; e.computeEncoding; pure e)
      fun e c => ∀ name s, e.slices.get? name = some s → c.Ensures s.ForwardingFollowsBest := by
  have hwf := Graph.build_wellFormed hg
  have hhost := Graph.build_hostname hg
  refine Hoare.bind (Encoder.hoare_new hwf q) fun e => Hoare.assume fun ⟨hbuilt, _⟩ => ?_
  refine Hoare.mono (Hoare.bind (Encoder.hoare_computeEncoding e fun _ => True) fun _ =>
    Hoare.pure (Q := fun e' c => e' = e ∧ c.Ensures fun m => True ∧
      ∀ name s, e.slices.get? name = some s → s.DecisionsSound m) fun _ h => ⟨rfl, h⟩)
    (fun c _ => Context.ensures_true c) fun e' c ⟨he', hc⟩ name s hs => ?_
  subst he'
  obtain ⟨hgraph, hdata, hrec⟩ := hbuilt name s hs
  refine hc.mono fun m hm => Slice.forwardingFollowsBest_of_sound ?_ ?_ hdata hrec (hm.2 name s hs)
  · rw [hgraph]
    exact hwf
  · rw [hgraph]
    exact hhost

/-- In the tagging pair, two routers with a link between them, forwarding follows the best
route. -/
theorem forwarding_follows_best_route_tagging_pair :
    ∃ g, Graph.build taggingPair (some taggingLink) = .ok g ∧
      (g.edges "A").map (·.peer) = [some "B"] ∧
      Hoare Context.VarsOnly (do let e ← Encoder.new g default; e.computeEncoding; pure e)
        fun e c => ∀ name s, e.slices.get? name = some s → c.Ensures s.ForwardingFollowsBest := by
  obtain ⟨g, hg, -, hpeers, -⟩ := taggingPair_builds
  exact ⟨g, hg, hpeers, forwarding_follows_best_route hg default⟩

end ControlPlane
