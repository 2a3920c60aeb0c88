import ControlPlane.Proofs.Check.FailedLinks
import ControlPlane.Proofs.Check.FailureBudget
import ControlPlane.Proofs.Encoding.FailureVariables

/-!
# Failed links of an encoder

An encoder's failure indicators model undirected links. The failure variable of an edge of the
graph is `0` exactly for abstract and null-route edges, and the two directions of a link between
routers share one (`Graph.Staged.failedVariable_otherEnd`). Every model of the budget's assertions makes
each indicator a bit (`Encoder.addFailedConstraints_spec`), and under such a model the failed
links of a counterexample are exactly the failed edges, the two directions of a link between
routers reported once (`Encoder.reportsFailedLinks`).

These hold of every encoder over a graph that `Graph.build` returns whose failure variables are
those `Failures.new` makes for it in a context registering only variables; `Encoder.new` makes
them so (`Encoder.new_failures`).
-/

namespace ControlPlane

open Std GraphEdge GraphBuild

theorem Model.evalInt_of_eval {m : Model} {t : Term} {i : Int} (h : m.eval t = .ok (.int i)) :
    m.evalInt t = .ok i := by
  simp only [Model.evalInt, h]
  rfl

theorem Model.evalInt_of_isBit {m : Model} {t : Term} (h : m.IsBit t) :
    ∃ i, m.evalInt t = .ok i ∧ (i != 0) = m.isOne t := by
  rcases h with h | h
  · refine ⟨0, evalInt_of_eval h, ?_⟩
    have : m.isOne t = false := by
      rw [Bool.eq_false_iff]
      intro h1
      rw [isOne_iff.1 h1] at h
      cases h
    rw [this]
    rfl
  · exact ⟨1, evalInt_of_eval h, (isOne_iff.2 h).symm⟩

namespace Failures

def fails (f : Failures) (m : Model) (e : GraphEdge) : Bool :=
  match f.failedVariable e with
  | .ok t => m.isOne t
  | .error _ => false

variable {f : Failures} {m : Model} {e : GraphEdge}

theorem fails_of_failedVariable {t : Term} (h : f.failedVariable e = .ok t) : f.fails m e = m.isOne t := by
  rw [fails, h]

theorem isPhysical_of_fails (h : f.fails m e = true) : e.isPhysical = true := by
  cases hp : e.isPhysical
  · have hz : (e.isAbstract || e.isNullEdge) = true := by
      simp only [isPhysical, Bool.and_eq_false_iff, Bool.not_eq_false'] at hp
      simpa using hp
    rw [fails_of_failedVariable (by rw [failedVariable_eq, if_pos hz])] at h
    cases (Model.isOne_iff.1 h)
  · rfl

end Failures

namespace Graph.Staged

variable {g : Graph} {configs : NameMap Configuration} {t : Topology} {f : Failures}

theorem keyed (hs : g.Staged configs t) (hf : f.OfGraph g) {e : GraphEdge}
    (he : e ∈ g.edgeMap.values.flatten) (hp : e.isPhysical = true) : f.Keyed e := by
  obtain ⟨e', he', hee'⟩ := hs.real he hp
  have hn : e'.isNullEdge = false := by
    simp only [isPhysical, Bool.and_eq_true, Bool.not_eq_true'] at hp
    rw [← (flags_eq_of_cmp_eq hee').2]
    exact hp.2
  unfold Failures.Keyed
  rw [f.linkVar?_congr hee']
  exact hf.keyed e' he' hn

/-- Under a model giving every link variable a bit, every edge of the edge map has a failure
variable read as an integer, other than `0` exactly when the link fails. -/
theorem failedVariable_bit (hs : g.Staged configs t) (hf : f.OfGraph g) {m : Model}
    (hbits : ∀ v ∈ f.allLinks, m.IsBit v) {e : GraphEdge} (he : e ∈ g.edgeMap.values.flatten) :
    ∃ v i, f.failedVariable e = .ok v ∧ m.evalInt v = .ok i ∧ (i != 0) = f.fails m e := by
  cases hp : e.isPhysical
  · -- an edge that cannot fail has the constant `0`
    have hz : (e.isAbstract || e.isNullEdge) = true := by
      simp only [isPhysical, Bool.and_eq_false_iff, Bool.not_eq_false'] at hp
      simpa using hp
    have hv : f.failedVariable e = .ok (.int 0) := by rw [Failures.failedVariable_eq, if_pos hz]
    refine ⟨.int 0, 0, hv, rfl, ?_⟩
    rw [Failures.fails_of_failedVariable hv]
    rfl
  · obtain ⟨v, hv, -, hfv⟩ := Failures.failedVariable_of_keyed (hs.keyed hf he hp) hp
    obtain ⟨i, hi, hione⟩ := Model.evalInt_of_isBit (hbits v hv)
    exact ⟨v, i, hfv, hi, by rw [hione, Failures.fails_of_failedVariable hfv]⟩

theorem failedVariable_otherEnd (hs : g.Staged configs t) (hf : f.OfGraph g) {e o : GraphEdge}
    (he : e ∈ g.edgeMap.values.flatten) (hp : e.isPhysical = true) (ho : g.otherEnd? e = some o) :
    f.failedVariable o = f.failedVariable e :=
  let hopp := hs.opposite ho hp
  Failures.failedVariable_opposite hopp.1 (hs.keyed hf he hp) hp hopp.2

theorem scanShape (hs : g.Staged configs t) (hf : f.OfGraph g) (m : Model) :
    Counterexample.ScanShape (f.fails m) g.otherEnd? g.edgeMap.values.flatten where
  sorted := hs.table.sorted_physical.imp fun h ha hb =>
    h (Failures.isPhysical_of_fails ha) (Failures.isPhysical_of_fails hb)
  congr a b h := Ordered.find?_congr h _
  opposite x _ hx o ho := (hs.opposite ho (Failures.isPhysical_of_fails hx)).1
  has_other x hx hdx hpeer := hs.has_other hx (Failures.isPhysical_of_fails hdx) hpeer
  complete y hy hdy o ho z hz hdz hzo := by
    have hpy := Failures.isPhysical_of_fails hdy
    obtain ⟨w, hw, -, hwo⟩ := hs.complete hpy ho hz (Failures.isPhysical_of_fails hdz) hzo
    -- `w` is the other direction of `y`'s link, whose variable is `y`'s
    have hfw : f.fails m w = f.fails m y := by
      rw [Failures.fails, Failures.fails, f.failedVariable_congr hwo,
        hs.failedVariable_otherEnd hf hy hpy ho]
    exact ⟨w, hw, hfw.trans hdy, hwo⟩

end Graph.Staged

namespace Encoder

/-- What the failed links of a counterexample are, for the edges `F` that the scan records: the
report is the links of `F`; `F` holds failed edges of the edge map, each once; every failed edge
leaving the network is in it; and of the two directions of a failed link between routers it
holds one, and both only for a link from an interface to itself. Edges are in `F` up to the
order of edges. -/
structure ReportsFailedLinks (enc : Encoder) (m : Model) (F : List GraphEdge) : Prop where
  report : Counterexample.failedLinks m enc = .ok (Ordered.setOf TraceEdge.cmp (F.map Counterexample.linkOf))
  failed : ∀ y ∈ F, y ∈ enc.graph.edgeMap.values.flatten ∧ enc.failures.fails m y = true
  once : F.Pairwise fun a b => GraphEdge.cmp a b = .lt
  external : ∀ x ∈ enc.graph.edgeMap.values.flatten, enc.failures.fails m x = true → x.peer = none →
    ∃ y ∈ F, GraphEdge.cmp x y = .eq
  internal : ∀ x ∈ enc.graph.edgeMap.values.flatten, enc.failures.fails m x = true → x.peer.isSome →
    ∃ o, enc.graph.otherEnd? x = some o ∧
      ((∃ y ∈ F, GraphEdge.cmp x y = .eq) ∨ ∃ y ∈ F, GraphEdge.cmp o y = .eq) ∧
      ((∃ y ∈ F, GraphEdge.cmp x y = .eq) → (∃ y ∈ F, GraphEdge.cmp o y = .eq) → SameEnds x o)

/-- Under a model giving every link variable a bit, the failed links of a counterexample are
exactly the failed edges, the two directions of a link between routers reported once. -/
theorem reportsFailedLinks {enc : Encoder} {configs : NameMap Configuration} {t : Topology}
    (hs : enc.graph.Staged configs t) (hf : enc.failures.OfGraph enc.graph) {m : Model}
    (hbits : ∀ v ∈ enc.failures.allLinks, m.IsBit v) :
    ∃ F, enc.ReportsFailedLinks m F := by
  have hshape := hs.scanShape hf m
  have hinv := hshape.scanInv
  refine ⟨_, Counterexample.failedLinks_eq (enc.failures.fails m) fun es hes e he =>
      hs.failedVariable_bit hf hbits (List.mem_flatten.2 ⟨_, hes, he⟩),
    fun y hy => hinv.mem y hy, Counterexample.scanFailed_sorted _ _ _, fun x hx hdx hpeer => ?_,
    fun x hx hdx hpeer => ?_⟩
  · -- an edge leaving the network has no other end
    refine hshape.recorded_of_none hx hdx ?_
    cases ho : enc.graph.otherEnd? x with
    | none => rfl
    | some o =>
      have hopp := (hs.opposite ho (Failures.isPhysical_of_fails hdx)).1
      rw [hopp.1] at hpeer
      cases hpeer
  · obtain ⟨o, ho⟩ := Option.isSome_iff_exists.1 (hs.has_other hx (Failures.isPhysical_of_fails hdx) hpeer)
    exact ⟨o, ho, hshape.recorded_once hx hdx ho⟩

/-- An encoder that `Encoder.new` returns has the graph it is given, and the failure variables
`Failures.new` makes for it right after the encoder's id is drawn. -/
theorem new_failures {g : Graph} {q : HeaderQuestion} {c : Context} {enc : Encoder}
    (h : ((Encoder.new g q).runOn c).1 = .ok enc) :
    enc.graph = g ∧ enc.failures =
      ((Failures.new g (toString c.nextId ++ "_")).run { c with nextId := c.nextId + 1 }).1 := by
  unfold Encoder.new at h
  rw [Encode.runOn_bind] at h
  have hid : (liftM Build.generateId : Encode Nat).runOn c =
      (.ok c.nextId, { c with nextId := c.nextId + 1 }) := rfl
  rw [hid] at h
  dsimp only at h
  rw [Encode.runOn_bind] at h
  generalize hf : (Failures.new g (toString c.nextId ++ "_")).run { c with nextId := c.nextId + 1 } = r at h
  have hlift : (liftM (Failures.new g (toString c.nextId ++ "_")) : Encode Failures).runOn
      { c with nextId := c.nextId + 1 } = (.ok r.1, r.2) := by
    rw [← hf]
    rfl
  rw [hlift] at h
  dsimp only at h
  -- the slices built afterwards leave graph and failures as they are
  refine (show Encode.Returns _ fun e : Encoder => e.graph = g ∧ e.failures = r.1 from ?_) _ _ h
  refine Encode.Returns.bind_any fun main => ?_
  rw [if_pos rfl]
  exact Encode.Returns.bind_any fun b => Encode.Returns.pure ⟨rfl, rfl⟩

/-- The failure indicators model undirected links and the budget: `0` exactly on abstract and
null-route edges, one variable per link, bits within the budget under every model of its
assertions, and the failed links reported are exactly the failed edges, each link once. -/
theorem failure_indicators_model_links {cs : List Configuration} {topo : Option Topology}
    {g : Graph} (hg : Graph.build cs topo = .ok g) {pre : String} {c : Context} (hc : c.VarsOnly)
    {enc : Encoder} (hgraph : enc.graph = g) (hfail : enc.failures = ((Failures.new g pre).run c).1)
    (k : Nat) (c' : Context) :
    (∀ e ∈ g.edgeMap.values.flatten,
      (enc.failures.failedVariable e = .ok (.int 0) ↔ e.isAbstract = true ∨ e.isNullEdge = true) ∧
      (e.isPhysical = true → ∀ o, g.otherEnd? e = some o →
        enc.failures.failedVariable o = enc.failures.failedVariable e)) ∧
    ∃ new, ((enc.addFailedConstraints k).run c').2.assertions.toList = c'.assertions.toList ++ new ∧
      ∀ m : Model, m.Satisfies new → enc.MeetsBudget k m ∧ ∃ F, enc.ReportsFailedLinks m F := by
  have hs := Graph.build_staged hg
  have hf : enc.failures.OfGraph g := hfail ▸ Failures.new_ofGraph g pre hc
  refine ⟨fun e he => ⟨?_, fun hp o ho => hs.failedVariable_otherEnd hf he hp ho⟩, ?_⟩
  · rw [Failures.failedVariable_eq_zero_iff hf.vars, Bool.or_eq_true]
  · obtain ⟨new, hnew, hm⟩ := addFailedConstraints_spec enc k c'
    refine ⟨new, hnew, fun m hsat => ⟨hm m hsat, ?_⟩⟩
    subst hgraph
    exact reportsFailedLinks hs hf fun v hv => (hm m hsat).bits v (List.mem_append_left _ hv)

/-- In the tagging pair, two routers with a link between them, the failure indicators model
the link. -/
theorem tagging_pair_failures_modeled :
    ∃ g, Graph.build taggingPair (some taggingLink) = .ok g ∧
      (g.edges "A").map (·.peer) = [some "B"] ∧ (∀ e ∈ g.edges "A", (g.otherEnd? e).isSome) ∧
      ∀ k c', (∀ e ∈ g.edgeMap.values.flatten,
        (((Failures.new g "0_").run {}).1.failedVariable e = .ok (.int 0) ↔
          e.isAbstract = true ∨ e.isNullEdge = true) ∧
        (e.isPhysical = true → ∀ o, g.otherEnd? e = some o →
          ((Failures.new g "0_").run {}).1.failedVariable o =
            ((Failures.new g "0_").run {}).1.failedVariable e)) ∧
      ∃ new, (({ (default : Encoder) with graph := g, failures := ((Failures.new g "0_").run {}).1 }
          |>.addFailedConstraints k).run c').2.assertions.toList = c'.assertions.toList ++ new ∧
        ∀ m : Model, m.Satisfies new →
          ({ (default : Encoder) with graph := g, failures := ((Failures.new g "0_").run {}).1 }
            |>.MeetsBudget k m) ∧
          ∃ F, ({ (default : Encoder) with graph := g, failures := ((Failures.new g "0_").run {}).1 }
            |>.ReportsFailedLinks m F) := by
  obtain ⟨g, hg, -, hpeers, hlinked⟩ := taggingPair_builds
  refine ⟨g, hg, hpeers, hlinked, fun k c' => ?_⟩
  let enc : Encoder := { (default : Encoder) with graph := g, failures := ((Failures.new g "0_").run {}).1 }
  exact failure_indicators_model_links hg Context.varsOnly_empty (show enc.graph = g from rfl)
    (show enc.failures = _ from rfl) k c'

end Encoder

end ControlPlane
