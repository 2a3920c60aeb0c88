import ControlPlane.Proofs.Network.EdgeOrder
import ControlPlane.Proofs.Check.Forwarding
import ControlPlane.Proofs.Check.Solving
import ControlPlane.Proofs.Encoding.Growth
import ControlPlane.Check.Trace

/-!
# The data forwarding lists of a slice

Creating a slice registers a data forwarding variable for every edge that is not abstract, in a
map from routers to ascending maps of edges. `Slice.DataInOrder` says what comes of it: each
router's data forwarding list holds, in ascending order of edges, one entry for each of its edges
that is not abstract. `builds_addForwardingVariables` is the step that makes the lists, and every
other step of `Slice.new` keeps the graph and the lists (`KeepsForwarding`); the steps after the
best records keep the scope and the best records as well (`KeepsBest`). So every slice that
`Slice.new` returns over a well-formed graph has its lists in order (`Slice.returns_new`), and so
has the main slice of every encoder that `Encoder.new` returns (`Encoder.returns_new`).
-/

namespace ControlPlane

namespace NameMap

variable {α : Type}

@[simp] theorem getD_insert (m : NameMap α) (k k' : String) (v d : α) :
    (m.insert k v).getD k' d = if k' = k then v else m.getD k' d := by
  by_cases h : k' = k <;> simp [getD, h]

end NameMap

namespace Slice

def entryEdges (entries : List (String × List GraphEdge)) (r : String) (e : GraphEdge) : Prop :=
  ∃ es, (r, es) ∈ entries ∧ e ∈ es ∧ e.isAbstract = false

def Tabulates (P : String → GraphEdge → Prop) (t : NameMap (List (GraphEdge × Term))) : Prop :=
  ∀ r, Ordered.Enumerates GraphEdge.cmp (P r) ((t.getD r []).map Prod.fst)

theorem Tabulates.put {P : String → GraphEdge → Prop} {t : NameMap (List (GraphEdge × Term))}
    (h : Tabulates P t) (router : String) (e : GraphEdge) (v : Term) :
    Tabulates (fun r y => P r y ∨ r = router ∧ y = e)
      (t.insert router (Ordered.put GraphEdge.cmp e v (t.getD router []))) := by
  intro r
  by_cases hr : r = router
  · subst hr
    simp only [NameMap.getD_insert, if_true, Ordered.keys_put]
    exact ((h r).insert e).congr fun y => by simp
  · simp only [NameMap.getD_insert, hr, if_false]
    exact (h r).congr fun y => by simp

theorem Tabulates.congr {P Q : String → GraphEdge → Prop} {t : NameMap (List (GraphEdge × Term))}
    (h : Tabulates P t) (hPQ : ∀ r y, P r y ↔ Q r y) : Tabulates Q t :=
  fun r => (h r).congr (hPQ r)

/-- The data forwarding variables: each router gets one entry, in ascending order, for each edge
that is not abstract among the edge map's edges of the router. -/
theorem builds_addForwardingVariables (s : Slice) (h0 : ∀ r, s.decisions.data.getD r [] = []) :
    Build.Builds s.addForwardingVariables fun s' =>
      s'.graph = s.graph ∧ Tabulates (entryEdges s.graph.edgeMap.entries) s'.decisions.data := by
  unfold addForwardingVariables
  dsimp only
  -- the outer loop: the lists hold the edges of the routers done so far
  refine Build.Builds.bind (Build.Builds.forIn (fun pre (d : Decisions) => Tabulates (entryEdges pre) d.data)
    ?_ ?_) fun d hd => Build.Builds.pure ⟨rfl, hd⟩
  · intro r
    rw [h0 r]
    exact Ordered.Enumerates.nil.congr fun e => by simp [entryEdges]
  · intro pre x post d _ hd
    obtain ⟨router, edges⟩ := x
    dsimp only
    -- the inner loop: and the edges of `router` done so far
    refine Build.Builds.bind (Build.Builds.forIn (fun q (d : Decisions) =>
      Tabulates (fun r e => entryEdges pre r e ∨ r = router ∧ e ∈ q ∧ e.isAbstract = false) d.data)
        (hd.congr fun r e => by simp) ?_)
      fun d hd => Build.Builds.pure ⟨d, rfl, hd.congr fun r e => by grind [entryEdges]⟩
    intro q e rest d _ hd
    refine Build.Builds.bind_any fun cf => ?_
    split
    · refine Build.Builds.bind_any fun df => ?_
      exact Build.Builds.pure ⟨_, rfl, (hd.put router e df).congr fun r y => by grind⟩
    · exact Build.Builds.pure ⟨_, rfl, hd.congr fun r y => by grind⟩

def KeepsForwarding (s s' : Slice) : Prop := s'.graph = s.graph ∧ s'.decisions.data = s.decisions.data

theorem KeepsForwarding.refl (s : Slice) : KeepsForwarding s s := ⟨rfl, rfl⟩

theorem KeepsForwarding.trans {s s' s'' : Slice} (h : KeepsForwarding s s') (h' : KeepsForwarding s' s'') :
    KeepsForwarding s s'' := ⟨h'.1.trans h.1, h'.2.trans h.2⟩

def KeepsBest (s s' : Slice) : Prop :=
  KeepsForwarding s s' ∧ s'.scope = s.scope ∧ s'.decisions.best = s.decisions.best ∧
    s'.decisions.bestPerProtocol = s.decisions.bestPerProtocol

theorem KeepsBest.refl (s : Slice) : KeepsBest s s := ⟨.refl s, rfl, rfl, rfl⟩

theorem KeepsBest.trans {s s' s'' : Slice} (h : KeepsBest s s') (h' : KeepsBest s' s'') : KeepsBest s s'' :=
  ⟨h.1.trans h'.1, h'.2.1.trans h.2.1, h'.2.2.1.trans h.2.2.1, h'.2.2.2.trans h.2.2.2⟩

theorem initOriginated_keeps {s s' : Slice} (h : s.initOriginated = .ok s') : KeepsForwarding s s' := by
  unfold initOriginated at h
  obtain ⟨o, -, h⟩ := Except.exists_of_bind_eq_ok h
  cases h
  exact .refl s

theorem initRedistribution_keeps {s s' : Slice} (h : s.initRedistribution = .ok s') : KeepsForwarding s s' := by
  unfold initRedistribution at h
  obtain ⟨o, -, h⟩ := Except.exists_of_bind_eq_ok h
  cases h
  exact .refl s

theorem builds_addBestVariables (s : Slice) : Build.Builds s.addBestVariables (KeepsForwarding s) := by
  unfold addBestVariables
  dsimp only
  refine Build.Builds.bind (Build.Builds.forIn (fun _ b => KeepsForwarding s b) (.refl s) ?_)
    fun b hb => Build.Builds.pure hb
  intro _ x _ b _ hb
  refine Build.Builds.bind_any fun best => ?_
  split
  · refine Build.Builds.bind (Build.Builds.forIn (fun _ b => KeepsForwarding s b) hb ?_)
      fun b hb => Build.Builds.pure ⟨b, rfl, hb⟩
    intro _ p _ b _ hb
    exact Build.Builds.bind_any fun r => Build.Builds.pure ⟨_, rfl, hb⟩
  · exact Build.Builds.pure ⟨_, rfl, hb⟩

theorem builds_addChoices (s : Slice) : Build.Builds s.addChoices (KeepsBest s) :=
  Build.Builds.bind_any fun _ => Build.Builds.pure (.refl s)

theorem builds_addEnvironment (s : Slice) : Build.Builds s.addEnvironment (KeepsBest s) := by
  unfold addEnvironment
  dsimp only
  split
  · exact Build.Builds.pure (.refl s)
  · refine Build.Builds.bind (Build.Builds.forIn (fun _ b => KeepsBest s b) (.refl s) ?_)
      fun b hb => Build.Builds.pure hb
    intro _ x _ b _ hb
    exact Build.Builds.bind_any fun r => Build.Builds.pure ⟨_, rfl, hb⟩

theorem builds_addForwardsAcross (s : Slice) : Build.Builds s.addForwardsAcross (KeepsBest s) :=
  Build.Builds.bind_any fun _ => Build.Builds.pure (.refl s)

/-- A step over a slice state that keeps the graph, the data forwarding variables, the scope and
the best records of `s`. -/
def KeepsState (s : Slice) {α : Type} (x : StateT Slice Build α) : Prop :=
  ∀ t, KeepsBest s t → Build.Builds (x.run t) fun q => KeepsBest s q.2

theorem keepsStateClosed (s : Slice) : Closed (StateT Slice Build) fun _ x => KeepsState s x where
  pure _ _ ht := Build.Builds.pure ht
  bind {_ _ _ _} hx hf t ht := by
    rw [StateT.run_bind]
    exact Build.Builds.bind (hx t ht) fun q hq => hf q.1 q.2 hq

theorem keepsState_lift (s : Slice) {α : Type} (y : Build α) :
    KeepsState s (liftM y : StateT Slice Build α) :=
  fun _ ht => Build.Builds.bind_any (x := y) fun _ => Build.Builds.pure ht

theorem KeepsState.ite {α : Type} {s : Slice} {c : Prop} [Decidable c] {x y : StateT Slice Build α}
    (hx : KeepsState s x) (hy : KeepsState s y) : KeepsState s (if c then x else y) := by
  split
  · exact hx
  · exact hy

theorem builds_edgeGroup (s : Slice) (r : String) (p : Protocol) (e : GraphEdge) :
    Build.Builds ((s.edgeGroup r p e).run s) fun q => KeepsBest s q.2 := by
  have hc := keepsStateClosed s
  -- each kind of logical edge adds one route record to the state, or nothing
  have hroute (y : Build Route) (k : Route → ForInStep (List LogicalEdge)) :
      KeepsState s (do let route ← liftM y; modify fun t : Slice => t.addRoute route; pure (k route)) :=
    hc.bind (keepsState_lift s y) fun _ => hc.bind (fun _ ht => Build.Builds.pure ht) fun _ => hc.pure _
  refine hc.bind (hc.forIn fun kind g => ?_) (fun _ => hc.pure _) s (.refl s)
  -- the kinds differ only in the condition and the name of the route
  cases kind <;> dsimp only <;> exact .ite (hroute _ _) (hc.pure _)

theorem returns_addRecords (s : Slice) : Encode.Returns s.addRecords (KeepsBest s) := by
  unfold addRecords
  dsimp only
  refine Encode.Returns.bind (Encode.Returns.forIn (fun _ b => KeepsBest s b) (.refl s) ?_)
    fun b hb => ?_
  · intro _ x _ b _ hb
    refine Encode.Returns.bind_any fun c => ?_
    refine Encode.Returns.bind (Encode.Returns.forIn (fun _ b => KeepsBest s b) hb ?_)
      fun b hb => Encode.Returns.pure ⟨b, rfl, hb⟩
    intro _ p _ b _ hb
    refine Encode.Returns.bind (Encode.Returns.forIn (fun _ b => KeepsBest s b) hb ?_)
      fun b hb => Encode.Returns.pure ⟨b, rfl, hb⟩
    intro _ e _ b _ hb
    split
    · refine Encode.Returns.bind (Encode.Returns.build (builds_edgeGroup b x.1 p e)) fun q hq => ?_
      split
      · exact Encode.Returns.pure ⟨_, rfl, hb.trans hq⟩
      · exact Encode.Returns.pure ⟨_, rfl, hb.trans hq⟩
    · exact Encode.Returns.pure ⟨_, rfl, hb⟩
  · refine Encode.Returns.bind (Encode.Returns.forIn (fun _ b => KeepsBest s b) hb ?_)
      fun b hb => Encode.Returns.pure hb
    intro _ x _ b _ hb
    split
    · split
      · exact Encode.Returns.bind_any fun r => Encode.Returns.pure ⟨_, rfl, hb⟩
      · exact Encode.Returns.pure ⟨_, rfl, hb⟩
    · exact Encode.Returns.pure ⟨_, rfl, hb⟩

theorem returns_addAcls (s : Slice) : Encode.Returns s.addAcls (KeepsBest s) := by
  unfold addAcls
  dsimp only
  refine Encode.Returns.bind (Encode.Returns.forIn (fun _ b => KeepsBest s b) (.refl s) ?_)
    fun b hb => Encode.Returns.pure hb
  intro _ x _ b _ hb
  refine Encode.Returns.bind_any fun c => ?_
  refine Encode.Returns.bind (Encode.Returns.forIn (fun _ b => KeepsBest s b) hb ?_)
    fun b hb => Encode.Returns.pure ⟨b, rfl, hb⟩
  intro _ e _ b _ hb
  refine Encode.Returns.bind (Encode.Returns.forIn (fun _ b => KeepsBest s b) hb ?_)
    fun b hb => Encode.Returns.pure ⟨b, rfl, hb⟩
  intro _ y _ b _ hb
  split
  · split
    · -- the list's variable and the assertion that defines it; only an access list map changes
      iterate 5 refine Encode.Returns.bind_any fun _ => ?_
      split <;> exact Encode.Returns.pure ⟨_, rfl, hb⟩
    · exact Encode.Returns.bind (P := fun _ => False) Encode.Returns.throw fun _ h => h.elim
  · exact Encode.Returns.pure ⟨_, rfl, hb⟩

/-- Every router's data forwarding list holds, in ascending order, one entry for each of its
edges that is not abstract. -/
def DataInOrder (s : Slice) : Prop :=
  Tabulates (fun r e => e ∈ s.graph.edges r ∧ e.isAbstract = false) s.decisions.data

theorem entryEdges_iff {g : Graph} (hg : g.WellFormed) (r : String) (e : GraphEdge) :
    entryEdges g.edgeMap.entries r e ↔ e ∈ g.edges r ∧ e.isAbstract = false := by
  constructor
  · rintro ⟨es, hes, he, ha⟩
    rw [(hg.mem_entries_iff.1 hes).2] at he
    exact ⟨he, ha⟩
  · rintro ⟨he, ha⟩
    exact ⟨g.edges r, hg.mem_entries_iff.2 ⟨hg.mem_of_mem_edges he, rfl⟩, he, ha⟩

theorem returns_new (id : Nat) (name : String) {g : Graph} (hg : g.WellFormed) (hs : HeaderSpace)
    (igp : Bool) : Encode.Returns (Slice.new id name g hs igp) fun s => s.graph = g ∧ s.DataInOrder := by
  unfold Slice.new
  dsimp only
  refine Encode.Returns.bind_any fun packet => ?_
  refine Encode.Returns.bind Encode.Returns.liftExcept fun s1 h1 => ?_
  refine Encode.Returns.bind Encode.Returns.liftExcept fun s2 h2 => ?_
  have h12 := (initOriginated_keeps h1).trans (initRedistribution_keeps h2)
  -- the data forwarding lists are made from the empty map
  have hempty : ∀ r, s2.decisions.data.getD r [] = [] := fun r => by
    rw [h12.2]
    rfl
  refine Encode.Returns.bind (Encode.Returns.build (builds_addForwardingVariables s2 hempty))
    fun s3 h3 => ?_
  refine Encode.Returns.bind (Encode.Returns.build (builds_addBestVariables s3)) fun s4 h4 => ?_
  refine Encode.Returns.bind (returns_addRecords s4) fun s5 h5 => ?_
  refine Encode.Returns.bind (Encode.Returns.build (builds_addChoices s5)) fun s6 h6 => ?_
  refine Encode.Returns.bind (Encode.Returns.build (builds_addEnvironment s6)) fun s7 h7 => ?_
  refine Encode.Returns.bind (returns_addAcls s7) fun s8 h8 => ?_
  refine Encode.Returns.build ((builds_addForwardsAcross s8).mono fun s9 h9 => ?_)
  have h39 := h4.trans (h5.trans (h6.trans (h7.trans (h8.trans h9)))).1
  have hg9 : s9.graph = g := by rw [h39.1, h3.1, h12.1]
  refine ⟨hg9, ?_⟩
  unfold DataInOrder
  rw [h39.2, hg9]
  exact h3.2.congr fun r e => by rw [h12.1]; exact entryEdges_iff hg r e

end Slice

theorem Encoder.returns_new {g : Graph} (hg : g.WellFormed) (q : HeaderQuestion) :
    Encode.Returns (Encoder.new g q) fun enc => enc.main.graph = g ∧ enc.main.DataInOrder := by
  unfold Encoder.new
  dsimp only
  generalize (if (List.isEmpty g.ibgpNeighbors || !true) = true then "" else mainSliceName) = name
  refine Encode.Returns.bind_any fun id => Encode.Returns.bind_any fun _ => ?_
  refine Encode.Returns.bind (Slice.returns_new id _ hg _ _) fun main hmain => ?_
  rw [if_pos rfl]
  -- the map of slices holds the main slice and only new slices of the graph
  refine Encode.Returns.bind (Encode.Returns.forIn (fun _ b => (∀ k v, b.1.get? k = some v →
      v.graph = g ∧ v.DataInOrder) ∧ (b.1.get? name).isSome) ⟨fun k v h => ?_, by simp⟩ ?_)
    fun b hb => Encode.Returns.pure ?_
  · simp only [NameMap.get?_insert, NameMap.get?_empty] at h
    split at h
    · cases h
      exact hmain
    · cases h
  · intro _ x _ b _ hb
    refine Encode.Returns.bind (Slice.returns_new id _ hg _ _) fun slice hslice => ?_
    refine Encode.Returns.bind_any fun r => Encode.Returns.pure ⟨_, rfl, fun k v h => ?_, ?_⟩
    · simp only [NameMap.get?_insert] at h
      split at h
      · cases h
        exact hslice
      · exact hb.1 k v h
    · simp only [NameMap.get?_insert]
      split
      · rfl
      · exact hb.2
  · obtain ⟨v, hv⟩ := Option.isSome_iff_exists.1 hb.2
    simp only [Encoder.main, NameMap.getD, hv, Option.getD_some]
    exact hb.1 name v hv

end ControlPlane
