import ControlPlane.Proofs.Encoding.SliceGrowth
import ControlPlane.Proofs.Encoding.Guarantees
import ControlPlane.Proofs.Encoding.ForwardingTable
import ControlPlane.Proofs.Encoding.ModeledFields

/-!
# The best records of a slice

Creating a slice gives every router of its scope an overall best record, and a best record for
each protocol it models: the overall one when the router models one protocol, a record of its
own otherwise (`Slice.addBestVariables`). The later steps of `Slice.new` leave the scope and the
best records alone, so every slice of a new encoder has them (`Encoder.hoare_new`).

The permitted flag of each of these records is a variable, when the context registers only
variables: `Build.mkVar` returns a registered name's term, and registered terms are variables in
every context built from the empty one. A variable has a value in every model, which the
constraints on the best records need (a disjunction equal to a flag that is itself the
disjunction would otherwise say nothing).
-/

namespace ControlPlane

namespace Ordered

variable {κ α : Type} {cmp : κ → κ → Ordering}

theorem find?_put_self [Std.ReflCmp cmp] (k : κ) (v : α) (l : List (κ × α)) :
    find? cmp k (put cmp k v l) = some v := by
  induction l with
  | nil => simp [put, find?, Std.ReflCmp.compare_self]
  | cons q l ih =>
    obtain ⟨k', v'⟩ := q
    simp only [put]
    split
    · simp [find?, Std.ReflCmp.compare_self]
    · next h => simp [find?, h]
    · next h => simp [find?, h, ih]

theorem find?_put_of_ne [Std.LawfulEqCmp cmp] {k k' : κ} (h : k ≠ k') (v : α) (l : List (κ × α)) :
    find? cmp k (put cmp k' v l) = find? cmp k l := by
  have hne : ∀ y, cmp k' y = .eq → cmp k y ≠ .eq := fun y hy hky =>
    h ((Std.LawfulEqCmp.eq_of_compare hky).trans (Std.LawfulEqCmp.eq_of_compare hy).symm)
  induction l with
  | nil => simp [put, find?, hne k' Std.ReflCmp.compare_self]
  | cons q l ih =>
    obtain ⟨k'', v'⟩ := q
    simp only [put]
    split
    · simp [find?, hne k' Std.ReflCmp.compare_self]
    · next heq => simp [find?, hne k'' heq]
    · simp [find?, ih]

end Ordered

instance : Std.LawfulEqCmp (compare : Protocol → Protocol → Ordering) where
  compare_self {a} := by cases a <;> rfl
  eq_of_compare {a b} := by cases a <;> cases b <;> decide

def Route.PermittedVar (r : Route) : Prop := ∃ n s, r.permitted = .var n s

theorem Route.PermittedVar.eval_ok {r : Route} (h : r.PermittedVar) (m : Model) :
    ∃ v, m.eval r.permitted = .ok v := by
  obtain ⟨n, srt, hn⟩ := h
  exact ⟨_, by rw [hn]; rfl⟩

theorem Build.triple_mkVar_var (n : String) (s : TermSort) :
    Build.Triple Context.VarsOnly (Build.mkVar n s) fun v c => (∃ n' s', v = .var n' s') ∧ c.VarsOnly := by
  intro c hc
  refine ⟨?_, (Build.grows_mkVar n s c).2 hc⟩
  cases h : c.lookupVar n with
  | none =>
    rw [Build.mkVar_run_new h]
    exact ⟨n, s, rfl⟩
  | some t =>
    have hr : ((Build.mkVar n s).run c).1 = t := by simp [Build.mkVar, h]; rfl
    rw [hr]
    exact hc.lookupVar h

open Build in
theorem Route.new_permittedVar (name router : String) (proto : Option Protocol) (s : Scope)
    (g : Graph) (modelIgp isEnv : Bool) :
    Triple Context.VarsOnly (Route.new name router proto s g modelIgp isEnv)
      fun r c => r.PermittedVar ∧ c.VarsOnly := by
  have hflag : Triple Context.VarsOnly (Route.new name router proto s g modelIgp isEnv)
      fun r _ => r.PermittedVar := by
    unfold Route.new
    refine Triple.bind (triple_mkVar_var _ _) fun v c hv => ?_
    obtain ⟨⟨n', s', rfl⟩, -⟩ := hv
    refine ⟨n', s', (show Builds _ fun r : Route => r.permitted = .var n' s' from ?_) c⟩
    iterate 6 refine Builds.bind_any fun _ => ?_
    iterate 4 refine Builds.join_optional fun _ _ => ?_
    refine Builds.bind_any fun _ => Builds.join_optional fun _ _ => ?_
    exact Builds.join (P := fun _ => True) (fun _ _ => trivial) (fun _ => Builds.pure trivial)
      fun _ _ => Builds.pure rfl
  exact fun c hc => ⟨hflag c hc, (Route.grows_new name router proto s g modelIgp isEnv c).2 hc⟩

namespace Decisions

variable {d : Decisions} {sc : Scope} {r r' : String} {p p' : Protocol} {x : Route}

def HasOverall (d : Decisions) (r : String) : Prop := ∃ b, d.best.get? r = some b ∧ b.PermittedVar

def HasBest (d : Decisions) (sc : Scope) (r : String) (p : Protocol) : Prop :=
  ∃ b, d.bestOf? sc r p = some b ∧ b.PermittedVar

def Records (d : Decisions) (sc : Scope) (q : String × List Protocol) : Prop :=
  d.HasOverall q.1 ∧ ∀ p ∈ q.2, d.HasBest sc q.1 p

theorem hasBest_single (hs : sc.isSingle r = true) : d.HasBest sc r p ↔ d.HasOverall r := by
  simp [HasBest, HasOverall, bestOf?, hs]

theorem hasBest_multi (hs : sc.isSingle r = false) :
    d.HasBest sc r p ↔ ∃ b, Ordered.find? compare p (d.bestPerProtocol.getD r []) = some b ∧ b.PermittedVar := by
  simp [HasBest, bestOf?, hs]

theorem hasOverall_insert (hx : x.PermittedVar) : HasOverall { d with best := d.best.insert r x } r :=
  ⟨x, by simp, hx⟩

theorem HasOverall.insert (h : d.HasOverall r) (r' : String) (hx : x.PermittedVar) :
    HasOverall { d with best := d.best.insert r' x } r := by
  by_cases hr : r = r'
  · subst hr
    exact hasOverall_insert hx
  · obtain ⟨b, hb, hv⟩ := h
    exact ⟨b, by simp [hr, hb], hv⟩

theorem HasBest.insert (h : d.HasBest sc r p) (r' : String) (hx : x.PermittedVar) :
    HasBest { d with best := d.best.insert r' x } sc r p := by
  cases hs : sc.isSingle r
  · exact (hasBest_multi hs).2 ((hasBest_multi (d := d) hs).1 h)
  · exact (hasBest_single hs).2 (((hasBest_single (d := d) hs).1 h).insert r' hx)

theorem hasBest_put (hs : sc.isSingle r = false) (hx : x.PermittedVar) :
    HasBest { d with bestPerProtocol :=
      d.bestPerProtocol.insert r (Ordered.put compare p x (d.bestPerProtocol.getD r [])) } sc r p :=
  (hasBest_multi hs).2 ⟨x, by simp [Ordered.find?_put_self], hx⟩

theorem HasBest.put (h : d.HasBest sc r p) (r' : String) (p' : Protocol) (hx : x.PermittedVar) :
    HasBest { d with bestPerProtocol :=
      d.bestPerProtocol.insert r' (Ordered.put compare p' x (d.bestPerProtocol.getD r' [])) } sc r p := by
  cases hs : sc.isSingle r
  · by_cases hr : r = r'
    · subst hr
      by_cases hp : p = p'
      · subst hp
        exact hasBest_put hs hx
      · obtain ⟨b, hb, hv⟩ := (hasBest_multi (d := d) hs).1 h
        exact (hasBest_multi hs).2 ⟨b, by simp [Ordered.find?_put_of_ne hp, hb], hv⟩
    · obtain ⟨b, hb, hv⟩ := (hasBest_multi (d := d) hs).1 h
      exact (hasBest_multi hs).2 ⟨b, by simp [hr, hb], hv⟩
  · exact (hasBest_single hs).2 ((hasBest_single (d := d) (p := p) hs).1 h)

end Decisions

namespace Slice

def BestRecords (s : Slice) : Prop := ∀ q ∈ s.scope.protocols.entries, s.decisions.Records s.scope q

theorem newRoute_permittedVar (s : Slice) (name router : String) (p : Option Protocol) (isEnv : Bool) :
    Build.Triple Context.VarsOnly (s.newRoute name router p isEnv) fun r c => r.PermittedVar ∧ c.VarsOnly :=
  Route.new_permittedVar _ _ _ _ _ _ _

open Build in
theorem addBestVariables_records (s : Slice) :
    Triple Context.VarsOnly s.addBestVariables fun s' c =>
      (s'.scope = s.scope ∧ s'.BestRecords) ∧ c.VarsOnly := by
  unfold addBestVariables
  -- the routers done so far have their records
  refine Triple.bind (Triple.mono (Triple.forIn (fun pre (b : Slice) c =>
    (b.scope = s.scope ∧ ∀ q ∈ pre, b.decisions.Records s.scope q) ∧ c.VarsOnly) ?_)
      (fun c hc => ⟨⟨rfl, by simp⟩, hc⟩) fun _ _ h => h) fun b => Triple.pure fun c hc => ?_
  · intro pre x post b _
    obtain ⟨router, protos⟩ := x
    refine Triple.assume fun ⟨hscope, hpre⟩ => ?_
    refine Triple.bind (b.newRoute_permittedVar _ _ _ _) fun best => Triple.assume fun hbest => ?_
    dsimp only
    split
    · next hmulti =>
      have hmulti : s.scope.isSingle router = false := by rw [← hscope]; simpa [addRoute] using hmulti
      -- and the protocols of `router` done so far have theirs
      refine Triple.bind (Triple.mono (Triple.forIn (fun pre' (b : Slice) c =>
        (b.scope = s.scope ∧ (∀ q ∈ pre, b.decisions.Records s.scope q) ∧ b.decisions.HasOverall router ∧
          ∀ p ∈ pre', b.decisions.HasBest s.scope router p) ∧ c.VarsOnly) ?_)
          (fun c hc => ⟨⟨hscope, fun q hq => ?_, Decisions.hasOverall_insert hbest, by simp⟩, hc⟩)
          fun _ _ h => h) fun b' => Triple.pure fun c hc => ⟨_, rfl, ⟨hc.1.1, fun q hq => ?_⟩, hc.2⟩
      · intro pre' p post' b' _
        refine Triple.assume fun ⟨hscope', hpre', hover, hdone⟩ => ?_
        refine Triple.bind (b'.newRoute_permittedVar _ _ _ _) fun r => Triple.assume fun hr => ?_
        refine Triple.pure fun c hc => ⟨_, rfl, ⟨hscope', fun q hq => ?_, hover, fun p' hp' => ?_⟩, hc⟩
        · exact ⟨(hpre' q hq).1, fun p'' hp'' => ((hpre' q hq).2 p'' hp'').put router p hr⟩
        · rcases List.mem_append.1 hp' with hp' | hp'
          · exact (hdone p' hp').put router p hr
          · rw [List.mem_singleton.1 hp']
            exact Decisions.hasBest_put hmulti hr
      · exact ⟨(hpre q hq).1.insert router hbest, fun p hp => ((hpre q hq).2 p hp).insert router hbest⟩
      · rcases List.mem_append.1 hq with hq | hq
        · exact hc.1.2.1 q hq
        · rw [List.mem_singleton.1 hq]
          exact ⟨hc.1.2.2.1, hc.1.2.2.2⟩
    · next hsingle =>
      have hsingle : s.scope.isSingle router = true := by rw [← hscope]; simpa [addRoute] using hsingle
      refine Triple.pure fun c hc => ⟨_, rfl, ⟨hscope, fun q hq => ?_⟩, hc⟩
      rcases List.mem_append.1 hq with hq | hq
      · exact ⟨(hpre q hq).1.insert router hbest, fun p hp => ((hpre q hq).2 p hp).insert router hbest⟩
      · rw [List.mem_singleton.1 hq]
        exact ⟨Decisions.hasOverall_insert hbest,
          fun p _ => (Decisions.hasBest_single hsingle).2 (Decisions.hasOverall_insert hbest)⟩
  · refine ⟨⟨hc.1.1, fun q hq => ?_⟩, hc.2⟩
    rw [hc.1.1] at hq ⊢
    exact hc.1.2 q hq

theorem BestRecords.keep {s s' : Slice} (h : s.BestRecords) (hk : KeepsBest s s') : s'.BestRecords := by
  obtain ⟨-, hscope, hbest, hper⟩ := hk
  simpa only [BestRecords, Decisions.Records, Decisions.HasOverall, Decisions.HasBest,
    Decisions.bestOf?, hscope, hbest, hper] using h

end Slice

namespace Encode

variable {α : Type} {P : Context → Prop} {Q : α → Context → Prop}

theorem Hoare.with_returns {x : Encode α} {R : α → Prop} (hx : Hoare P x Q) (hr : Returns x R) :
    Hoare P x fun a c => R a ∧ Q a c :=
  fun c hc a c' h => ⟨hr c a (by rw [h]), hx c hc a c' h⟩

theorem Hoare.varsOnly {x : Encode α} (hg : Grows x) : Hoare Context.VarsOnly x fun _ c => c.VarsOnly := by
  intro c hc a c' h
  have hext := hg c
  rw [h] at hext
  exact hext.2 hc

theorem Hoare.build_varsOnly {x : Build α} {R : α → Prop} (hg : Build.Grows x) (hb : Build.Builds x R) :
    Hoare Context.VarsOnly (liftM x) fun a c => R a ∧ c.VarsOnly :=
  Hoare.lift fun c hc => ⟨hb c, (hg c).2 hc⟩

end Encode

namespace Slice

open Encode

/-- A slice as `Slice.new` makes it over the graph `g`: it has the graph, its data forwarding
lists in order, and the best records of the routers of its scope. -/
def Built (g : Graph) (s : Slice) : Prop := s.graph = g ∧ s.DataInOrder ∧ s.BestRecords

theorem hoare_new (id : Nat) (name : String) {g : Graph} (hg : g.WellFormed) (hs : HeaderSpace)
    (igp : Bool) : Hoare Context.VarsOnly (Slice.new id name g hs igp) fun s c => s.Built g ∧ c.VarsOnly := by
  suffices hrec : Hoare Context.VarsOnly (Slice.new id name g hs igp) fun s c => s.BestRecords ∧ c.VarsOnly from
    (hrec.with_returns (returns_new id name hg hs igp)).mono (fun _ h => h)
      fun s c ⟨⟨hgraph, hdata⟩, hrec, hc⟩ => ⟨⟨hgraph, hdata, hrec⟩, hc⟩
  unfold Slice.new
  dsimp only
  refine Hoare.bind (Hoare.build_varsOnly (R := fun _ => True) (by simp) fun _ => trivial)
    fun packet => Hoare.assume fun _ => ?_
  refine Hoare.bind Hoare.liftExcept fun s1 => Hoare.assume fun _ => ?_
  refine Hoare.bind Hoare.liftExcept fun s2 => Hoare.assume fun _ => ?_
  refine Hoare.bind (Hoare.build_varsOnly (R := fun _ => True) (by simp) fun _ => trivial)
    fun s3 => Hoare.assume fun _ => ?_
  -- the best records are made here, and every later step keeps them
  refine Hoare.bind (Hoare.lift (addBestVariables_records s3)) fun s4 => Hoare.assume fun h4 => ?_
  refine Hoare.bind ((Hoare.varsOnly (by simp)).with_returns (returns_addRecords s4))
    fun s5 => Hoare.assume fun h5 => ?_
  refine Hoare.bind (Hoare.build_varsOnly (by simp) (builds_addChoices s5))
    fun s6 => Hoare.assume fun h6 => ?_
  refine Hoare.bind (Hoare.build_varsOnly (by simp) (builds_addEnvironment s6))
    fun s7 => Hoare.assume fun h7 => ?_
  refine Hoare.bind ((Hoare.varsOnly (by simp)).with_returns (returns_addAcls s7))
    fun s8 => Hoare.assume fun h8 => ?_
  exact (Hoare.build_varsOnly (by simp) (builds_addForwardsAcross s8)).mono (fun _ h => h)
    fun s9 c ⟨h9, hc⟩ => ⟨h4.2.keep (h5.trans (h6.trans (h7.trans (h8.trans h9)))), hc⟩

end Slice

namespace Encoder

open Encode

/-- Every slice of an encoder that `Encoder.new` makes over a well-formed graph, from a context
that registers only variables, is built over the graph, and the main slice is one of them. -/
theorem hoare_new {g : Graph} (hg : g.WellFormed) (q : HeaderQuestion) :
    Hoare Context.VarsOnly (Encoder.new g q) fun e c =>
      ((∀ name s, e.slices.get? name = some s → s.Built g) ∧ (e.slices.get? e.mainName).isSome) ∧
        c.VarsOnly := by
  unfold Encoder.new
  dsimp only
  generalize (if (List.isEmpty g.ibgpNeighbors || !true) = true then "" else mainSliceName) = name
  refine Hoare.bind (Hoare.varsOnly (by simp)) fun id => ?_
  refine Hoare.bind (Hoare.varsOnly (by simp)) fun failures => ?_
  refine Hoare.bind (Slice.hoare_new id name hg _ _) fun main => Hoare.assume fun hmain => ?_
  rw [if_pos rfl]
  -- the map of slices holds the main slice and only slices built over the graph
  refine Hoare.bind (Hoare.mono (Hoare.forIn (fun _ b c =>
      ((∀ k v, b.1.get? k = some v → v.Built g) ∧ (b.1.get? name).isSome) ∧ c.VarsOnly) ?_)
    (fun c hc => ⟨⟨fun k v h => ?_, by simp⟩, hc⟩) fun _ _ h => h) fun b => Hoare.pure fun c hc => hc
  · intro _ x _ b _
    obtain ⟨router, ip⟩ := x
    refine Hoare.assume fun hb => ?_
    refine Hoare.bind (Slice.hoare_new id _ hg _ _) fun slice => Hoare.assume fun hslice => ?_
    refine Hoare.bind (Hoare.varsOnly (by simp)) fun r => Hoare.pure fun c hc => ⟨_, rfl, ⟨?_, ?_⟩, hc⟩
    · intro k v h
      simp only [NameMap.get?_insert] at h
      split at h
      · cases h
        exact hslice
      · exact hb.1 k v h
    · simp only [NameMap.get?_insert]
      split
      · rfl
      · exact hb.2
  · simp only [NameMap.get?_insert, NameMap.get?_empty] at h
    split at h
    · cases h
      exact hmain
    · cases h

end Encoder

end ControlPlane
