import ControlPlane.Proofs.Network.PhysicalLinks
import ControlPlane.Proofs.Encoding.ModeledFields
import ControlPlane.Proofs.Encoding.Growth

/-!
# The failure variables of a graph

`Failures.new` gives every link of the graph one integer variable. A link between two routers is
keyed by the ordered pair of their names, so both directions of the link, and every parallel
link between the same routers, share one variable; a link leaving the network is keyed by its
edge. Abstract and null-route edges cannot fail: their failure variable is the constant `0`.

Read over the real edges (`Failures.new_spec`), every real edge other than a null route gets the
variable of its link, and every variable is one registered in the context. So the failure
variable of an edge is `0` exactly when the edge is abstract or a null route
(`Failures.failedVariable_eq_zero_iff`), and the two directions of a link have the same one
(`Failures.failedVariable_opposite`).
-/

namespace ControlPlane

open Std GraphEdge

namespace Build

/-- A fold of the builder: an invariant over the part of the list done, kept by each step, holds
when the fold ends. -/
theorem Triple.foldlM {α β : Type} {xs : List α} {f : β → α → Build β} {init : β}
    (I : List α → β → Context → Prop)
    (hf : ∀ pre x post b, xs = pre ++ x :: post → Triple (I pre b) (f b x) (I (pre ++ [x]))) :
    Triple (I [] init) (xs.foldlM f init) (I xs) := by
  suffices h : ∀ post pre b, xs = pre ++ post → Triple (I pre b) (post.foldlM f b) (I xs) from
    h xs [] init rfl
  intro post
  induction post with
  | nil =>
    intro pre b h
    exact Triple.pure fun c hc => by simpa [h] using hc
  | cons x post ih =>
    intro pre b h
    rw [List.foldlM_cons]
    exact Triple.bind (hf pre x post b h) fun b' => ih (pre ++ [x]) b' (by simp [h])

theorem Triple.mkVar_var (n : String) (s : TermSort) :
    Triple Context.VarsOnly (mkVar n s) fun v c => c.VarsOnly ∧ ∃ n' s', v = .var n' s' := by
  intro c hc
  refine ⟨(grows_mkVar n s c).2 hc, ?_⟩
  cases h : c.lookupVar n with
  | none =>
    rw [mkVar_run_new h]
    exact ⟨n, s, rfl⟩
  | some v =>
    have hr : (mkVar n s).run c = (v, c) := by
      simp [mkVar, h]
      rfl
    rw [hr]
    exact hc.lookupVar h

end Build

namespace Failures

instance : ReflCmp pairCmp := ⟨by intro a; simp [pairCmp]⟩

theorem linkKey_comm (a b : String) : linkKey a b = linkKey b a := by
  unfold linkKey
  by_cases hab : a ≤ b <;> by_cases hba : b ≤ a
  · rw [if_pos hab, if_pos hba, String.le_antisymm hab hba]
  · rw [if_pos hab, if_neg hba]
  · rw [if_neg hab, if_pos hba]
  · exact ((String.le_total a b).elim hab hba).elim

def LinkVars (f : Failures) : Prop := ∀ t ∈ f.allLinks, ∃ n s, t = .var n s

/-- The variable of the link of an edge: the one of its routers, or of the edge itself for a
link leaving the network. -/
def linkVar? (f : Failures) (e : GraphEdge) : Option Term :=
  match e.peer with
  | some p => Ordered.find? pairCmp (linkKey e.router p) f.internal
  | none => Ordered.find? GraphEdge.cmp e f.external

def Keyed (f : Failures) (e : GraphEdge) : Prop := (f.linkVar? e).isSome

variable {f : Failures} {e : GraphEdge}

theorem failedVariable_eq (f : Failures) (e : GraphEdge) :
    f.failedVariable e = if (e.isAbstract || e.isNullEdge) = true then .ok (.int 0) else
      match f.linkVar? e with
      | some t => .ok t
      | none => .error (.missingVariable ("failure of " ++ e.text)) := rfl

theorem linkVar?_mem {t : Term} (h : f.linkVar? e = some t) : t ∈ f.allLinks := by
  unfold linkVar? at h
  split at h
  · obtain ⟨k, hk⟩ := Ordered.exists_mem_of_find? h
    exact List.mem_append_left _ (List.mem_map_of_mem (f := Prod.snd) hk)
  · obtain ⟨k, hk⟩ := Ordered.exists_mem_of_find? h
    exact List.mem_append_right _ (List.mem_map_of_mem (f := Prod.snd) hk)

theorem linkVar?_congr (f : Failures) {a b : GraphEdge} (h : GraphEdge.cmp a b = .eq) :
    f.linkVar? a = f.linkVar? b := by
  obtain ⟨hr, -, hp, -⟩ := sameEnds_of_cmp_eq h
  unfold linkVar?
  rw [hr, hp, Ordered.find?_congr h]

theorem linkVar?_opposite (f : Failures) {e o : GraphEdge} (h : Opposite e o) :
    f.linkVar? o = f.linkVar? e := by
  simp only [linkVar?, h.1, h.2.1, linkKey_comm o.router e.router]

/-- What a failure variable is: `0` for an abstract or null-route edge, a link variable
otherwise. -/
theorem failedVariable_cases {t : Term} (h : f.failedVariable e = .ok t) :
    ((e.isAbstract || e.isNullEdge) = true ∧ t = .int 0) ∨
      ((e.isAbstract || e.isNullEdge) = false ∧ t ∈ f.allLinks) := by
  rw [failedVariable_eq] at h
  split at h
  · next hz => exact .inl ⟨hz, (Except.ok.inj h).symm⟩
  · next hz =>
    refine .inr ⟨by simpa using hz, ?_⟩
    cases hv : f.linkVar? e with
    | none =>
      rw [hv] at h
      cases h
    | some t' =>
      rw [hv, Except.ok.injEq] at h
      exact h ▸ linkVar?_mem hv

theorem failedVariable_eq_zero_iff (hv : f.LinkVars) (e : GraphEdge) :
    f.failedVariable e = .ok (.int 0) ↔ (e.isAbstract || e.isNullEdge) = true := by
  constructor
  · intro h
    rcases failedVariable_cases h with ⟨hz, -⟩ | ⟨-, ht⟩
    · exact hz
    · obtain ⟨n, s, hns⟩ := hv _ ht
      cases hns
  · intro hz
    rw [failedVariable_eq, if_pos hz]

theorem failedVariable_congr (f : Failures) {a b : GraphEdge} (h : GraphEdge.cmp a b = .eq) :
    f.failedVariable a = f.failedVariable b := by
  obtain ⟨ha, hn⟩ := flags_eq_of_cmp_eq h
  rw [failedVariable_eq, failedVariable_eq, ha, hn, linkVar?_congr f h, (sameEnds_of_cmp_eq h).text_eq]

theorem failedVariable_of_keyed (hk : f.Keyed e) (hp : e.isPhysical = true) :
    ∃ t ∈ f.allLinks, f.linkVar? e = some t ∧ f.failedVariable e = .ok t := by
  simp only [isPhysical, Bool.and_eq_true, Bool.not_eq_true'] at hp
  obtain ⟨t, ht⟩ := Option.isSome_iff_exists.1 hk
  refine ⟨t, linkVar?_mem ht, ht, ?_⟩
  rw [failedVariable_eq, hp.1, hp.2, ht]
  rfl

/-- The two directions of a link between routers, the link having its variable, have the same
failure variable. -/
theorem failedVariable_opposite {o : GraphEdge} (h : Opposite e o) (hk : f.Keyed e)
    (he : e.isPhysical = true) (ho : o.isPhysical = true) :
    f.failedVariable o = f.failedVariable e := by
  obtain ⟨t, -, hte, hfe⟩ := failedVariable_of_keyed hk he
  have hko : f.Keyed o := by
    unfold Keyed
    rw [linkVar?_opposite f h, hte]
    rfl
  obtain ⟨t', -, hto, hfo⟩ := failedVariable_of_keyed hko ho
  have htt : some t' = some t := hto.symm.trans ((linkVar?_opposite f h).trans hte)
  rw [hfe, hfo, Option.some.inj htt]

theorem Keyed.put_internal (h : f.Keyed e) (k : String × String) (v : Term) :
    ({ f with internal := Ordered.put pairCmp k v f.internal } : Failures).Keyed e := by
  unfold Keyed linkVar? at h ⊢
  split
  · next p hp =>
    rw [hp] at h
    exact Ordered.find?_put_isSome h
  · next hp =>
    rw [hp] at h
    exact h

theorem Keyed.put_external (h : f.Keyed e) (k : GraphEdge) (v : Term) :
    ({ f with external := Ordered.put GraphEdge.cmp k v f.external } : Failures).Keyed e := by
  unfold Keyed linkVar? at h ⊢
  split
  · next p hp =>
    rw [hp] at h
    exact h
  · next hp =>
    rw [hp] at h
    exact Ordered.find?_put_isSome h

/-- What the failure variables keep while the real edges are read: every link variable is a
variable, and every edge read, other than a null route, has the variable of its link. -/
def Reads (done : List GraphEdge) (f : Failures) : Prop :=
  f.LinkVars ∧ ∀ e ∈ done, e.isNullEdge = false → f.Keyed e

theorem LinkVars.put_internal (h : f.LinkVars) (k : String × String) {v : Term}
    (hv : ∃ n s, v = .var n s) : ({ f with internal := Ordered.put pairCmp k v f.internal } : Failures).LinkVars := by
  intro t ht
  rcases List.mem_append.1 ht with ht | ht
  · obtain ⟨q, hq, rfl⟩ := List.mem_map.1 ht
    rcases Ordered.mem_put hq with ⟨-, hqv⟩ | hq
    · rw [hqv]
      exact hv
    · exact h q.2 (List.mem_append_left _ (List.mem_map_of_mem hq))
  · exact h t (List.mem_append_right _ ht)

theorem LinkVars.put_external (h : f.LinkVars) (k : GraphEdge) {v : Term}
    (hv : ∃ n s, v = .var n s) : ({ f with external := Ordered.put GraphEdge.cmp k v f.external } : Failures).LinkVars := by
  intro t ht
  rcases List.mem_append.1 ht with ht | ht
  · exact h t (List.mem_append_left _ ht)
  · obtain ⟨q, hq, rfl⟩ := List.mem_map.1 ht
    rcases Ordered.mem_put hq with ⟨-, hqv⟩ | hq
    · rw [hqv]
      exact hv
    · exact h q.2 (List.mem_append_right _ (List.mem_map_of_mem hq))

/-- Failure variables for the links of a graph: every link variable is a variable, and every real
edge other than a null route has the variable of its link. -/
structure OfGraph (f : Failures) (g : Graph) : Prop where
  vars : f.LinkVars
  keyed : ∀ e ∈ g.allRealEdges, e.isNullEdge = false → f.Keyed e

/-- Reading the real edges gives every one that is not a null route the variable of its link,
and registers only variables. -/
theorem new_spec (g : Graph) (pre : String) :
    Build.Triple Context.VarsOnly (new g pre) fun f c =>
      c.VarsOnly ∧ f.LinkVars ∧ ∀ e ∈ g.allRealEdges, e.isNullEdge = false → f.Keyed e := by
  unfold new
  refine Build.Triple.bind (Q := fun links c => links.Reads g.allRealEdges ∧ c.VarsOnly) ?_
    fun links => ?_
  · refine (Build.Triple.foldlM (fun done f c => f.Reads done ∧ c.VarsOnly) ?_).mono
      (fun c hc => ⟨⟨by simp [LinkVars, allLinks], by simp⟩, hc⟩) fun _ _ h => h
    intro done e post f _
    refine Build.Triple.assume fun hr => ?_
    -- an edge read keeps the edges read before it
    have hdone : ∀ f' : Failures, (∀ e' ∈ done, f.Keyed e' → f'.Keyed e') → f'.LinkVars →
        (e.isNullEdge = false → f'.Keyed e) → f'.Reads (done ++ [e]) := by
      intro f' hkeep hv hke
      refine ⟨hv, fun e' he' hn => ?_⟩
      rcases List.mem_append.1 he' with he' | he'
      · exact hkeep e' he' (hr.2 e' he' hn)
      · rw [List.mem_singleton.1 he']
        rw [List.mem_singleton.1 he'] at hn
        exact hke hn
    split
    · next hnull =>
      exact Build.Triple.pure fun c hc =>
        ⟨hdone f (fun _ _ h => h) hr.1 (fun hn => by rw [hnull] at hn; cases hn), hc⟩
    · split
      · next peer hpeer =>
        dsimp only
        split
        · next hmem =>
          refine Build.Triple.pure fun c hc => ⟨hdone f (fun _ _ h => h) hr.1 fun _ => ?_, hc⟩
          unfold Keyed linkVar?
          rw [hpeer]
          exact hmem
        · refine Build.Triple.bind (Build.Triple.mkVar_var _ _) fun v => Build.Triple.pure fun c hc =>
            ⟨hdone _ (fun e' _ h => h.put_internal _ _) (hr.1.put_internal _ hc.2) fun _ => ?_, hc.1⟩
          unfold Keyed linkVar?
          rw [hpeer]
          exact Ordered.find?_isSome_iff.2 (Ordered.exists_key_put _ _ _)
      · next hpeer =>
        refine Build.Triple.bind (Build.Triple.mkVar_var _ _) fun v => Build.Triple.pure fun c hc =>
          ⟨hdone _ (fun e' _ h => h.put_external _ _) (hr.1.put_external _ hc.2) fun _ => ?_, hc.1⟩
        unfold Keyed linkVar?
        rw [hpeer]
        exact Ordered.find?_isSome_iff.2 (Ordered.exists_key_put _ _ _)
  · -- the variables of the routers leave the links as they are
    refine Build.Triple.assume fun hr => ?_
    refine Build.Triple.bind (Q := fun _ c => c.VarsOnly)
      (fun c hc => ((Build.growsClosed.mapM fun _ =>
        (Build.grows_intVar _).bind fun _ => Build.Grows.pure) c).2 hc) fun nodes => ?_
    exact Build.Triple.pure fun c hc => ⟨hc, hr.1, hr.2⟩

theorem new_ofGraph (g : Graph) (pre : String) {c : Context} (hc : c.VarsOnly) :
    ((new g pre).run c).1.OfGraph g :=
  let h := new_spec g pre c hc
  ⟨h.2.1, h.2.2⟩

end Failures

end ControlPlane
