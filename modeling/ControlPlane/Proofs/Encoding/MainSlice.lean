import ControlPlane.Proofs.Encoding.ForwardingTable

/-!
# The main slice of an encoder

An encoder keeps its slices in a map by name. The main slice is made first, for the packets of
the question, and with iBGP sessions it is filed under `SLICE-MAIN_`. Every iBGP speaker `r`
then gets a slice for the TCP packets to its session address, filed under `SLICE-r_`. The two
kinds of names meet: the slice of a speaker named `MAIN` is filed under the main slice's name
(`sliceName_eq_mainSliceName_iff`) and takes its place.

No step of building a slice changes the header space it is made for (`Slice.returns_new_headerSpace`),
so the main slice of a new encoder models the packets of the question, unless an iBGP speaker
is named `MAIN`; then it models the packets of that speaker's sessions (`main_slice_header_space`).
Each speaker has one session address (`nodup_ibgpSessionAddresses`), so that case is
unambiguous.
-/

namespace ControlPlane

theorem sliceName_eq_mainSliceName_iff (r : String) : sliceName r = mainSliceName ↔ r = "MAIN" := by
  have h : mainSliceName = "SLICE-" ++ "MAIN" ++ "_" := rfl
  rw [sliceName, h, String.append_left_inj, String.append_right_inj]

theorem nodup_ibgpSessionAddresses (g : Graph) : ((ibgpSessionAddresses g).map Prod.fst).Nodup := by
  unfold ibgpSessionAddresses
  dsimp only
  refine List.foldlRecOn (motive := fun acc : List (String × Ip) => (acc.map Prod.fst).Nodup) _ _
    List.nodup_nil fun acc hacc p _ => ?_
  obtain ⟨r, ip⟩ := p
  dsimp only
  split
  · exact hacc
  · rename_i hnew
    have hr : r ∉ acc.map Prod.fst := by
      simpa using hnew
    rw [List.map_append, List.nodup_append]
    simpa using ⟨hacc, fun a ip' ha h => hr (List.mem_map.2 ⟨(a, ip'), ha, h⟩)⟩

theorem ibgpSessionAddresses_of_isEmpty {g : Graph} (h : g.ibgpNeighbors.isEmpty = true) :
    ibgpSessionAddresses g = [] := by
  rw [List.isEmpty_iff] at h
  simp [ibgpSessionAddresses, h]

namespace Slice

theorem headerSpace_initOriginated {s s' : Slice} (h : s.initOriginated = .ok s') :
    s'.headerSpace = s.headerSpace := by
  unfold initOriginated at h
  obtain ⟨o, -, h⟩ := Except.exists_of_bind_eq_ok h
  cases h
  rfl

theorem headerSpace_initRedistribution {s s' : Slice} (h : s.initRedistribution = .ok s') :
    s'.headerSpace = s.headerSpace := by
  unfold initRedistribution at h
  obtain ⟨o, -, h⟩ := Except.exists_of_bind_eq_ok h
  cases h
  rfl

theorem headerSpace_addForwardingVariables (s : Slice) :
    Build.Builds s.addForwardingVariables (·.headerSpace = s.headerSpace) :=
  Build.Builds.bind_any fun _ => Build.Builds.pure rfl

theorem headerSpace_addBestVariables (s : Slice) :
    Build.Builds s.addBestVariables (·.headerSpace = s.headerSpace) := by
  unfold addBestVariables
  dsimp only
  refine Build.Builds.bind (Build.Builds.forIn (fun _ b => b.headerSpace = s.headerSpace) rfl ?_)
    fun b hb => Build.Builds.pure hb
  intro _ x _ b _ hb
  refine Build.Builds.bind_any fun best => ?_
  split
  · refine Build.Builds.bind (Build.Builds.forIn (fun _ b => b.headerSpace = s.headerSpace) hb ?_)
      fun b hb => Build.Builds.pure ⟨b, rfl, hb⟩
    intro _ p _ b _ hb
    exact Build.Builds.bind_any fun r => Build.Builds.pure ⟨_, rfl, hb⟩
  · exact Build.Builds.pure ⟨_, rfl, hb⟩

def KeepsHeaderSpace {α : Type} (x : StateT Slice Build α) : Prop :=
  ∀ t, Build.Builds (x.run t) fun q => q.2.headerSpace = t.headerSpace

theorem keepsHeaderSpaceClosed : Closed (StateT Slice Build) fun _ x => KeepsHeaderSpace x where
  pure _ _ := Build.Builds.pure rfl
  bind {_ _ _ _} hx hf t := by
    rw [StateT.run_bind]
    exact Build.Builds.bind (hx t) fun q hq => (hf q.1 q.2).mono fun r hr => hr.trans hq

theorem KeepsHeaderSpace.ite {α : Type} {c : Prop} [Decidable c] {x y : StateT Slice Build α}
    (hx : KeepsHeaderSpace x) (hy : KeepsHeaderSpace y) : KeepsHeaderSpace (if c then x else y) := by
  split
  · exact hx
  · exact hy

theorem headerSpace_edgeGroup (s : Slice) (r : String) (p : Protocol) (e : GraphEdge) :
    KeepsHeaderSpace (s.edgeGroup r p e) := by
  have hc := keepsHeaderSpaceClosed
  -- each kind of logical edge adds a route record to the state, or nothing
  have hroute (y : Build Route) (k : Route → ForInStep (List LogicalEdge)) :
      KeepsHeaderSpace (do let route ← liftM y; modify fun t : Slice => t.addRoute route; pure (k route)) :=
    hc.bind (fun _ _ => rfl) fun _ => hc.bind (fun _ _ => rfl) fun _ => hc.pure _
  refine hc.bind (hc.forIn fun kind g => ?_) fun _ => hc.pure _
  cases kind <;> dsimp only <;> exact .ite (hroute _ _) (hc.pure _)

theorem headerSpace_addRecords (s : Slice) :
    Encode.Returns s.addRecords (·.headerSpace = s.headerSpace) := by
  unfold addRecords
  dsimp only
  refine Encode.Returns.bind (Encode.Returns.forIn (fun _ b => b.headerSpace = s.headerSpace) rfl ?_)
    fun b hb => ?_
  · intro _ x _ b _ hb
    refine Encode.Returns.bind_any fun c => ?_
    refine Encode.Returns.bind (Encode.Returns.forIn (fun _ b => b.headerSpace = s.headerSpace) hb ?_)
      fun b hb => Encode.Returns.pure ⟨b, rfl, hb⟩
    intro _ p _ b _ hb
    refine Encode.Returns.bind (Encode.Returns.forIn (fun _ b => b.headerSpace = s.headerSpace) hb ?_)
      fun b hb => Encode.Returns.pure ⟨b, rfl, hb⟩
    intro _ e _ b _ hb
    split
    · refine Encode.Returns.bind (Encode.Returns.build (headerSpace_edgeGroup b x.1 p e b))
        fun q hq => ?_
      split
      · exact Encode.Returns.pure ⟨_, rfl, hq.trans hb⟩
      · exact Encode.Returns.pure ⟨_, rfl, hq.trans hb⟩
    · exact Encode.Returns.pure ⟨_, rfl, hb⟩
  · refine Encode.Returns.bind (Encode.Returns.forIn (fun _ b => b.headerSpace = s.headerSpace) hb ?_)
      fun b hb => Encode.Returns.pure hb
    intro _ x _ b _ hb
    split
    · split
      · exact Encode.Returns.bind_any fun r => Encode.Returns.pure ⟨_, rfl, hb⟩
      · exact Encode.Returns.pure ⟨_, rfl, hb⟩
    · exact Encode.Returns.pure ⟨_, rfl, hb⟩

theorem headerSpace_addChoices (s : Slice) :
    Build.Builds s.addChoices (·.headerSpace = s.headerSpace) :=
  Build.Builds.bind_any fun _ => Build.Builds.pure rfl

theorem headerSpace_addEnvironment (s : Slice) :
    Build.Builds s.addEnvironment (·.headerSpace = s.headerSpace) := by
  unfold addEnvironment
  dsimp only
  split
  · exact Build.Builds.pure rfl
  · refine Build.Builds.bind (Build.Builds.forIn (fun _ b => b.headerSpace = s.headerSpace) rfl ?_)
      fun b hb => Build.Builds.pure hb
    intro _ x _ b _ hb
    exact Build.Builds.bind_any fun r => Build.Builds.pure ⟨_, rfl, hb⟩

theorem headerSpace_addAcls (s : Slice) : Encode.Returns s.addAcls (·.headerSpace = s.headerSpace) := by
  unfold addAcls
  dsimp only
  refine Encode.Returns.bind (Encode.Returns.forIn (fun _ b => b.headerSpace = s.headerSpace) rfl ?_)
    fun b hb => Encode.Returns.pure hb
  intro _ x _ b _ hb
  refine Encode.Returns.bind_any fun c => ?_
  refine Encode.Returns.bind (Encode.Returns.forIn (fun _ b => b.headerSpace = s.headerSpace) hb ?_)
    fun b hb => Encode.Returns.pure ⟨b, rfl, hb⟩
  intro _ e _ b _ hb
  refine Encode.Returns.bind (Encode.Returns.forIn (fun _ b => b.headerSpace = s.headerSpace) hb ?_)
    fun b hb => Encode.Returns.pure ⟨b, rfl, hb⟩
  intro _ y _ b _ hb
  split
  · split
    · -- the list's variable and the assertion that defines it; only an access list map changes
      iterate 5 refine Encode.Returns.bind_any fun _ => ?_
      split <;> exact Encode.Returns.pure ⟨_, rfl, hb⟩
    · exact Encode.Returns.bind (P := fun _ => False) Encode.Returns.throw fun _ h => h.elim
  · exact Encode.Returns.pure ⟨_, rfl, hb⟩

theorem headerSpace_addForwardsAcross (s : Slice) :
    Build.Builds s.addForwardsAcross (·.headerSpace = s.headerSpace) :=
  Build.Builds.bind_any fun _ => Build.Builds.pure rfl

theorem returns_new_headerSpace (id : Nat) (name : String) (g : Graph) (hs : HeaderSpace)
    (igp : Bool) : Encode.Returns (Slice.new id name g hs igp) (·.headerSpace = hs) := by
  unfold Slice.new
  dsimp only
  refine Encode.Returns.bind_any fun packet => ?_
  refine Encode.Returns.bind Encode.Returns.liftExcept fun s1 h1 => ?_
  refine Encode.Returns.bind Encode.Returns.liftExcept fun s2 h2 => ?_
  have h12 : s2.headerSpace = hs :=
    (headerSpace_initRedistribution h2).trans (headerSpace_initOriginated h1)
  refine Encode.Returns.bind (Encode.Returns.build (headerSpace_addForwardingVariables s2))
    fun s3 h3 => ?_
  refine Encode.Returns.bind (Encode.Returns.build (headerSpace_addBestVariables s3)) fun s4 h4 => ?_
  refine Encode.Returns.bind (headerSpace_addRecords s4) fun s5 h5 => ?_
  refine Encode.Returns.bind (Encode.Returns.build (headerSpace_addChoices s5)) fun s6 h6 => ?_
  refine Encode.Returns.bind (Encode.Returns.build (headerSpace_addEnvironment s6)) fun s7 h7 => ?_
  refine Encode.Returns.bind (headerSpace_addAcls s7) fun s8 h8 => ?_
  refine Encode.Returns.build ((headerSpace_addForwardsAcross s8).mono fun s9 h9 => ?_)
  rw [h9, h8, h7, h6, h5, h4, h3, h12]

end Slice

namespace Encoder

theorem sliceName_eq_mainName_iff {g : Graph} {x : String × Ip} (hx : x ∈ ibgpSessionAddresses g) :
    sliceName x.1 = (if g.ibgpNeighbors.isEmpty = true then "" else mainSliceName) ↔ x.1 = "MAIN" := by
  by_cases hempty : g.ibgpNeighbors.isEmpty = true
  · rw [ibgpSessionAddresses_of_isEmpty hempty] at hx
    cases hx
  · rw [if_neg hempty]
    exact sliceName_eq_mainSliceName_iff x.1

theorem find?_before_session {g : Graph} {pre post : List (String × Ip)} {x : String × Ip}
    (h : ibgpSessionAddresses g = pre ++ x :: post) : pre.find? (·.1 == x.1) = none := by
  have hnodup := nodup_ibgpSessionAddresses g
  rw [h, List.map_append, List.map_cons, List.nodup_append] at hnodup
  rw [List.find?_eq_none]
  intro y hy hxy
  exact hnodup.2.2 y.1 (List.mem_map_of_mem hy) x.1 (by simp) (by simpa using hxy)

/-- The main slice of a new encoder models the packets of the question, unless an iBGP speaker
is named `MAIN`: its slice is filed under the main slice's name, and the main slice then models
the packets to that speaker's session address. -/
theorem main_slice_header_space (g : Graph) (q : HeaderQuestion) :
    Encode.Returns (Encoder.new g q) fun enc => enc.main.headerSpace =
      (((ibgpSessionAddresses g).find? (·.1 == "MAIN")).map (sessionHeaderSpace ·.2)).getD
        q.headerSpace := by
  unfold Encoder.new
  simp only [Bool.not_true, Bool.or_false, if_true]
  refine Encode.Returns.bind_any fun id => Encode.Returns.bind_any fun _ => ?_
  refine Encode.Returns.bind (Slice.returns_new_headerSpace id _ g _ _) fun main hmain => ?_
  have hkey := fun x (hx : x ∈ ibgpSessionAddresses g) => sliceName_eq_mainName_iff hx
  generalize (if g.ibgpNeighbors.isEmpty = true then "" else mainSliceName) = name at hkey ⊢
  -- the slice under the main name is the last one filed there: the main slice, or that of `MAIN`
  refine Encode.Returns.bind (Encode.Returns.forIn (fun pre b => (b.1.getD name default).headerSpace =
      ((pre.find? (·.1 == "MAIN")).map (sessionHeaderSpace ·.2)).getD q.headerSpace) ?_ ?_)
    fun b hb => Encode.Returns.pure hb
  · simp [hmain]
  intro pre x post b hxs hb
  refine Encode.Returns.bind (Slice.returns_new_headerSpace id _ g _ _) fun slice hslice => ?_
  refine Encode.Returns.bind_any fun r => Encode.Returns.pure ⟨_, rfl, ?_⟩
  have hx : x ∈ ibgpSessionAddresses g := by simp [hxs]
  rw [NameMap.getD_insert, List.find?_append]
  by_cases hmainx : x.1 = "MAIN"
  · have hpre : pre.find? (·.1 == "MAIN") = none := hmainx ▸ find?_before_session hxs
    rw [if_pos ((hkey x hx).2 hmainx).symm, hpre, hslice]
    simp [hmainx]
  · rw [if_neg fun h => hmainx ((hkey x hx).1 h.symm), hb]
    simp [hmainx]

end Encoder

end ControlPlane
