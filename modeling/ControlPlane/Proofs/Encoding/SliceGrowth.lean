import ControlPlane.Proofs.Encoding.Persistence

/-!
# Every step of a slice extends its context

Creating a slice registers variables, and adding its constraints asserts formulas; neither
removes an assertion or registers anything but a variable (`Build.Grows`, `Encode.Grows`). So
what the assertions of a context ensure at some point of an encoding, the context ensures at
its end, and a context built from one that registers only variables registers only variables.

The steps are taken apart down to the steps proved before, which are tagged `@[simp]`. The
long steps continue after their branches in join points: each join point is proved once, and
then made opaque (`clear_value`), so that no branch unfolds it again.
-/

namespace ControlPlane

@[simp] theorem grows_valueEqualities (p : Protocol) (best : Route) (vars : Option Route) :
    Build.Grows (valueEqualities p best vars) := by
  unfold valueEqualities
  repeat' first | with_reducible apply Build.Grows.bind | split | with_reducible intro _ | simp

@[simp] theorem grows_typeEquality (best : Route) (vars : Option Route) :
    Build.Grows (typeEquality best vars) := by
  unfold typeEquality
  repeat' first | with_reducible apply Build.Grows.bind | split | with_reducible intro _ | simp

@[simp] theorem grows_areaEquality (best : Route) (vars : Option Route) (e : Option LogicalEdge) :
    Encode.Grows (areaEquality best vars e) := by
  unfold areaEquality
  repeat' first | with_reducible apply Encode.Grows.bind | split | with_reducible intro _ | simp

@[simp] theorem grows_sessionEqualities (best : Route) (vars : Option Route) :
    Encode.Grows (sessionEqualities best vars) := by
  unfold sessionEqualities
  repeat' first | with_reducible apply Encode.Grows.bind | split | with_reducible intro _ | simp

@[simp] theorem grows_communityEqualities (best : Route) (vars : Option Route) :
    Build.Grows (communityEqualities best vars) := by
  unfold communityEqualities
  repeat' first | with_reducible apply Build.growsClosed.mapM | split | with_reducible intro _ | simp

namespace Slice

@[simp] theorem grows_routerIdEquality (s : Slice) (p : Protocol) (best : Route) (vars : Option Route)
    (e : Option LogicalEdge) : Encode.Grows (s.routerIdEquality p best vars e) := by
  unfold routerIdEquality
  repeat' first | with_reducible apply Encode.Grows.bind | split | with_reducible intro _ | simp

@[simp] theorem grows_clientEquality (s : Slice) (c : Configuration) (best : Route) (vars : Option Route) :
    Encode.Grows (s.clientEquality c best vars) := by
  unfold clientEquality
  repeat' first | with_reducible apply Encode.Grows.bind | split | with_reducible intro _ | simp

@[simp] theorem grows_equal (s : Slice) (c : Configuration) (p : Protocol) (best : Route)
    (vars : Option Route) (e : Option LogicalEdge) (cc : Bool) :
    Encode.Grows (s.equal c p best vars e cc) := by
  unfold equal
  repeat' first | with_reducible apply Encode.Grows.bind | split | with_reducible intro _ | simp

@[simp] theorem grows_addBounds (s : Slice) : Build.Grows s.addBounds := by
  unfold addBounds
  repeat' first
    | with_reducible apply Build.Grows.bind | with_reducible apply Build.growsClosed.forIn
    | split | with_reducible intro _ | simp

@[simp] theorem grows_addCommunityConstraints (s : Slice) : Build.Grows s.addCommunityConstraints := by
  unfold addCommunityConstraints
  repeat' first
    | with_reducible apply Build.Grows.bind | with_reducible apply Build.growsClosed.forIn
    | split | with_reducible intro _ | simp

@[simp] theorem grows_notFailed (env : SliceEnv) (e : GraphEdge) : Encode.Grows (notFailed env e) := by
  unfold notFailed
  repeat' first | with_reducible apply Encode.Grows.bind | split | with_reducible intro _ | simp

@[simp] theorem grows_notFailedNode (env : SliceEnv) (r : String) : Build.Grows (notFailedNode env r) := by
  unfold notFailedNode
  simp

@[simp] theorem grows_receiveMessage (s : Slice) (env : SliceEnv) (p : Protocol) (e : GraphEdge) (other : Route)
    (nf : Term) : Encode.Grows (s.receiveMessage env p e other nf) := by
  unfold receiveMessage
  repeat' first
    | with_reducible apply Encode.Grows.bind | with_reducible apply Encode.growsClosed.forIn
    | split | with_reducible intro _ | simp

attribute [local simp] TransferFunction.grows_compute

@[simp] theorem grows_addImport (s : Slice) (env : SliceEnv) (c : Configuration) (p : Protocol)
    (le : LogicalEdge) : Encode.Grows (s.addImport env c p le) := by
  unfold addImport
  extract_lets e iface vars active dst finish srs loop cost
  refine Encode.Grows.bind (by simp) fun notPermitted => ?_
  refine Encode.Grows.bind (by simp) fun nf => ?_
  refine Encode.Grows.bind (by simp) fun nfNode => ?_
  extract_lets origin
  have hfinish : ∀ t, Encode.Grows (finish t) := fun t => by simp [finish]
  have horigin : ∀ pfx ad, Build.Grows (origin pfx ad) := fun pfx ad => by
    simp only [origin]
    repeat' first | with_reducible apply Build.Grows.bind | with_reducible intro _ | simp
  repeat' first
    | with_reducible exact hfinish _ | with_reducible exact horigin _ _
    | with_reducible exact Encode.grows_liftM.2 (horigin _ _)
    | with_reducible apply Encode.Grows.bind | with_reducible apply Build.Grows.bind
    | with_reducible apply Encode.growsClosed.foldlM
    | split | with_reducible intro _ | simp

@[simp] theorem grows_addExport (s : Slice) (env : SliceEnv) (c : Configuration) (p : Protocol)
    (le : LogicalEdge) : Encode.Grows (s.addExport env c p le) := by
  unfold addExport
  extract_lets e iface router vars active cost₁ doExport₀ finish origins cost₀
  have hfinish : ∀ u acc, Encode.Grows (finish u acc) := fun _ _ => by simp [finish]
  clear_value finish
  refine Encode.Grows.bind (by simp) fun notPermitted => ?_
  split
  · simp
  split
  split
  · refine Encode.Grows.bind (by simp) fun nf => ?_
    -- the join points, outermost first: after the node check, after the internal-route
    -- check, after the redistributed route, and in the loop over originated networks
    extract_lets bestBgp afterNode
    have h : ∀ nfNode, Encode.Grows (afterNode nfNode) := by
      intro nfNode
      simp -zeta only [afterNode]
      extract_lets afterCost
      have h : ∀ u cost doExport, Encode.Grows (afterCost u cost doExport) := by
        intro u cost doExport
        simp -zeta only [afterCost]
        refine Encode.Grows.bind (by simp) fun policy => ?_
        extract_lets statements f afterAcc
        have hacc : ∀ acc, Encode.Grows (afterAcc acc) := by
          intro acc
          simp -zeta only [afterAcc]
          split
          · refine Encode.Grows.bind (Encode.growsClosed.forIn fun pfx acc => ?_) fun _ => hfinish _ _
            extract_lets acc len afterRelevant
            have hrel : ∀ u relevant, Encode.Grows (afterRelevant u relevant) := by
              intro u relevant
              simp -zeta only [afterRelevant]
              iterate 7 refine Encode.Grows.bind (by simp) fun _ => ?_
              extract_lets values afterArea afterType
              have harea : ∀ u values, Encode.Grows (afterArea u values) := by
                intro u values
                simp -zeta only [afterArea]
                refine Encode.Grows.bind (Encode.growsClosed.mapM fun x => ?_) fun _ => ?_
                · obtain ⟨_, c⟩ := x
                  simp
                · repeat' first
                    | with_reducible apply Encode.Grows.bind | with_reducible intro _ | extract_lets
                    | simp
              clear_value afterArea
              have htype : ∀ u values, Encode.Grows (afterType u values) := by
                intro u values
                simp -zeta only [afterType]
                repeat' first
                  | with_reducible exact harea _ _ | with_reducible apply Encode.Grows.bind | split
                  | with_reducible intro _ | extract_lets | simp
              clear_value afterType
              repeat' first
                | with_reducible exact htype _ _ | with_reducible apply Encode.Grows.bind | split
                | with_reducible intro _ | extract_lets | simp
            clear_value afterRelevant
            repeat' first
              | with_reducible exact hrel _ _ | with_reducible apply Encode.Grows.bind | split
              | with_reducible intro _ | extract_lets | simp
          · exact hfinish _ _
        clear_value afterAcc
        refine Encode.Grows.bind (TransferFunction.grows_compute _) fun exported => ?_
        refine Encode.Grows.bind (by simp) fun usable => ?_
        repeat' first
          | with_reducible exact hacc _ | with_reducible apply Encode.Grows.bind | split
          | with_reducible intro _ | extract_lets | simp
      clear_value afterCost
      repeat' first
        | with_reducible exact h _ _ _ | with_reducible apply Encode.Grows.bind | split
        | with_reducible intro _ | simp
    clear_value afterNode
    split
    · exact Encode.Grows.bind (by simp) fun _ => h _
    · exact Encode.Grows.bind (by simp) fun _ => h _
  · simp

@[simp] theorem grows_addTransferFunctions (s : Slice) (env : SliceEnv) :
    Encode.Grows (s.addTransferFunctions env) := by
  unfold addTransferFunctions
  repeat' first
    | with_reducible apply Encode.Grows.bind | with_reducible apply Encode.growsClosed.forIn
    | split | with_reducible intro _ | extract_lets | simp

@[simp] theorem grows_addHistoryConstraints (s : Slice) : Encode.Grows s.addHistoryConstraints := by
  unfold addHistoryConstraints
  repeat' first
    | with_reducible apply Encode.Grows.bind | with_reducible apply Encode.growsClosed.forIn
    | split | with_reducible intro _ | simp

@[simp] theorem grows_connectedWillSend (s : Slice) (e : GraphEdge) : Build.Grows (s.connectedWillSend e) := by
  unfold connectedWillSend
  repeat' first
    | with_reducible apply Build.Grows.bind | split | with_reducible intro _ | extract_lets | simp

@[simp] theorem grows_controlVar (s : Slice) (e : GraphEdge) : Encode.Grows (s.controlVar e) :=
  Encode.Grows.need

@[simp] theorem grows_addSendingEdges (s : Slice) (router : String) (c : Configuration) (best : Route) :
    Encode.Grows (s.addSendingEdges router c best) := by
  unfold addSendingEdges
  repeat' first
    | with_reducible apply Encode.Grows.bind | with_reducible apply Encode.growsClosed.forIn
    | split | with_reducible intro _ | simp

@[simp] theorem grows_nextHopForwarding (s : Slice) (env : SliceEnv) (router : String)
    (edges : List GraphEdge) (e : GraphEdge) : Encode.Grows (s.nextHopForwarding env router edges e) := by
  unfold nextHopForwarding
  repeat' first
    | with_reducible apply Encode.Grows.bind | with_reducible apply Encode.growsClosed.forIn
    | split | with_reducible intro _ | extract_lets | simp

@[simp] theorem grows_addUnusedDefaults (s : Slice) : Build.Grows s.addUnusedDefaults := by
  unfold addUnusedDefaults
  repeat' first
    | with_reducible apply Build.Grows.bind | with_reducible apply Build.growsClosed.forIn
    | with_reducible apply Build.growsClosed.mapM
    | split | with_reducible intro _ | extract_lets | simp

@[simp] theorem grows_addEnvironmentConstraints (s : Slice) : Encode.Grows s.addEnvironmentConstraints := by
  unfold addEnvironmentConstraints
  repeat' first
    | with_reducible apply Encode.Grows.bind | with_reducible apply Encode.growsClosed.forIn
    | split | with_reducible intro _ | simp

@[simp] theorem grows_newRoute (s : Slice) (name router : String) (p : Option Protocol) (isEnv : Bool) :
    Build.Grows (s.newRoute name router p isEnv) :=
  Route.grows_new _ _ _ _ _ _ _

@[simp] theorem grows_addForwardingVariables (s : Slice) : Build.Grows s.addForwardingVariables := by
  unfold addForwardingVariables
  repeat' first
    | with_reducible apply Build.Grows.bind | with_reducible apply Build.growsClosed.forIn
    | split | with_reducible intro _ | extract_lets | simp

@[simp] theorem grows_addBestVariables (s : Slice) : Build.Grows s.addBestVariables := by
  unfold addBestVariables
  repeat' first
    | with_reducible apply Build.Grows.bind | with_reducible apply Build.growsClosed.forIn
    | split | with_reducible intro _ | extract_lets | simp

theorem growsStateClosed : Closed (StateT Slice Build) fun _ x => ∀ t, Build.Grows (x.run t) where
  pure _ _ := Build.Grows.pure
  bind {_ _ _ _} hx hf t := by
    rw [StateT.run_bind]
    exact Build.Grows.bind (hx t) fun q => hf q.1 q.2

theorem grows_liftState {α : Type} {y : Build α} (hy : Build.Grows y) (t : Slice) :
    Build.Grows ((liftM y : StateT Slice Build α).run t) := by
  change Build.Grows ((monadLift y : StateT Slice Build α).run t)
  rw [StateT.run_monadLift]
  exact Build.Grows.bind hy fun _ => Build.Grows.pure

theorem grows_modifyState (f : Slice → Slice) (t : Slice) :
    Build.Grows ((modify f : StateT Slice Build PUnit).run t) :=
  Build.Grows.pure

theorem grows_edgeGroup (s : Slice) (r : String) (p : Protocol) (e : GraphEdge) (t : Slice) :
    Build.Grows ((s.edgeGroup r p e).run t) := by
  have hc := growsStateClosed
  -- each kind of logical edge adds one route record to the state, or nothing
  have hroute (y : Build Route) (hy : Build.Grows y) (k : Route → ForInStep (List LogicalEdge)) :
      ∀ t, Build.Grows ((do let route ← liftM y; modify fun t : Slice => t.addRoute route; pure (k route) :
        StateT Slice Build _).run t) :=
    hc.bind (grows_liftState hy) fun _ => hc.bind (grows_modifyState _) fun _ => hc.pure _
  unfold edgeGroup
  refine hc.bind (hc.forIn fun kind g => ?_) (fun _ => hc.pure _) t
  cases kind <;> dsimp only <;> repeat' split
  all_goals first | with_reducible exact hc.pure _ | exact hroute _ (grows_newRoute _ _ _ _ _) _

@[simp] theorem grows_addRecords (s : Slice) : Encode.Grows s.addRecords := by
  unfold addRecords
  repeat' first
    | with_reducible exact Encode.grows_liftM.2 (grows_edgeGroup ..)
    | with_reducible apply Encode.Grows.bind | with_reducible apply Encode.growsClosed.forIn
    | split | with_reducible intro _ | extract_lets | simp

@[simp] theorem grows_addChoices (s : Slice) : Build.Grows s.addChoices := by
  unfold addChoices
  repeat' first
    | with_reducible apply Build.Grows.bind | with_reducible apply Build.growsClosed.forIn
    | split | with_reducible intro _ | extract_lets | simp

@[simp] theorem grows_addEnvironment (s : Slice) : Build.Grows s.addEnvironment := by
  unfold addEnvironment
  repeat' first
    | with_reducible apply Build.Grows.bind | with_reducible apply Build.growsClosed.forIn
    | split | with_reducible intro _ | extract_lets | simp

@[simp] theorem grows_addAcls (s : Slice) : Encode.Grows s.addAcls := by
  unfold addAcls
  repeat' first
    | with_reducible apply Encode.Grows.bind | with_reducible apply Encode.growsClosed.forIn
    | split | with_reducible intro _ | extract_lets | simp

@[simp] theorem grows_addForwardsAcross (s : Slice) : Build.Grows s.addForwardsAcross := by
  unfold addForwardsAcross
  repeat' first
    | with_reducible apply Build.Grows.bind | with_reducible apply Build.growsClosed.forIn
    | split | with_reducible intro _ | extract_lets | simp

@[simp] theorem grows_new (id : Nat) (name : String) (g : Graph) (hs : HeaderSpace) (igp : Bool) :
    Encode.Grows (Slice.new id name g hs igp) := by
  unfold Slice.new
  repeat' first
    | with_reducible apply Encode.Grows.bind | split | with_reducible intro _ | extract_lets | simp

end Slice

namespace Instrument

@[simp] theorem grows_reachabilityVars (s : Slice) : Build.Grows (reachabilityVars s) := by
  unfold reachabilityVars
  repeat' first
    | with_reducible apply Build.Grows.bind | with_reducible apply Build.growsClosed.forIn
    | split | with_reducible intro _ | extract_lets | simp

@[simp] theorem grows_recursiveReachability (s : Slice) (r : String) (ids : NameMap Term) :
    Encode.Grows (recursiveReachability s r ids) := by
  unfold recursiveReachability
  repeat' first
    | with_reducible apply Encode.Grows.bind | with_reducible apply Encode.growsClosed.forIn
    | split | with_reducible intro _ | extract_lets | simp

@[simp] theorem grows_reachabilityOf (s : Slice) (dst : String) : Encode.Grows (reachabilityOf s dst) := by
  unfold reachabilityOf
  repeat' first
    | with_reducible apply Encode.Grows.bind | with_reducible apply Encode.growsClosed.forIn
    | split | with_reducible intro _ | extract_lets | simp

end Instrument

@[simp] theorem Encoder.grows_new (g : Graph) (q : HeaderQuestion) : Encode.Grows (Encoder.new g q) := by
  unfold Encoder.new
  repeat' first
    | with_reducible apply Encode.Grows.bind | with_reducible apply Encode.growsClosed.forIn
    | split | with_reducible intro _ | extract_lets | simp | contradiction

end ControlPlane
