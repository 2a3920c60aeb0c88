import ControlPlane.Proofs.Encoding.Growth

/-!
# Every step of the encoder extends its context

The compiler of transfer functions, every constraint family of a slice, the creation of slices
and encoders, and the whole encoding only extend their context (`Encode.Grows`): the assertions
made at any point stay, in order, in front of those made after, and a context whose registered
terms are variables stays so. A model of the assertions at the end of an encoding is therefore
a model of every assertion made along the way (`Context.Extends.satisfies`).

The policy compiler runs in `Eval`, a reader of the transfer function over a state of the working
route over `Encode`; its steps grow when every run of them, from every route, does. Its long
`do` blocks meet in join points: each join point is proved to grow once, for every argument,
before the branches that call it, so that no branch is unfolded twice.
-/

namespace ControlPlane

namespace TransferFunction

open Transfer

variable {α β : Type}

/-- Every run of the step, under every transfer function and from every working route, extends
its context. -/
def Grows (x : Eval α) : Prop := ∀ t r, Encode.Grows ((x.run t).run r)

theorem Grows.bind {x : Eval α} {f : α → Eval β} (hx : Grows x) (hf : ∀ a, Grows (f a)) :
    Grows (x >>= f) := fun t r => by
  simp only [ReaderT.run_bind, StateT.run_bind]
  exact Encode.Grows.bind (hx t r) fun p => hf p.1 t p.2

theorem growsClosed : Closed Eval fun _ x => Grows x :=
  ⟨fun _ _ _ => Encode.Grows.pure, Grows.bind⟩

@[simp] theorem Grows.pure {a : α} : Grows (Pure.pure a : Eval α) := growsClosed.pure a

@[simp] theorem grows_liftEncode {y : Encode α} (h : Encode.Grows y) : Grows (liftM y : Eval α) :=
  fun _ _ => Encode.Grows.bind h fun _ => Encode.Grows.pure

@[simp] theorem grows_liftBuild {x : Build α} (h : Build.Grows x) : Grows (liftM x : Eval α) :=
  grows_liftEncode (Encode.grows_liftM.2 h)

@[simp] theorem grows_liftNetwork {y : Except NetworkError α} : Grows (liftM y : Eval α) := by
  cases y <;> exact fun _ _ c => Context.Extends.refl c

@[simp] theorem grows_read : Grows (read : Eval TransferFunction) := fun _ _ => Encode.Grows.pure
@[simp] theorem grows_get : Grows (get : Eval Route) := fun _ _ => Encode.Grows.pure
@[simp] theorem grows_set {r : Route} : Grows (set r : Eval PUnit) := fun _ _ => Encode.Grows.pure
@[simp] theorem grows_modify {f : Route → Route} : Grows (modify f : Eval PUnit) :=
  fun _ _ => Encode.Grows.pure
@[simp] theorem grows_throw {e : EncodingError} : Grows (throw e : Eval α) :=
  fun _ _ => Encode.Grows.throw

@[simp] theorem Grows.map {x : Eval α} {f : α → β} (h : Grows x) : Grows (f <$> x) := by
  rw [map_eq_pure_bind]
  exact h.bind fun _ => Grows.pure

@[simp] theorem grows_createVar (name : String) (e : Term) : Grows (createVar name e) := by
  unfold createVar
  repeat' first
    | with_reducible apply Grows.bind | split | with_reducible intro _ | simp

@[simp] theorem grows_relevantFor (len : Term) (range : PrefixRange) : Grows (relevantFor len range) := by
  unfold relevantFor
  repeat' first
    | with_reducible apply Grows.bind | split | with_reducible intro _ | simp

@[simp] theorem grows_intermediatePrefixLen : Grows intermediatePrefixLen := by
  unfold intermediatePrefixLen
  dsimp only
  repeat' first
    | with_reducible apply Grows.bind | with_reducible apply growsClosed.forIn | split
    | with_reducible intro _ | simp

@[simp] theorem grows_metricUpdate : Grows metricUpdate := by
  unfold metricUpdate
  dsimp only
  repeat' first
    | with_reducible apply Grows.bind | split | with_reducible intro _ | simp

@[simp] theorem grows_returnWith (r : Outcome) (val : Term) : Grows (returnWith r val) := by
  unfold returnWith
  repeat' first
    | with_reducible apply Grows.bind | split | with_reducible intro _ | simp

@[simp] theorem grows_fallThrough (r : Outcome) : Grows (fallThrough r) := by
  unfold fallThrough
  repeat' first
    | with_reducible apply Grows.bind | split | with_reducible intro _ | simp

@[simp] theorem grows_updateField (r : Outcome) (f : Field) (v : Term) : Grows (updateField r f v) := by
  unfold updateField
  repeat' first
    | with_reducible apply Grows.bind | split | with_reducible intro _ | simp

@[simp] theorem grows_applyLong (x : Term) (e : LongExpr) : Build.Grows (applyLong x e) := by
  unfold applyLong
  split <;> simp

@[simp] theorem grows_matchPrefixSet (e : PrefixSetExpr) : Grows (matchPrefixSet e) := by
  unfold matchPrefixSet
  dsimp only
  repeat' first
    | with_reducible apply Grows.bind | with_reducible apply growsClosed.foldlM
    | with_reducible apply growsClosed.mapM | split | with_reducible intro _ | simp

@[simp] theorem grows_matchCommunitySet (e : CommunitySetExpr) : Grows (matchCommunitySet e) := by
  unfold matchCommunitySet
  dsimp only
  repeat' first
    | with_reducible apply Grows.bind | with_reducible apply growsClosed.foldlM
    | split | with_reducible intro _ | simp

@[simp] theorem grows_matchProtocolTerm (p : Protocol) : Grows (matchProtocolTerm p) := by
  unfold matchProtocolTerm
  repeat' first
    | with_reducible apply Grows.bind | split | with_reducible intro _ | simp

set_option linter.tactic.unusedName false in
/-- The relation of the working route to `current` is one `do` block whose attributes meet in
eight join points. The walk takes a join point out of the block as a variable (`extract_lets`),
proves once that it grows for every argument, and forgets its body in the rest, so that the
branches calling it close by that fact; a join point's own body is walked the same way. -/
@[simp] theorem grows_relate (r : Outcome) (d : Route) : Grows (relate r d) := by
  unfold relate
  repeat' (first
    | with_reducible intro _
    | (extract_lets -underBinder +onlyGivenNames jp
       first
         | (refine (fun (_ : ∀ (u : Unit) b, Grows (jp u b)) => ?_) (fun u b => ?_)
            clear_value jp
            rotate_left
            simp -zeta -zetaHave only [jp]
            clear jp)
         | (refine (fun (_ : ∀ a, Grows (jp a)) => ?_) (fun a => ?_)
            clear_value jp
            rotate_left
            simp -zeta -zetaHave only [jp]
            clear jp)
         | skip)
    | with_reducible apply Grows.bind | with_reducible apply growsClosed.forIn
    | with_reducible apply growsClosed.filterMapM
    | split | apply_assumption -exfalso -symm | simp -zeta)

@[simp] theorem grows_tooDeep : Grows (tooDeep : Eval α) := by
  unfold tooDeep
  exact Grows.bind grows_read fun _ => grows_throw

/-- The evaluation of policies grows at every bound on the nesting: the five functions together,
by induction on the bound, each call one level down closing by the induction hypothesis. -/
theorem grows_eval (fuel : Nat) :
    (∀ e p, Grows (evalExpr fuel e p)) ∧ (∀ xs p b, Grows (evalAll fuel xs p b)) ∧
    (∀ xs p, Grows (evalChain fuel xs p)) ∧ (∀ ss p i, Grows (evalStatements fuel ss p i)) ∧
    (∀ g ts fs p cur, Grows (evalIf fuel g ts fs p cur)) := by
  induction fuel with
  | zero =>
    refine ⟨fun e p => ?_, fun xs p b => ?_, fun xs p => ?_, fun ss p i => ?_, fun g ts fs p cur => ?_⟩
    · rw [evalExpr]
      exact Grows.bind grows_read fun _ => grows_tooDeep
    · rw [evalAll]
      exact grows_tooDeep
    · rw [evalChain]
      exact grows_tooDeep
    · rw [evalStatements]
      exact grows_tooDeep
    · rw [evalIf]
      exact grows_tooDeep
  | succ n ih =>
    obtain ⟨hexpr, hall, hchain, hstmts, hif⟩ := ih
    refine ⟨fun e p => ?_, fun xs p b => ?_, fun xs p => ?_, fun ss p i => ?_, fun g ts fs p cur => ?_⟩
    all_goals
      first
        | rw [evalExpr] | rw [evalAll] | rw [evalChain] | rw [evalStatements] | rw [evalIf]
      dsimp only
      repeat' first
        | with_reducible apply Grows.bind | with_reducible apply growsClosed.forIn | split
        | with_reducible intro _ | simp [*]

theorem grows_compute (t : TransferFunction) : Encode.Grows t.compute := by
  unfold compute
  refine Encode.Grows.bind ?_ fun _ => Encode.Grows.pure
  refine Grows.bind grows_intermediatePrefixLen (fun _ => Grows.bind grows_metricUpdate fun _ => ?_) t t.other
  -- the default local preference is a join point before the statements run
  have hrun : ∀ u : PUnit, Grows (do
      let r ← evalStatements maxDepth t.statements {} {}
      pure r.returnValue : Eval Term) := fun _ =>
    Grows.bind ((grows_eval maxDepth).2.2.2.1 _ _ _) fun _ => Grows.pure
  refine Grows.bind grows_get fun d => ?_
  dsimp only
  split
  · exact Grows.bind grows_modify hrun
  · exact hrun ()

end TransferFunction

end ControlPlane
