import ControlPlane.Check.Verify
import ControlPlane.Proofs.Encoding.Steps

/-!
# Runs of the verification loop

`Verify.runOn` runs a verification step from a solver state and a context. A solver call
returns the solver's answer; one pass of `Encoder.solveLoop` is given by one equation per answer
(unsat, unknown, error, a model whose counterexample fails, a model without minimization, a model
whose blocking clause fails or is asserted). `Solver.logged` answers as a solver does and keeps
the answers it gave; it changes nothing else of a run (`solveLoop_logged`).
-/

namespace ControlPlane

namespace Except

theorem exists_of_bind_eq_ok {ε α β : Type} {x : Except ε α} {f : α → Except ε β} {b : β}
    (h : (x >>= f) = .ok b) : ∃ a, x = .ok a ∧ f a = .ok b := by
  cases x with
  | error err => cases h
  | ok a => exact ⟨a, rfl, h⟩

theorem forIn_keeps {ε γ β : Type} {P : β → Prop} {f : γ → β → Except ε (ForInStep β)}
    (hf : ∀ x b s, P b → f x b = .ok s → P s.value) :
    ∀ {xs : List γ} {b b' : β}, P b → ForIn.forIn xs b f = .ok b' → P b'
  | [], b, b', hb, h => by
    cases h
    exact hb
  | x :: xs, b, b', hb, h => by
    rw [List.forIn_cons] at h
    obtain ⟨s, hs, h⟩ := exists_of_bind_eq_ok h
    cases s with
    | done v =>
      cases h
      exact hf x b _ hb hs
    | yield v => exact forIn_keeps hf (hf x b _ hb hs) h

end Except

namespace Verify

variable {σ α β : Type}

def runOn (x : Verify σ α) (s : σ) (c : Context) : (Except EncodingError α × σ) × Context :=
  ((x.run).run s).run c

variable {x : Verify σ α} {f : α → Verify σ β} {s s' : σ} {c c' : Context}

theorem runOn_bind_ok {a : α} (h : x.runOn s c = ((.ok a, s'), c')) :
    (x >>= f).runOn s c = (f a).runOn s' c' := by
  simp only [runOn, ExceptT.run_bind, StateT.run_bind] at h ⊢
  rw [h]
  rfl

theorem runOn_bind_error {err : EncodingError} (h : x.runOn s c = ((.error err, s'), c')) :
    (x >>= f).runOn s c = ((.error err, s'), c') := by
  simp only [runOn, ExceptT.run_bind, StateT.run_bind] at h ⊢
  rw [h]
  rfl

theorem runOn_getContext : (getThe Context : Verify σ Context).runOn s c = ((.ok c, s), c) := rfl

theorem runOn_encode (y : Encode α) :
    (Encoder.solveLoop.liftM y : Verify σ α).runOn s c = (((y.runOn c).1, s), (y.runOn c).2) := rfl

theorem runOn_build (y : Build α) :
    (monadLift y : Verify σ α).runOn s c = ((.ok (y.run c).1, s), (y.run c).2) := rfl

private theorem stateT_run_get {τ : Type} {m : Type → Type} [Monad m] (x : τ) :
    (StateT.get : StateT τ m τ).run x = pure (x, x) := rfl

private theorem stateT_run_set {τ : Type} {m : Type → Type} [Monad m] (x y : τ) :
    (StateT.set y : StateT τ m PUnit).run x = pure (⟨⟩, y) := rfl

theorem runOn_call (S : Solver σ) :
    (call S).runOn s c = (((S.check c s).1.mapError .smt, (S.check c s).2), c) := by
  obtain ⟨chk, n⟩ := S
  simp [runOn, call, getThe, MonadStateOf.get, stateT_run_get, stateT_run_set, set, MonadStateOf.set, liftM,
    monadLift, MonadLift.monadLift, ExceptT.lift, ExceptT.run_bind, StateT.run_bind]
  rcases chk c s with ⟨_ | _, _⟩ <;> rfl

theorem runOn_call_ok {S : Solver σ} {a : SatAnswer} (h : S.check c s = (.ok a, s')) :
    (call S).runOn s c = ((.ok a, s'), c) := by
  rw [runOn_call, h]
  rfl

end Verify

namespace Solver

variable {σ : Type}

def logged (S : Solver σ) : Solver (σ × List (Except SmtError SatAnswer)) where
  check c st := ((S.check c st.1).1, (S.check c st.1).2, st.2 ++ [(S.check c st.1).1])
  rounds := S.rounds

/-- Every model the solver answers with satisfies the assertions of the context it was asked
about. -/
def Sound (S : Solver σ) : Prop :=
  ∀ c s m s', S.check c s = (.ok (.sat m), s') → m.Satisfies c.assertions.toList

theorem logged_check {S : Solver σ} {c : Context} {s s' : σ} {a : Except SmtError SatAnswer}
    (log : List (Except SmtError SatAnswer)) (h : S.check c s = (a, s')) :
    S.logged.check c (s, log) = (a, s', log ++ [a]) := by
  simp [logged, h]

theorem Sound.logged {S : Solver σ} (h : S.Sound) : S.logged.Sound := fun c st m st' hc => by
  obtain ⟨s, log⟩ := st
  rcases hS : S.check c s with ⟨a, s'⟩
  rw [logged_check log hS] at hc
  cases hc
  exact h c s m s' hS

end Solver

namespace Encoder

variable {σ : Type} (e : Encoder) {S : Solver σ} {n : Nat} {last : Option (VerificationResult × Model)}
  {s s' : σ} {c : Context}

theorem runOn_solveLoop_zero : (e.solveLoop S 0 last).runOn s c = (e.finish last).runOn s c := by
  rw [solveLoop]

theorem runOn_solveLoop_error {err : SmtError} (h : S.check c s = (.error err, s')) :
    (e.solveLoop S (n + 1) last).runOn s c = ((.error (.smt err), s'), c) := by
  rw [solveLoop, Verify.runOn_bind_error]
  rw [Verify.runOn_call, h]
  rfl

theorem runOn_solveLoop_unsat (h : S.check c s = (.ok .unsat, s')) :
    (e.solveLoop S (n + 1) last).runOn s c = (e.finish last).runOn s' c := by
  rw [solveLoop, Verify.runOn_bind_ok (Verify.runOn_call_ok h)]

theorem runOn_solveLoop_unknown {w : String} (h : S.check c s = (.ok (.unknown w), s')) :
    (e.solveLoop S (n + 1) last).runOn s c = ((.error (.smt (.unknown w)), s'), c) := by
  rw [solveLoop, Verify.runOn_bind_ok (Verify.runOn_call_ok h)]
  rfl

variable {m : Model} {r : VerificationResult}

theorem runOn_solveLoop_counterexample_error {err : EncodingError} (h : S.check c s = (.ok (.sat m), s'))
    (hx : e.counterexample c m = .error err) :
    (e.solveLoop S (n + 1) last).runOn s c = ((.error err, s'), c) := by
  rw [solveLoop, Verify.runOn_bind_ok (Verify.runOn_call_ok h)]
  dsimp only
  rw [Verify.runOn_bind_ok Verify.runOn_getContext, Verify.runOn_bind_error]
  rw [Verify.runOn_encode, hx]
  rfl

private theorem runOn_counterexample (hx : e.counterexample c m = .ok r) :
    (solveLoop.liftM (liftM (e.counterexample c m)) : Verify σ VerificationResult).runOn s c =
      ((.ok r, s), c) := by
  rw [Verify.runOn_encode, hx]
  rfl

theorem runOn_solveLoop_once (h : S.check c s = (.ok (.sat m), s')) (hx : e.counterexample c m = .ok r)
    (hmin : e.question.minimize = false) :
    (e.solveLoop S (n + 1) last).runOn s c = (e.finish (some (r, m))).runOn s' c := by
  rw [solveLoop, Verify.runOn_bind_ok (Verify.runOn_call_ok h)]
  dsimp only
  rw [Verify.runOn_bind_ok Verify.runOn_getContext, Verify.runOn_bind_ok (runOn_counterexample e hx)]
  simp [hmin]

theorem runOn_solveLoop_clause_error {err : EncodingError} {c' : Context} (h : S.check c s = (.ok (.sat m), s'))
    (hx : e.counterexample c m = .ok r) (hmin : e.question.minimize = true)
    (hb : (e.minimizationClause m).runOn c = (.error err, c')) :
    (e.solveLoop S (n + 1) last).runOn s c = ((.error err, s'), c') := by
  rw [solveLoop, Verify.runOn_bind_ok (Verify.runOn_call_ok h)]
  dsimp only
  rw [Verify.runOn_bind_ok Verify.runOn_getContext, Verify.runOn_bind_ok (runOn_counterexample e hx)]
  simp only [hmin, Bool.not_true, Bool.false_eq_true, ite_false]
  rw [Verify.runOn_bind_error (by rw [Verify.runOn_encode, hb])]

theorem runOn_solveLoop_clause_ok {t : Term} {c' : Context} (h : S.check c s = (.ok (.sat m), s'))
    (hx : e.counterexample c m = .ok r) (hmin : e.question.minimize = true)
    (hb : (e.minimizationClause m).runOn c = (.ok t, c')) :
    (e.solveLoop S (n + 1) last).runOn s c =
      (e.solveLoop S n (some (r, m))).runOn s' ((Build.assert t).run c').2 := by
  rw [solveLoop, Verify.runOn_bind_ok (Verify.runOn_call_ok h)]
  dsimp only
  rw [Verify.runOn_bind_ok Verify.runOn_getContext, Verify.runOn_bind_ok (runOn_counterexample e hx)]
  simp only [hmin, Bool.not_true, Bool.false_eq_true, ite_false]
  rw [Verify.runOn_bind_ok (by rw [Verify.runOn_encode, hb]), Verify.runOn_bind_ok (Verify.runOn_build _)]

/-- Finishing reads the statistics and never fails: it returns the model of the last answer, and
its verdict is the one of that answer's result, or that the property holds when there is none. -/
theorem runOn_finish (last : Option (VerificationResult × Model)) :
    ∃ v, (e.finish last).runOn s c = ((.ok v, s), c) ∧ v.2 = last.map Prod.snd ∧
      v.1.verified = (last.map (·.1.verified)).getD true := by
  cases last with
  | none => exact ⟨_, rfl, rfl, rfl⟩
  | some p => exact ⟨_, rfl, rfl, rfl⟩

theorem runOn_finish_result {τ : Type} (t : τ) (last : Option (VerificationResult × Model)) :
    ((e.finish last).runOn s c).1.1 = ((e.finish (σ := τ) last).runOn t c).1.1 := by
  cases last <;> rfl

theorem counterexample_not_verified (hx : e.counterexample c m = .ok r) : r.verified = false := by
  unfold counterexample at hx
  extract_lets s r₀ jp at hx
  have hjp : ∀ r r', r.verified = false → jp () r = .ok r' → r'.verified = false := by
    intro r r' hr h
    simp only [jp] at h
    obtain ⟨p, -, h⟩ := Except.exists_of_bind_eq_ok h
    obtain ⟨r₁, h₁, h⟩ := Except.exists_of_bind_eq_ok h
    have hr₁ := Except.forIn_keeps (P := fun r : VerificationResult => r.verified = false) ?env (by exact hr) h₁
    obtain ⟨r₂, h₂, h⟩ := Except.exists_of_bind_eq_ok h
    have hr₂ := Except.forIn_keeps (P := fun r : VerificationResult => r.verified = false) ?fwd hr₁ h₂
    obtain ⟨r₃, h₃, h⟩ := Except.exists_of_bind_eq_ok h
    have hr₃ := Except.forIn_keeps (P := fun r : VerificationResult => r.verified = false) ?internal hr₂ h₃
    obtain ⟨r₄, h₄, h⟩ := Except.exists_of_bind_eq_ok h
    have hr₄ := Except.forIn_keeps (P := fun r : VerificationResult => r.verified = false) ?external hr₃ h₄
    obtain ⟨r₅, h₅, h⟩ := Except.exists_of_bind_eq_ok h
    have hr₅ := Except.forIn_keeps (P := fun r : VerificationResult => r.verified = false) ?nodes hr₄ h₅
    · cases h
      exact hr₅
    case env =>
      intro x b st hb hst
      obtain ⟨v, -, hst⟩ := Except.exists_of_bind_eq_ok hst
      split at hst
      · obtain ⟨w, -, hst⟩ := Except.exists_of_bind_eq_ok hst
        cases hst
        exact hb
      · cases hst
        exact hb
    case fwd =>
      intro x b st hb hst
      obtain ⟨b', hb', hst⟩ := Except.exists_of_bind_eq_ok hst
      cases hst
      refine Except.forIn_keeps (P := fun r : VerificationResult => r.verified = false) ?_ hb hb'
      intro y b st hb hst
      obtain ⟨v, -, hst⟩ := Except.exists_of_bind_eq_ok hst
      split at hst <;> cases hst <;> exact hb
    case internal | external | nodes =>
      intro x b st hb hst
      obtain ⟨v, -, hst⟩ := Except.exists_of_bind_eq_ok hst
      split at hst <;> cases hst <;> exact hb
  split at hx
  · obtain ⟨r₁, h₁, hx⟩ := Except.exists_of_bind_eq_ok hx
    refine hjp r₁ r ?_ hx
    refine Except.forIn_keeps (P := fun r : VerificationResult => r.verified = false) ?_ rfl h₁
    intro x b st hb hst
    obtain ⟨v, -, hst⟩ := Except.exists_of_bind_eq_ok hst
    cases hst
    exact hb
  · exact hjp r₀ r rfl hx

theorem finish_logged (last : Option (VerificationResult × Model)) (s : σ)
    (log : List (Except SmtError SatAnswer)) (c : Context) :
    ((e.finish last).runOn (s, log) c).1.1 = ((e.finish last).runOn s c).1.1 ∧
      ((e.finish last).runOn (s, log) c).1.2.1 = ((e.finish last).runOn s c).1.2 ∧
      ((e.finish last).runOn (s, log) c).2 = ((e.finish last).runOn s c).2 := by
  obtain ⟨v, h₁, -⟩ := e.runOn_finish (s := (s, log)) (c := c) last
  obtain ⟨w, h₂, -⟩ := e.runOn_finish (s := s) (c := c) last
  have h := e.runOn_finish_result (s := (s, log)) (c := c) s last
  rw [h₁, h₂] at h ⊢
  exact ⟨h, rfl, rfl⟩

/-- The logging solver changes nothing of a run but the log: the result, the solver's state and
the context are those of the run with the plain solver. -/
theorem solveLoop_logged (fuel : Nat) :
    ∀ (last : Option (VerificationResult × Model)) (s : σ) (log : List (Except SmtError SatAnswer))
      (c : Context),
      ((e.solveLoop S.logged fuel last).runOn (s, log) c).1.1 = ((e.solveLoop S fuel last).runOn s c).1.1 ∧
      ((e.solveLoop S.logged fuel last).runOn (s, log) c).1.2.1 = ((e.solveLoop S fuel last).runOn s c).1.2 ∧
      ((e.solveLoop S.logged fuel last).runOn (s, log) c).2 = ((e.solveLoop S fuel last).runOn s c).2 := by
  induction fuel with
  | zero =>
    intro last s log c
    rw [runOn_solveLoop_zero, runOn_solveLoop_zero]
    exact e.finish_logged last s log c
  | succ n ih =>
    intro last s log c
    rcases hc : S.check c s with ⟨a, s'⟩
    have hl := Solver.logged_check log hc
    cases a with
    | error err =>
      rw [runOn_solveLoop_error e hl, runOn_solveLoop_error e hc]
      exact ⟨rfl, rfl, rfl⟩
    | ok a =>
      cases a with
      | unsat =>
        rw [runOn_solveLoop_unsat e hl, runOn_solveLoop_unsat e hc]
        exact e.finish_logged last s' _ c
      | unknown w =>
        rw [runOn_solveLoop_unknown e hl, runOn_solveLoop_unknown e hc]
        exact ⟨rfl, rfl, rfl⟩
      | sat m =>
        cases hx : e.counterexample c m with
        | error err =>
          rw [runOn_solveLoop_counterexample_error e hl hx, runOn_solveLoop_counterexample_error e hc hx]
          exact ⟨rfl, rfl, rfl⟩
        | ok r =>
          cases hmin : e.question.minimize with
          | false =>
            rw [runOn_solveLoop_once e hl hx hmin, runOn_solveLoop_once e hc hx hmin]
            exact e.finish_logged _ s' _ c
          | true =>
            rcases hb : (e.minimizationClause m).runOn c with ⟨_ | t, c'⟩
            · rw [runOn_solveLoop_clause_error e hl hx hmin hb, runOn_solveLoop_clause_error e hc hx hmin hb]
              exact ⟨rfl, rfl, rfl⟩
            · rw [runOn_solveLoop_clause_ok e hl hx hmin hb, runOn_solveLoop_clause_ok e hc hx hmin hb]
              exact ih _ s' _ _

theorem single_call (hmin : e.question.minimize = false) (n : Nat) (last : Option (VerificationResult × Model))
    (s : σ) (log : List (Except SmtError SatAnswer)) (c : Context) :
    ((e.solveLoop S.logged (n + 1) last).runOn (s, log) c).1.2.2 = log ++ [(S.check c s).1] := by
  rcases hc : S.check c s with ⟨a, s'⟩
  have hl := Solver.logged_check log hc
  cases a with
  | error err => rw [runOn_solveLoop_error e hl]
  | ok a =>
    cases a with
    | unsat =>
      obtain ⟨v, hrun, -⟩ := e.runOn_finish (s := (s', log ++ [.ok .unsat])) (c := c) last
      rw [runOn_solveLoop_unsat e hl, hrun]
    | unknown w => rw [runOn_solveLoop_unknown e hl]
    | sat m =>
      cases hx : e.counterexample c m with
      | error err => rw [runOn_solveLoop_counterexample_error e hl hx]
      | ok r =>
        obtain ⟨v, hrun, -⟩ := e.runOn_finish (s := (s', log ++ [.ok (.sat m)])) (c := c) (some (r, m))
        rw [runOn_solveLoop_once e hl hx hmin, hrun]

end Encoder
end ControlPlane
