import Mathlib
import ControlPlane.Proofs.Check.Solving
import ControlPlane.Proofs.Encoding.Growth

/-!
# Minimization of counterexamples

With minimization, each model the solver gives is blocked by a clause over the permission and
community variables of the routes from outside (`Encoder.envVars`): some variable true in the
model must turn false and no false one may turn true (`minimizationClause_blocks`). A sound
solver's next model therefore makes fewer of them true (`Encoder.Fewer`), so the loop meets at
most one model more than there are such variables, and one answer more ends it.

`minimizing_run` follows a run by induction on its calls left, with the invariant that every
model of the context makes fewer variables true than the last model; `Leaves` collects what the
log and the result of a run are. Main statement: `minimization_terminates_and_keeps_verdict`.
-/

namespace ControlPlane
namespace Encoder

/-- The permission and community variables of the routes from outside in the main slice: the
variables whose values the minimization drives down. -/
def envVars (e : Encoder) : List Term :=
  e.main.logical.environment.map (·.2.permitted) ++
    e.main.logical.environment.flatMap fun p => p.2.communities.map (·.2)

def usedBy (e : Encoder) (m : Model) : List Term := e.envVars.filter m.holds

/-- `m'` makes fewer environment variables true than `m`: none that `m` makes false, and not every
one that `m` makes true. -/
def Fewer (e : Encoder) (m' m : Model) : Prop :=
  (∀ x ∈ e.envVars, m'.holds x = true → m.holds x = true) ∧
    ∃ x ∈ e.envVars, m.holds x = true ∧ m'.holds x = false

variable {e : Encoder} {m m' : Model}

theorem Fewer.length_lt (h : e.Fewer m' m) : (e.usedBy m').length < (e.usedBy m).length := by
  obtain ⟨hle, x, hx, hm, hm'⟩ := h
  -- on the environment variables, holding in `m'` is holding in both
  have hboth : e.envVars.filter m'.holds = (e.envVars.filter m.holds).filter m'.holds := by
    rw [List.filter_filter]
    refine List.filter_congr fun y hy => ?_
    cases h : m'.holds y <;> simp [h, hle y hy]
  have hsub : (e.usedBy m').Sublist (e.usedBy m) := by
    unfold usedBy
    rw [hboth]
    exact List.filter_sublist
  have hxm : x ∈ e.usedBy m := List.mem_filter.2 ⟨hx, hm⟩
  have hxm' : x ∉ e.usedBy m' := by simp [usedBy, hm']
  refine Nat.lt_of_le_of_ne hsub.length_le fun hlen => hxm' ?_
  rwa [hsub.eq_of_length hlen]

/-- A chain of models, each with fewer environment variables true than the one before, has at
most one model more than there are environment variables. -/
theorem length_le_of_descends : ∀ {ms : List Model}, ms.IsChain (fun m m' => e.Fewer m' m) →
    ms.length ≤ e.envVars.length + 1
  | [], _ => by simp
  | m :: ms, h => by
    -- the number of true variables drops along the chain, from at most all of them
    suffices hlen : ∀ m ms, (m :: ms).IsChain (fun m m' => e.Fewer m' m) →
        (m :: ms).length ≤ (e.usedBy m).length + 1 from
      (hlen m ms h).trans (Nat.succ_le_succ (List.length_filter_le _ _))
    intro m ms
    induction ms generalizing m with
    | nil => simp
    | cons m' ms ih =>
      intro h
      rw [List.isChain_cons_cons] at h
      have hlt := h.1.length_lt
      have := ih m' h.2
      simp only [List.length_cons] at this ⊢
      omega

/-- What the loop of the blocking clause knows after the variables `pre`: each of them has a
boolean value in `m`; each term of `dropped` holds only where some variable true in `m` is false;
and each variable false in `m` stays false wherever some term of `kept` holds. -/
structure ClauseParts (m : Model) (pre dropped kept : List Term) : Prop where
  evaluates : ∀ x ∈ pre, ∃ b, m.eval x = .ok (.bool b)
  drops : ∀ d ∈ dropped, ∃ x ∈ pre, m.holds x = true ∧
    ∀ m' : Model, m'.eval d = .ok (.bool true) → m'.holds x = false
  keeps : ∀ x ∈ pre, m.holds x = false → ∃ a ∈ kept,
    ∀ m' : Model, m'.eval a = .ok (.bool true) → m'.holds x = false

namespace ClauseParts

variable {pre dropped kept : List Term} {x d : Term}

theorem nil : ClauseParts m [] [] [] := ⟨by simp, by simp, by simp⟩

theorem drop (h : ClauseParts m pre dropped kept) (hx : m.eval x = .ok (.bool true))
    (hd : ∀ m' : Model, m'.eval d = .ok (.bool true) → m'.eval x = .ok (.bool false)) :
    ClauseParts m (pre ++ [x]) (dropped ++ [d]) kept where
  evaluates y hy := by
    rcases List.mem_append.1 hy with hy | hy
    · exact h.evaluates y hy
    · exact ⟨true, (List.mem_singleton.1 hy) ▸ hx⟩
  drops d' hd' := by
    rcases List.mem_append.1 hd' with hd' | hd'
    · obtain ⟨y, hy, hm, hy'⟩ := h.drops d' hd'
      exact ⟨y, List.mem_append_left _ hy, hm, hy'⟩
    · obtain rfl := List.mem_singleton.1 hd'
      exact ⟨x, by simp, Model.holds_of_eval hx, fun m' h' => Model.holds_of_eval (hd m' h')⟩
  keeps y hy hm := by
    rcases List.mem_append.1 hy with hy | hy
    · exact h.keeps y hy hm
    · obtain rfl := List.mem_singleton.1 hy
      simp [Model.holds_of_eval hx] at hm

theorem keep (h : ClauseParts m pre dropped kept) (hx : m.eval x = .ok (.bool false))
    (hd : ∀ m' : Model, m'.eval d = .ok (.bool true) → m'.eval x = .ok (.bool false)) :
    ClauseParts m (pre ++ [x]) dropped (kept ++ [d]) where
  evaluates y hy := by
    rcases List.mem_append.1 hy with hy | hy
    · exact h.evaluates y hy
    · exact ⟨false, (List.mem_singleton.1 hy) ▸ hx⟩
  drops d' hd' := by
    obtain ⟨y, hy, hm, hy'⟩ := h.drops d' hd'
    exact ⟨y, List.mem_append_left _ hy, hm, hy'⟩
  keeps y hy hm := by
    rcases List.mem_append.1 hy with hy | hy
    · obtain ⟨a, ha, ha'⟩ := h.keeps y hy hm
      exact ⟨a, List.mem_append_left _ ha, ha'⟩
    · obtain rfl := List.mem_singleton.1 hy
      exact ⟨d, by simp, fun m' h' => Model.holds_of_eval (hd m' h')⟩

theorem fewer (h : ClauseParts m e.envVars dropped kept) (hd : ∃ d ∈ dropped, m'.eval d = .ok (.bool true))
    (hk : ∀ a ∈ kept, m'.eval a = .ok (.bool true)) : e.Fewer m' m := by
  refine ⟨fun x hx hx' => ?_, ?_⟩
  · obtain ⟨b, hb⟩ := h.evaluates x hx
    cases b
    · obtain ⟨a, ha, ha'⟩ := h.keeps x hx (Model.holds_of_eval hb)
      simp [ha' m' (hk a ha)] at hx'
    · exact Model.holds_of_eval hb
  · obtain ⟨d, hd, hd'⟩ := hd
    obtain ⟨x, hx, hm, hx'⟩ := h.drops d hd
    exact ⟨x, hx, hm, hx' m' hd'⟩

end ClauseParts

variable (e) in
theorem minimizationClause_blocks (m : Model) :
    Encode.Returns (e.minimizationClause m) fun t => ∀ m' : Model, m'.evalBool t = .ok true → e.Fewer m' m := by
  unfold minimizationClause
  dsimp only
  refine Encode.Returns.bind (Encode.Returns.forIn (fun pre st => ClauseParts m pre st.1 st.2) ClauseParts.nil ?_)
    fun st hst => ?_
  · -- one variable: its value in `m` decides the list its negation joins
    intro pre x post st _ hI
    refine Encode.Returns.bind Encode.Returns.liftSmt fun b hb => ?_
    have hx := Model.eval_of_evalBool hb
    cases b
    · refine Encode.Returns.bind (Encode.Returns.build (Build.builds_neg_holds x)) fun d hd => ?_
      exact Encode.Returns.pure ⟨_, rfl, hI.keep hx hd⟩
    · refine Encode.Returns.bind (Encode.Returns.build (Build.builds_neg_holds x)) fun d hd => ?_
      exact Encode.Returns.pure ⟨_, rfl, hI.drop hx hd⟩
  · -- the clause: some dropped term and every kept term
    refine Encode.Returns.bind (Encode.Returns.build (Build.builds_anyOf_holds _)) fun o ho => ?_
    refine Encode.Returns.bind (Encode.Returns.build (Build.builds_allOf_holds _)) fun a ha => ?_
    refine Encode.Returns.build fun c m' hm' => ?_
    have hboth := Build.builds_allOf_holds [o, a] c m' (Model.eval_of_evalBool hm')
    exact hst.fewer (ho m' (hboth o (by simp))) (ha m' (hboth a (by simp)))

variable (e) in
theorem grows_minimizationClause (m : Model) : Encode.Grows (e.minimizationClause m) := by
  unfold minimizationClause
  dsimp only
  refine Encode.Grows.bind (Encode.growsClosed.forIn fun x st => ?_) fun st => ?_
  · refine Encode.Grows.bind Encode.Grows.liftSmt fun b => ?_
    cases b
    · exact Encode.Grows.bind (by simp) fun _ => Encode.Grows.pure
    · exact Encode.Grows.bind (by simp) fun _ => Encode.Grows.pure
  · exact Encode.Grows.bind (by simp) fun _ => Encode.Grows.bind (by simp) fun _ => by simp

/-- After the blocking clause of `m` is asserted, every model of the context makes fewer
environment variables true than `m`. -/
theorem fewer_of_blocked {t : Term} {c c' : Context}
    (hb : (e.minimizationClause m).runOn c = (.ok t, c')) (m' : Model)
    (hm' : m'.Satisfies ((Build.assert t).run c').2.assertions.toList) : e.Fewer m' m := by
  rw [Build.assertions_assert, Model.satisfies_append, Build.satisfies_asserted_iff] at hm'
  exact minimizationClause_blocks e m c t (by rw [hb]) m' hm'.2

@[simp] def satModels : List (Except SmtError SatAnswer) → List Model
  | [] => []
  | .ok (.sat m) :: as => m :: satModels as
  | _ :: as => satModels as

theorem satModels_append_models (ms : List Model) (tail : List (Except SmtError SatAnswer)) :
    satModels (ms.map (fun m => .ok (.sat m)) ++ tail) = ms ++ satModels tail := by
  induction ms with
  | nil => rfl
  | cons m ms ih => simp [ih]

variable (e) in
/-- The log and the result of a minimizing run with `fuel` calls left, in terms of the sat models
`ms` it was given and the answer `tail` that ended it, if any; `prev` is the model before the run. -/
structure Leaves (c : Context) (fuel : Nat) (prev : Option Model) (ms : List Model)
    (tail : List (Except SmtError SatAnswer)) (res : Except EncodingError (VerificationResult × Option Model)) :
    Prop where
  descends : (prev.toList ++ ms).IsChain fun m m' => e.Fewer m' m
  satisfies : ∀ m ∈ ms, m.Satisfies c.assertions.toList
  tail_short : tail = [] ∨ ∃ a, tail = [a] ∧ ∀ m, a ≠ .ok (.sat m)
  unsat_ok : tail = [.ok .unsat] → ∃ v, res = .ok v
  result : ∀ v, res = .ok v → (tail = [.ok .unsat] ∨ tail = [] ∧ ms.length = fuel) ∧
    v.2 = ms.getLast?.or prev ∧ (v.1.verified = true ↔ v.2 = none)

namespace Leaves

variable {c : Context} {n : Nat} {prev : Option Model}

theorem stop {a : Except SmtError SatAnswer} {err : EncodingError} (ha : ∀ m, a ≠ .ok (.sat m))
    (hu : a ≠ .ok .unsat) : e.Leaves c n prev [] [a] (.error err) where
  descends := by cases prev <;> simp
  satisfies := by simp
  tail_short := .inr ⟨a, rfl, ha⟩
  unsat_ok h := absurd (List.singleton_inj.1 h) hu
  result _ h := by cases h

theorem model_error {err : EncodingError} (hm : m.Satisfies c.assertions.toList)
    (hprev : ∀ p ∈ prev, e.Fewer m p) : e.Leaves c (n + 1) prev [m] [] (.error err) where
  descends := by
    cases prev with
    | none => simp
    | some p => simpa using hprev p rfl
  satisfies := by simpa using hm
  tail_short := .inl rfl
  unsat_ok h := by cases h
  result _ h := by cases h

theorem finish {tail : List (Except SmtError SatAnswer)} {v : VerificationResult × Option Model}
    (ht : tail = [.ok .unsat] ∨ tail = [] ∧ n = 0) (hv : v.2 = prev)
    (hverdict : v.1.verified = true ↔ v.2 = none) : e.Leaves c n prev [] tail (.ok v) where
  descends := by cases prev <;> simp
  satisfies := by simp
  tail_short := by
    rcases ht with rfl | ⟨rfl, -⟩
    · exact .inr ⟨_, rfl, fun _ h => by cases h⟩
    · exact .inl rfl
  unsat_ok _ := ⟨v, rfl⟩
  result _ h := by
    cases h
    refine ⟨?_, by simpa using hv, hverdict⟩
    rcases ht with h | ⟨h, h'⟩
    · exact .inl h
    · exact .inr ⟨h, h'.symm⟩

/-- One more model in front: it makes fewer environment variables true than the one before, it
satisfies the assertions, and the rest of the run starts from a context that extends them. -/
theorem cons {c' : Context} {ms : List Model} {tail : List (Except SmtError SatAnswer)}
    {res : Except EncodingError (VerificationResult × Option Model)} (h : e.Leaves c' n (some m) ms tail res)
    (hm : m.Satisfies c.assertions.toList) (hprev : ∀ p ∈ prev, e.Fewer m p) (hc : c.Extends c') :
    e.Leaves c (n + 1) prev (m :: ms) tail res where
  descends := by
    cases prev with
    | none => simpa using h.descends
    | some p => simpa [List.isChain_cons_cons, hprev p rfl] using h.descends
  satisfies m' hm' := by
    rcases List.mem_cons.1 hm' with rfl | hm'
    · exact hm
    · exact hc.satisfies (h.satisfies m' hm')
  tail_short := h.tail_short
  unsat_ok := h.unsat_ok
  result v hv := by
    obtain ⟨hend, hlast, hverdict⟩ := h.result v hv
    refine ⟨?_, ?_, hverdict⟩
    · rcases hend with hend | ⟨hend, hlen⟩
      · exact .inl hend
      · exact .inr ⟨hend, by simp [hlen]⟩
    · rw [hlast]
      rcases hl : ms.getLast? with _ | x <;> simp [List.getLast?_cons, hl]

end Leaves

/-- Finishing after results that are not verified: the verdict holds exactly when there is no
model. -/
theorem finish_verdict {last : Option (VerificationResult × Model)} {v : VerificationResult × Option Model}
    (hlast : ∀ p ∈ last, p.1.verified = false) (hv : v.2 = last.map Prod.snd)
    (hv' : v.1.verified = (last.map (·.1.verified)).getD true) : v.1.verified = true ↔ v.2 = none := by
  cases last with
  | none => simp [hv, hv']
  | some p => simp [hv, hv', hlast p rfl]

variable {σ : Type} {S : Solver σ}

/-- A minimizing run with a sound solver: its log grows by the sat models it was given and at
most one other answer, and `Leaves` says what they and the result are. The invariant: the
results before the run are not verified, and every model of the context makes fewer environment
variables true than the last model. -/
theorem minimizing_run (hS : S.Sound) (hmin : e.question.minimize = true) (fuel : Nat) :
    ∀ (last : Option (VerificationResult × Model)) (s : σ) (log : List (Except SmtError SatAnswer))
      (c : Context), (∀ p ∈ last, p.1.verified = false) →
      (∀ p ∈ last, ∀ m : Model, m.Satisfies c.assertions.toList → e.Fewer m p.2) →
      ∃ ms tail, ((e.solveLoop S.logged fuel last).runOn (s, log) c).1.2.2 =
          log ++ ms.map (fun m => .ok (.sat m)) ++ tail ∧
        e.Leaves c fuel (last.map Prod.snd) ms tail ((e.solveLoop S.logged fuel last).runOn (s, log) c).1.1 := by
  induction fuel with
  | zero =>
    intro last s log c hlast _
    obtain ⟨v, hrun, hv, hv'⟩ := e.runOn_finish (s := (s, log)) (c := c) last
    rw [runOn_solveLoop_zero, hrun]
    exact ⟨[], [], by simp, Leaves.finish (.inr ⟨rfl, rfl⟩) hv (finish_verdict hlast hv hv')⟩
  | succ n ih =>
    intro last s log c hlast hblock
    rcases hc : S.check c s with ⟨a, s'⟩
    have hl := Solver.logged_check log hc
    cases a with
    | error err =>
      rw [runOn_solveLoop_error e hl]
      exact ⟨[], [.error err], by simp, Leaves.stop (fun _ h => by cases h) (fun h => by cases h)⟩
    | ok a =>
      cases a with
      | unsat =>
        obtain ⟨v, hrun, hv, hv'⟩ := e.runOn_finish (s := (s', log ++ [.ok .unsat])) (c := c) last
        rw [runOn_solveLoop_unsat e hl, hrun]
        exact ⟨[], [.ok .unsat], by simp, Leaves.finish (.inl rfl) hv (finish_verdict hlast hv hv')⟩
      | unknown w =>
        rw [runOn_solveLoop_unknown e hl]
        exact ⟨[], [.ok (.unknown w)], by simp, Leaves.stop (fun _ h => by cases h) (fun h => by cases h)⟩
      | sat m =>
        -- the model satisfies the context, so it has fewer variables true than the last one
        have hm := hS c s m s' hc
        have hprev : ∀ p ∈ last.map Prod.snd, e.Fewer m p := by
          intro p hp
          obtain ⟨q, hq, rfl⟩ := Option.mem_map.1 hp
          exact hblock q hq m hm
        cases hx : e.counterexample c m with
        | error err =>
          rw [runOn_solveLoop_counterexample_error e hl hx]
          exact ⟨[m], [], by simp, Leaves.model_error hm hprev⟩
        | ok r =>
          rcases hb : (e.minimizationClause m).runOn c with ⟨_ | t, c'⟩
          · rw [runOn_solveLoop_clause_error e hl hx hmin hb]
            exact ⟨[m], [], by simp, Leaves.model_error hm hprev⟩
          · rw [runOn_solveLoop_clause_ok e hl hx hmin hb]
            have hc' : c.Extends ((Build.assert t).run c').2 := by
              have h₁ : c.Extends c' := by simpa [hb] using e.grows_minimizationClause m c
              exact h₁.trans (Build.grows_assert t c')
            obtain ⟨ms, tail, hlog, hleaves⟩ := ih (some (r, m)) s' (log ++ [.ok (.sat m)]) _
              (by simpa using counterexample_not_verified e hx) (by simpa using fewer_of_blocked hb)
            exact ⟨m :: ms, tail, by simp [hlog], hleaves.cons hm hprev hc'⟩

/-- Minimization asks a sound solver at most `N + 2` times for `N` environment variables, each
model using fewer of them, and keeps the verdict of the first answer and the last model; without
minimization the solver is asked once. Logging the answers changes nothing else. -/
theorem minimization_terminates_and_keeps_verdict (e : Encoder) (S : Solver σ) (hS : S.Sound)
    (s : σ) (c : Context) :
    let run := (e.verify S.logged).runOn (s, []) c
    let log := run.1.2.2
    (run.1.1 = ((e.verify S).runOn s c).1.1 ∧ run.1.2.1 = ((e.verify S).runOn s c).1.2 ∧
      run.2 = ((e.verify S).runOn s c).2) ∧
    (e.question.minimize = true →
      log.length ≤ e.envVars.length + 2 ∧
      (satModels log).IsChain (fun m m' => e.Fewer m' m) ∧
      (0 < S.rounds → ((∃ v, run.1.1 = .ok v ∧ v.1.verified = true) ↔ log.head? = some (.ok .unsat))) ∧
      (∀ v, run.1.1 = .ok v → v.2 = (satModels log).getLast? ∧ ∀ m ∈ v.2, m.Satisfies c.assertions.toList) ∧
      (e.envVars.length + 2 ≤ S.rounds → ∀ v, run.1.1 = .ok v → log.getLast? = some (.ok .unsat))) ∧
    (e.question.minimize = false → 0 < S.rounds → log.length = 1) := by
  intro run log
  have hrun : run = (e.solveLoop S.logged S.rounds none).runOn (s, []) c := rfl
  refine ⟨e.solveLoop_logged S.rounds none s [] c, fun hmin => ?_, fun hmin hrounds => ?_⟩
  · obtain ⟨ms, tail, hlog, h⟩ := minimizing_run hS hmin S.rounds none s [] c (by simp) (by simp)
    rw [← hrun] at hlog h
    have hlog' : log = ms.map (fun m => .ok (.sat m)) ++ tail := by simpa using hlog
    have hsat : satModels log = ms := by
      rw [hlog', satModels_append_models]
      rcases h.tail_short with rfl | ⟨a, rfl, ha⟩
      · simp
      · cases a with
        | error err => simp
        | ok a => cases a with
          | sat m => exact absurd rfl (ha m)
          | _ => simp
    have hms := length_le_of_descends (by simpa using h.descends)
    refine ⟨?_, by simpa [hsat] using h.descends, fun hpos => ⟨?_, ?_⟩, fun v hv => ?_, fun hbig v hv => ?_⟩
    · -- the sat models, then at most one more answer
      have htail : tail.length ≤ 1 := by rcases h.tail_short with rfl | ⟨a, rfl, -⟩ <;> simp
      rw [hlog', List.length_append, List.length_map]
      omega
    · -- a verified result has no model: the run ended on the first answer, unsat
      rintro ⟨v, hv, hverified⟩
      obtain ⟨hend, hlast, hverdict⟩ := h.result v hv
      have hnone : ms = [] := by simpa [hlast] using hverdict.1 hverified
      subst hnone
      rcases hend with rfl | ⟨-, hlen⟩
      · simp [hlog']
      · simp at hlen
        omega
    · -- a first answer that is unsat ends the run with no model
      intro hhead
      cases ms with
      | cons m ms => simp [hlog'] at hhead
      | nil =>
        have htail : tail = [.ok .unsat] := by
          rcases h.tail_short with rfl | ⟨a, rfl, -⟩
          · simp [hlog'] at hhead
          · simp_all
        obtain ⟨v, hv⟩ := h.unsat_ok htail
        obtain ⟨-, hlast, hverdict⟩ := h.result v hv
        exact ⟨v, hv, hverdict.2 (by simpa using hlast)⟩
    · obtain ⟨-, hlast, -⟩ := h.result v hv
      have hl : v.2 = (satModels log).getLast? := by simpa [hsat] using hlast
      refine ⟨hl, fun m hm => h.satisfies m (List.mem_of_getLast? ?_)⟩
      rwa [hl, hsat] at hm
    · -- running out of calls would take more models than there can be
      obtain ⟨hend, -, -⟩ := h.result v hv
      rcases hend with rfl | ⟨-, hlen⟩
      · simp [hlog']
      · omega
  · obtain ⟨n, hn⟩ := Nat.exists_eq_add_of_lt hrounds
    have hlog : log = ((e.solveLoop S.logged (n + 1) none).runOn (s, []) c).1.2.2 := by
      rw [Nat.zero_add] at hn
      rw [← hn]
      rfl
    rw [hlog, e.single_call hmin]
    rfl

end Encoder

namespace Solver

/-- A solver that offers one model: it answers with `m` when `m` makes every assertion true, and
unsat otherwise. -/
def offering (m : Model) (rounds : Nat) : Solver Unit where
  check c s := (if c.assertions.toList.all fun a => (m.evalBool a).toOption == some true then
    .ok (.sat m) else .ok .unsat, s)
  rounds := rounds

theorem offering_sound (m : Model) (rounds : Nat) : (offering m rounds).Sound := by
  intro c s m' s' h
  simp only [offering] at h
  split at h
  · next hall =>
    cases h
    intro a ha
    have ha' := List.all_eq_true.1 hall a ha
    cases hv : m.evalBool a <;> simp_all [Except.toOption]
  · cases h

end Solver

namespace Encoder

/-- An encoder that minimizes counterexamples, with one environment route: its permission is the
variable `env`. -/
def withEnvRoute : Encoder :=
  { (default : Encoder) with
    question := { (default : HeaderQuestion) with minimize := true }
    mainName := "main"
    slices := ⟨[("main", { (default : Slice) with
      logical := { (default : LogicalGraph) with
        environment := [(default, { (default : Route) with isEnv := true, permitted := .var "env" .bool })] } })]⟩ }

def usesEnvRoute : Model := Model.set {} "env" (.bool true)

/-- A solver that offers the model using the environment route, sound and answering the empty
context with it. With minimization the run asks at most three times, each model uses fewer
environment routes than the one before, and a result comes after an unsat answer; without
minimization the solver is asked once. -/
theorem minimization_with_offering_solver :
    (Solver.offering usesEnvRoute 3).Sound ∧
      (Solver.offering usesEnvRoute 3).check {} () = (.ok (.sat usesEnvRoute), ()) ∧
      withEnvRoute.question.minimize = true ∧ withEnvRoute.envVars = [.var "env" .bool] ∧
      (let log := ((withEnvRoute.verify (Solver.offering usesEnvRoute 3).logged).runOn ((), []) {}).1.2.2
       log.length ≤ 3 ∧ (satModels log).IsChain (fun m m' => withEnvRoute.Fewer m' m) ∧
        ∀ v, ((withEnvRoute.verify (Solver.offering usesEnvRoute 3).logged).runOn ((), []) {}).1.1 =
          .ok v → log.getLast? = some (.ok .unsat)) ∧
      (({ withEnvRoute with question := default }.verify
        (Solver.offering usesEnvRoute 3).logged).runOn ((), []) {}).1.2.2.length = 1 := by
  have hS := Solver.offering_sound usesEnvRoute 3
  have henv : withEnvRoute.envVars = [.var "env" .bool] := rfl
  obtain ⟨hlen, hchain, -, -, hlast⟩ :=
    (minimization_terminates_and_keeps_verdict withEnvRoute _ hS () {}).2.1 rfl
  refine ⟨hS, rfl, rfl, henv, ⟨by simpa [henv] using hlen, hchain, hlast (by rw [henv]; decide)⟩, ?_⟩
  exact (minimization_terminates_and_keeps_verdict { withEnvRoute with question := default } _ hS
    () {}).2.2 rfl (by decide)

end Encoder
end ControlPlane
