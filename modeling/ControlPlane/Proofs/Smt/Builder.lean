import ControlPlane.Proofs.Smt.Folding
import ControlPlane.Encoding.Basic

/-!
# What builder steps build

A builder step only draws fresh node numbers and registers variables, and neither changes what
a built term means. `Builds x P` says that every run of `x`, from any context, returns a value
satisfying `P`; `Encode.Succeeds` and `Encode.Fails` say the same of encoding steps, which may
fail. Each builder operation gets one lemma: from the values of its arguments under a model,
the value of the term it builds.
-/

namespace ControlPlane

theorem Model.evalBool_of_eval {m : Model} {t : Term} {b : Bool}
    (h : m.eval t = .ok (.bool b)) : m.evalBool t = .ok b := by
  simp [Model.evalBool, h, bind, Except.bind, pure, Except.pure]

theorem Model.evalAll_cons_ok {m : Model} {x : Term} {xs : List Term} {b c : Bool}
    (hx : m.eval x = .ok (.bool b)) (hxs : m.evalAll xs = .ok c) :
    m.evalAll (x :: xs) = .ok (b && c) := by
  rw [Model.evalAll_cons _ hx]
  cases b <;> simp [hxs]

theorem Model.evalAny_cons_ok {m : Model} {x : Term} {xs : List Term} {b c : Bool}
    (hx : m.eval x = .ok (.bool b)) (hxs : m.evalAny xs = .ok c) :
    m.evalAny (x :: xs) = .ok (b || c) := by
  rw [Model.evalAny_cons _ hx]
  cases b <;> simp [hxs]

namespace Build

def Builds {α : Type} (x : Build α) (P : α → Prop) : Prop := ∀ c, P (x.run c).1

section Combinators

variable {α β : Type} {P : α → Prop} {Q : β → Prop}

theorem Builds.pure {a : α} (h : P a) : Builds (Pure.pure a) P := fun _ => h

theorem Builds.bind {x : Build α} {f : α → Build β} (hx : Builds x P)
    (hf : ∀ a, P a → Builds (f a) Q) : Builds (x >>= f) Q :=
  fun c => hf _ (hx c) _

theorem Builds.bind_any {x : Build α} {f : α → Build β} (hf : ∀ a, Builds (f a) Q) :
    Builds (x >>= f) Q :=
  fun _ => hf _ _

theorem Builds.mono {x : Build α} {P' : α → Prop} (hx : Builds x P) (h : ∀ a, P a → P' a) :
    Builds x P' :=
  fun c => h _ (hx c)

theorem Builds.map {x : Build α} {g : α → β} (hx : Builds x P) :
    Builds (g <$> x) fun b => ∃ a, b = g a ∧ P a :=
  fun c => ⟨_, rfl, hx c⟩

/-- A loop over a list: an invariant over the part of the list done, kept by each pass, holds
when the loop ends. -/
theorem Builds.forIn {γ : Type} {xs : List γ} {init : β} {f : γ → β → Build (ForInStep β)}
    (I : List γ → β → Prop) (hinit : I [] init)
    (hf : ∀ pre x post b, xs = pre ++ x :: post → I pre b →
      Builds (f x b) fun r => ∃ b', r = .yield b' ∧ I (pre ++ [x]) b') :
    Builds (ForIn.forIn xs init f) (I xs) := by
  -- the loop from any point on: induction on the part of the list still to do
  suffices h : ∀ post pre b, xs = pre ++ post → I pre b → Builds (ForIn.forIn post b f) (I xs) from
    h xs [] init rfl hinit
  intro post
  induction post with
  | nil =>
    intro pre b h hb
    exact Builds.pure (by simpa [h] using hb)
  | cons x post ih =>
    intro pre b h hb
    rw [List.forIn_cons]
    refine Builds.bind (hf pre x post b h hb) fun r hr => ?_
    obtain ⟨b', rfl, hI⟩ := hr
    exact ih (pre ++ [x]) b' (by simp [h]) hI

end Combinators

section Evaluation

variable {m : Model} {a b : Term}

theorem builds_neg {x : Bool} (ha : m.eval a = .ok (.bool x)) :
    Builds (neg a) fun t => m.eval t = .ok (.bool !x) :=
  fun c => Term.eval_mkNot c.nextNode ha

theorem builds_allOf {ts : List Term} {x : Bool} (h : m.evalAll ts = .ok x) :
    Builds (allOf ts) fun t => m.eval t = .ok (.bool x) :=
  fun c => Term.eval_mkAndAll c.nextNode h

theorem builds_anyOf {ts : List Term} {x : Bool} (h : m.evalAny ts = .ok x) :
    Builds (anyOf ts) fun t => m.eval t = .ok (.bool x) :=
  fun c => Term.eval_mkOrAll c.nextNode h

theorem builds_both {x y : Bool} (ha : m.eval a = .ok (.bool x)) (hb : m.eval b = .ok (.bool y)) :
    Builds (both a b) fun t => m.eval t = .ok (.bool (x && y)) :=
  builds_allOf (Term.evalAll_pair ha hb)

theorem builds_either {x y : Bool} (ha : m.eval a = .ok (.bool x)) (hb : m.eval b = .ok (.bool y)) :
    Builds (either a b) fun t => m.eval t = .ok (.bool (x || y)) :=
  builds_anyOf (Term.evalAny_pair ha hb)

theorem builds_cond {c t e : Term} {x y z : Bool} (hc : m.eval c = .ok (.bool x))
    (ht : m.eval t = .ok (.bool y)) (he : m.eval e = .ok (.bool z)) :
    Builds (cond c t e) fun r => m.eval r = .ok (.bool (if x then y else z)) :=
  fun ctx => Term.eval_mkIte_bool ctx.nextNode hc ht he

theorem builds_equals {va vb : Value} (ha : m.eval a = .ok va) (hb : m.eval b = .ok vb)
    (hs : a.sort = b.sort) (hfa : va.fits a.sort) (hfb : vb.fits b.sort) :
    Builds (equals a b) fun t => m.eval t = .ok (.bool (va == vb)) :=
  fun c => Term.eval_mkEq c.nextNode ha hb hs hfa hfb

theorem builds_le {x y : Int} (ha : m.eval a = .ok (.int x)) (hb : m.eval b = .ok (.int y)) :
    Builds (le a b) fun t => m.eval t = .ok (.bool (decide (x ≤ y))) :=
  fun c => Term.eval_mkLe c.nextNode ha hb

theorem builds_lt {x y : Int} (ha : m.eval a = .ok (.int x)) (hb : m.eval b = .ok (.int y)) :
    Builds (lt a b) fun t => m.eval t = .ok (.bool (decide (x < y))) :=
  fun c => Term.eval_mkLt c.nextNode ha hb

theorem builds_implies {x y : Bool} (ha : m.eval a = .ok (.bool x)) (hb : m.eval b = .ok (.bool y)) :
    Builds (implies a b) fun t => m.eval t = .ok (.bool (!x || y)) :=
  fun c => Term.eval_mkImplies c.nextNode ha hb

theorem sort_mkBvAnd (n : Nat) (a b : Term) : (Term.mkBvAnd n a b).sort = a.sort := by
  unfold Term.mkBvAnd
  split <;> rfl

theorem builds_bvAnd {x y : Nat} (ha : m.eval a = .ok (.bv x)) (hb : m.eval b = .ok (.bv y))
    (hw : a.wellSorted) :
    Builds (bvAnd a b) fun t => m.eval t = .ok (.bv (x &&& y)) ∧ t.sort = a.sort :=
  fun c => ⟨Term.eval_mkBvAnd c.nextNode ha hb hw, sort_mkBvAnd c.nextNode a b⟩

theorem builds_neg_holds (a : Term) :
    Builds (neg a) fun d => ∀ m : Model, m.eval d = .ok (.bool true) → m.eval a = .ok (.bool false) :=
  fun c _ h => Term.eval_of_eval_mkNot c.nextNode h

theorem builds_anyOf_holds (ts : List Term) :
    Builds (anyOf ts) fun o => ∀ m : Model, m.eval o = .ok (.bool true) →
      ∃ t ∈ ts, m.eval t = .ok (.bool true) :=
  fun c _ h => Term.exists_of_eval_mkOrAll c.nextNode h

theorem builds_allOf_holds (ts : List Term) :
    Builds (allOf ts) fun a => ∀ m : Model, m.eval a = .ok (.bool true) →
      ∀ t ∈ ts, m.eval t = .ok (.bool true) :=
  fun c _ h => Term.evalAll_eq_true_iff.1 (Term.evalAll_of_eval_mkAndAll c.nextNode h)

/-- Where a built implication holds, a true premise makes the conclusion true and a false
conclusion makes the premise false. -/
theorem builds_implies_holds (a b : Term) :
    Builds (implies a b) fun i => ∀ m : Model, m.eval i = .ok (.bool true) →
      (m.eval a = .ok (.bool true) → m.eval b = .ok (.bool true)) ∧
      (m.eval b = .ok (.bool false) → m.eval a = .ok (.bool false)) :=
  fun c _ h => ⟨Term.eval_of_eval_mkImplies c.nextNode h, Term.eval_false_of_eval_mkImplies c.nextNode h⟩

theorem builds_equals_holds (a b : Term) :
    Builds (equals a b) fun e => ∀ m : Model, m.eval e = .ok (.bool true) →
      (m.eval a = .ok (.bool true) ↔ m.eval b = .ok (.bool true)) :=
  fun c _ h => Term.true_iff_of_eval_mkEq c.nextNode h

/-- Building one boolean term per element gives a list whose conjunction and disjunction are
those of the elements' booleans. -/
theorem builds_mapM_bool {γ : Type} {f : γ → Build Term} {g : γ → Bool} :
    ∀ {xs : List γ}, (∀ y ∈ xs, Builds (f y) fun t => m.eval t = .ok (.bool (g y))) →
      Builds (xs.mapM f) fun ts => m.evalAll ts = .ok (xs.all g) ∧ m.evalAny ts = .ok (xs.any g)
  | [], _ => Builds.pure ⟨rfl, rfl⟩
  | y :: xs, h => by
    rw [List.mapM_cons]
    refine (h y (List.mem_cons_self ..)).bind fun t ht => ?_
    refine (builds_mapM_bool fun z hz => h z (List.mem_cons_of_mem _ hz)).bind fun ts hts => ?_
    refine Builds.pure ?_
    rw [Model.evalAll_cons _ ht, Model.evalAny_cons _ ht, List.all_cons, List.any_cons]
    cases g y
    · exact ⟨rfl, hts.2⟩
    · exact ⟨hts.1, rfl⟩

theorem builds_both_holds (a b : Term) :
    Builds (both a b) fun t => ∀ m : Model, m.eval t = .ok (.bool true) →
      m.eval a = .ok (.bool true) ∧ m.eval b = .ok (.bool true) :=
  (builds_allOf_holds [a, b]).mono fun _ h m ht => ⟨h m ht a (by simp), h m ht b (by simp)⟩

theorem builds_anyOf_of_mem (ts : List Term) :
    Builds (anyOf ts) fun o => ∀ (m : Model) v, m.eval o = .ok v → ∀ t ∈ ts,
      m.eval t = .ok (.bool true) → v = .bool true :=
  fun c _ _ h _ ht htrue => Term.eval_mkOrAll_of_mem c.nextNode h ht htrue

theorem builds_neg_eval (a : Term) :
    Builds (neg a) fun d => ∀ (m : Model) x, m.eval d = .ok (.bool x) ↔ m.eval a = .ok (.bool !x) :=
  fun c _ x => ⟨Term.eval_of_eval_mkNot c.nextNode, fun h => by
    rw [← Bool.not_not x]
    exact Term.eval_mkNot c.nextNode h⟩

/-- Where a built equality holds, one side is true exactly when the other is, and the left side
has a value when the right side has one. -/
theorem builds_equals_true (a b : Term) :
    Builds (equals a b) fun e => ∀ m : Model, m.eval e = .ok (.bool true) →
      (m.eval a = .ok (.bool true) ↔ m.eval b = .ok (.bool true)) ∧
        ((∃ v, m.eval b = .ok v) → ∃ v, m.eval a = .ok v) :=
  fun c _ h => ⟨Term.true_iff_of_eval_mkEq c.nextNode h, Term.exists_eval_of_eval_mkEq c.nextNode h⟩

end Evaluation

section Registration

variable {α β : Type}

/-- Every run of `x` from a context satisfying `I` returns a value and a context satisfying
`Q`. -/
def Triple (I : Context → Prop) (x : Build α) (Q : α → Context → Prop) : Prop :=
  ∀ c, I c → Q (x.run c).1 (x.run c).2

theorem Triple.bind_eq {I J : Context → Prop} {x : Build α} {f : α → Build β} {a : α}
    {R : β → Context → Prop} (hx : Triple I x fun b c => b = a ∧ J c) (hf : Triple J (f a) R) :
    Triple I (x >>= f) R := by
  intro c hc
  obtain ⟨ha, hJ⟩ := hx c hc
  show R ((f (x.run c).1).run (x.run c).2).1 ((f (x.run c).1).run (x.run c).2).2
  rw [ha]
  exact hf _ hJ

theorem mkVar_run_new {c : Context} {name : String} {s : TermSort} (h : c.lookupVar name = none) :
    (mkVar name s).run c = (.var name s,
      { c with vars := c.vars.push (name, .var name s), index := c.index.insert name c.vars.size }) := by
  simp [mkVar, h]
  rfl

def FreshUnder (pre : String) (used : List String) (c : Context) : Prop :=
  ∀ s ∉ used, c.index[pre ++ s]? = none

/-- Registering a name of the fresh family gives a new variable, and the rest of the family
stays fresh. -/
theorem triple_mkVar_fresh {pre k : String} {used : List String} (hk : k ∉ used) (s : TermSort) :
    Triple (FreshUnder pre used) (mkVar (pre ++ k) s) fun v c =>
      v = .var (pre ++ k) s ∧ FreshUnder pre (k :: used) c := by
  intro c hc
  have hnone : c.lookupVar (pre ++ k) = none := by
    simp [Context.lookupVar, hc k hk]
  rw [mkVar_run_new hnone]
  refine ⟨rfl, fun x hx => ?_⟩
  simp only [List.mem_cons, not_or] at hx
  simp [Std.HashMap.getElem?_insert, Ne.symm hx.1, hc x hx.2]

end Registration

end Build

namespace Encode

def Succeeds {α : Type} (x : Encode α) (P : α → Prop) : Prop :=
  ∀ c, ∃ a, (x.runOn c).1 = .ok a ∧ P a

def Fails {α : Type} (x : Encode α) (E : EncodingError → Prop) : Prop :=
  ∀ c, ∃ e, (x.runOn c).1 = .error e ∧ E e

section Combinators

variable {α β : Type} {P : α → Prop} {Q : β → Prop} {E : EncodingError → Prop}

theorem runOn_bind (x : Encode α) (f : α → Encode β) (c : Context) :
    (x >>= f).runOn c = match x.runOn c with
      | (.ok a, c') => (f a).runOn c'
      | (.error e, c') => (.error e, c') := by
  simp only [runOn, ExceptT.run_bind, StateT.run_bind]
  rcases x.run.run c with ⟨_ | _, _⟩ <;> rfl

theorem Succeeds.pure {a : α} (h : P a) : Succeeds (Pure.pure a) P := fun _ => ⟨a, rfl, h⟩

theorem Succeeds.bind {x : Encode α} {f : α → Encode β} (hx : Succeeds x P)
    (hf : ∀ a, P a → Succeeds (f a) Q) : Succeeds (x >>= f) Q := by
  intro c
  obtain ⟨a, ha, hP⟩ := hx c
  rw [runOn_bind]
  rcases hrun : x.runOn c with ⟨r, c'⟩
  rw [hrun] at ha
  cases ha
  exact hf a hP c'

theorem Succeeds.mono {x : Encode α} {P' : α → Prop} (hx : Succeeds x P)
    (h : ∀ a, P a → P' a) : Succeeds x P' := fun c =>
  let ⟨a, ha, hP⟩ := hx c
  ⟨a, ha, h a hP⟩

theorem Succeeds.lift {x : Build α} (hx : Build.Builds x P) : Succeeds (liftM x) P :=
  fun c => ⟨_, rfl, hx c⟩

theorem Fails.throw {e : EncodingError} (h : E e) : Fails (MonadExcept.throw e : Encode α) E :=
  fun _ => ⟨e, rfl, h⟩

theorem Fails.bind_left {x : Encode α} {f : α → Encode β} (hx : Fails x E) :
    Fails (x >>= f) E := by
  intro c
  obtain ⟨e, he, hE⟩ := hx c
  rw [runOn_bind]
  rcases hrun : x.runOn c with ⟨r, c'⟩
  rw [hrun] at he
  cases he
  exact ⟨e, rfl, hE⟩

theorem Fails.bind_right {x : Encode α} {f : α → Encode β} (hx : Succeeds x P)
    (hf : ∀ a, P a → Fails (f a) E) : Fails (x >>= f) E := by
  intro c
  obtain ⟨a, ha, hP⟩ := hx c
  rw [runOn_bind]
  rcases hrun : x.runOn c with ⟨r, c'⟩
  rw [hrun] at ha
  cases ha
  exact hf a hP c'

/-- Every value the step returns, from any context, satisfies `P`; unlike `Succeeds`, the step
may also fail. -/
def Returns {α : Type} (x : Encode α) (P : α → Prop) : Prop := ∀ c a, (x.runOn c).1 = .ok a → P a

theorem Returns.pure {a : α} (h : P a) : Returns (Pure.pure a) P := fun _ _ ha => by
  cases ha
  exact h

theorem Returns.bind {x : Encode α} {f : α → Encode β} (hx : Returns x P)
    (hf : ∀ a, P a → Returns (f a) Q) : Returns (x >>= f) Q := by
  intro c b hb
  rw [runOn_bind] at hb
  rcases hrun : x.runOn c with ⟨_ | a, c'⟩
  · simp [hrun] at hb
  · simp only [hrun] at hb
    exact hf a (hx c a (by rw [hrun])) c' b hb

theorem Returns.bind_any {x : Encode α} {f : α → Encode β} (hf : ∀ a, Returns (f a) Q) :
    Returns (x >>= f) Q :=
  Returns.bind (P := fun _ => True) (fun _ _ _ => trivial) fun a _ => hf a

theorem Returns.throw {e : EncodingError} : Returns (MonadExcept.throw e : Encode α) P :=
  fun _ _ h => by cases h

theorem Returns.liftSmt {y : Except SmtError α} : Returns (liftM y : Encode α) fun a => y = .ok a := by
  intro c a ha
  cases y with
  | error err => cases ha
  | ok b => cases ha; rfl

theorem Returns.liftExcept {y : Except EncodingError α} :
    Returns (liftM y : Encode α) fun a => y = .ok a := by
  intro c a ha
  cases y with
  | error err => cases ha
  | ok b => cases ha; rfl

theorem Returns.build {x : Build α} (h : Build.Builds x P) : Returns (liftM x : Encode α) P :=
  fun c _ ha => by
    cases ha
    exact h c

/-- A loop over a list that may fail: an invariant over the part of the list done, kept by each
pass that succeeds, holds when the loop returns. -/
theorem Returns.forIn {γ : Type} {xs : List γ} {init : β} {f : γ → β → Encode (ForInStep β)}
    (I : List γ → β → Prop) (hinit : I [] init)
    (hf : ∀ pre x post b, xs = pre ++ x :: post → I pre b →
      Returns (f x b) fun r => ∃ b', r = .yield b' ∧ I (pre ++ [x]) b') :
    Returns (ForIn.forIn xs init f) (I xs) := by
  -- the loop from any point on: induction on the part of the list still to do
  suffices h : ∀ post pre b, xs = pre ++ post → I pre b → Returns (ForIn.forIn post b f) (I xs) from
    h xs [] init rfl hinit
  intro post
  induction post with
  | nil =>
    intro pre b h hb
    exact Returns.pure (by simpa [h] using hb)
  | cons x post ih =>
    intro pre b h hb
    rw [List.forIn_cons]
    refine Returns.bind (hf pre x post b h hb) fun r hr => ?_
    obtain ⟨b', rfl, hI⟩ := hr
    exact ih (pre ++ [x]) b' (by simp [h]) hI

/-- A loop over a list whose passes all succeed: an invariant over the part of the list done,
established by each pass, holds when the loop ends. -/
theorem Succeeds.forIn {γ : Type} {xs : List γ} {init : β} {f : γ → β → Encode (ForInStep β)}
    (I : List γ → β → Prop) (hinit : I [] init)
    (hf : ∀ pre x post b, xs = pre ++ x :: post → I pre b →
      Succeeds (f x b) fun r => ∃ b', r = .yield b' ∧ I (pre ++ [x]) b') :
    Succeeds (ForIn.forIn xs init f) (I xs) := by
  -- the loop from any point on: induction on the part of the list still to do
  suffices h : ∀ post pre b, xs = pre ++ post → I pre b → Succeeds (ForIn.forIn post b f) (I xs) from
    h xs [] init rfl hinit
  intro post
  induction post with
  | nil =>
    intro pre b h hb
    exact Succeeds.pure (by simpa [h] using hb)
  | cons x post ih =>
    intro pre b h hb
    rw [List.forIn_cons]
    refine Succeeds.bind (hf pre x post b h hb) fun r hr => ?_
    obtain ⟨b', rfl, hI⟩ := hr
    exact ih (pre ++ [x]) b' (by simp [h]) hI

end Combinators

end Encode
end ControlPlane
