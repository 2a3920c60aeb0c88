import ControlPlane.Proofs.Smt.Frame
import ControlPlane.Proofs.Smt.Builder

/-!
# Specifications of encoding steps

`Encode.Spec P x Q` says that from every context satisfying `P` the step `x` succeeds, and its
value together with the context after it satisfy `Q`. Steps compose by `bind`, loops over a
list by an invariant over the part of the list already done (`Spec.forIn`). Building a term
only draws node numbers: `Build.Keeps` says that a builder leaves the registered variables and
the assertions as they are, and each term builder of the encoder has it.
-/

namespace ControlPlane

def Model.Satisfies (m : Model) (as : List Term) : Prop := ∀ a ∈ as, m.evalBool a = .ok true

theorem Model.satisfies_append {m : Model} {as bs : List Term} :
    m.Satisfies (as ++ bs) ↔ m.Satisfies as ∧ m.Satisfies bs := by
  simp only [Model.Satisfies, List.mem_append, or_imp, forall_and]

namespace Build

/-- Running the step leaves the registered variables and the assertions of every context as
they are. -/
def Keeps {α : Type} (x : Build α) : Prop :=
  ∀ c, (x.run c).2.vars = c.vars ∧ (x.run c).2.index = c.index ∧
    (x.run c).2.assertions = c.assertions

theorem keeps_node {β : Type} (g : Nat → β) : Keeps (do let n ← fresh; pure (g n)) :=
  fun _ => ⟨rfl, rfl, rfl⟩

theorem keeps_neg (a : Term) : Keeps (neg a) := keeps_node _
theorem keeps_allOf (ts : List Term) : Keeps (allOf ts) := keeps_node _
theorem keeps_anyOf (ts : List Term) : Keeps (anyOf ts) := keeps_node _
theorem keeps_both (a b : Term) : Keeps (both a b) := keeps_node _
theorem keeps_either (a b : Term) : Keeps (either a b) := keeps_node _
theorem keeps_implies (a b : Term) : Keeps (implies a b) := keeps_node _
theorem keeps_cond (c a b : Term) : Keeps (cond c a b) := keeps_node _
theorem keeps_equals (a b : Term) : Keeps (equals a b) := keeps_node _
theorem keeps_lt (a b : Term) : Keeps (lt a b) := keeps_node _
theorem keeps_gt (a b : Term) : Keeps (gt a b) := keeps_node _
theorem keeps_le (a b : Term) : Keeps (le a b) := keeps_node _
theorem keeps_ge (a b : Term) : Keeps (ge a b) := keeps_node _

theorem Keeps.pure {α : Type} {a : α} : Keeps (Pure.pure a : Build α) := fun _ => ⟨rfl, rfl, rfl⟩

theorem Keeps.bind {α β : Type} {x : Build α} {f : α → Build β} (hx : Keeps x)
    (hf : ∀ a, Keeps (f a)) : Keeps (x >>= f) := fun c =>
  let h := hf (x.run c).1 (x.run c).2
  ⟨h.1.trans (hx c).1, h.2.1.trans (hx c).2.1, h.2.2.trans (hx c).2.2⟩

theorem Keeps.mapM {α β : Type} {f : α → Build β} (hf : ∀ a, Keeps (f a)) :
    ∀ {xs : List α}, Keeps (xs.mapM f)
  | [] => Keeps.pure
  | x :: xs => by
    rw [List.mapM_cons]
    exact (hf x).bind fun _ => (Keeps.mapM hf).bind fun _ => Keeps.pure

theorem builds_equals_bool {m : Model} {a b : Term} {x y : Bool} (ha : m.eval a = .ok (.bool x))
    (hb : m.eval b = .ok (.bool y)) : Builds (equals a b) fun t => m.eval t = .ok (.bool (x == y)) :=
  fun c => Term.eval_mkEq_bool c.nextNode ha hb

theorem assertions_mkVar (n : String) (s : TermSort) (c : Context) :
    ((mkVar n s).run c).2.assertions = c.assertions := by
  cases h : c.lookupVar n with
  | none => rw [mkVar_run_new h]
  | some v => simp [mkVar, h]; rfl

theorem FreshUnder.mono {pre : String} {used used' : List String} {c : Context}
    (h : FreshUnder pre used c) (hs : used ⊆ used') : FreshUnder pre used' c :=
  fun k hk => h k fun hu => hk (hs hu)

theorem FreshUnder.of_index_eq {pre : String} {used : List String} {c c' : Context}
    (h : FreshUnder pre used c) (he : c'.index = c.index) : FreshUnder pre used c' :=
  fun k hk => he ▸ h k hk

theorem FreshUnder.mkVar_apart {pre n : String} {used : List String} {c : Context}
    (h : FreshUnder pre used c) (hn : ∀ k, n ≠ pre ++ k) (s : TermSort) :
    FreshUnder pre used ((mkVar n s).run c).2 := by
  cases hl : c.lookupVar n with
  | none =>
    rw [mkVar_run_new hl]
    intro k hk
    simp [Std.HashMap.getElem?_insert, hn k, h k hk]
  | some v =>
    have hc : ((mkVar n s).run c).2 = c := by simp [mkVar, hl]; rfl
    rw [hc]
    exact h

def asserted (t : Term) : List Term := if t.isTrue then [] else [t]

theorem assert_run (t : Term) (c : Context) :
    ((assert t).run c).2 = if t.isTrue then c else { c with assertions := c.assertions.push t } := by
  simp only [assert]
  split <;> rfl

theorem assertions_assert (t : Term) (c : Context) :
    ((assert t).run c).2.assertions.toList = c.assertions.toList ++ asserted t := by
  rw [assert_run, asserted]
  split <;> simp

theorem index_assert (t : Term) (c : Context) : ((assert t).run c).2.index = c.index := by
  rw [assert_run]
  split <;> rfl

section Triples

variable {α β : Type} {P : Context → Prop} {Q : α → Context → Prop}

theorem Triple.pure {a : α} (h : ∀ c, P c → Q a c) : Triple P (Pure.pure a) Q := h

theorem Triple.bind {x : Build α} {f : α → Build β} {R : β → Context → Prop} (hx : Triple P x Q)
    (hf : ∀ a, Triple (Q a) (f a) R) : Triple P (x >>= f) R :=
  fun c hc => hf _ _ (hx c hc)

theorem Triple.mono {P' : Context → Prop} {Q' : α → Context → Prop} {x : Build α}
    (hx : Triple P x Q) (hP : ∀ c, P' c → P c) (hQ : ∀ a c, Q a c → Q' a c) : Triple P' x Q' :=
  fun c hc => hQ _ _ (hx c (hP c hc))

theorem Triple.assume {A : Prop} {x : Build α} (h : A → Triple P x Q) :
    Triple (fun c => A ∧ P c) x Q :=
  fun c hc => h hc.1 c hc.2

theorem Triple.of_exists {ι : Type} {P : ι → Context → Prop} {x : Build α}
    (h : ∀ i, Triple (P i) x Q) : Triple (fun c => ∃ i, P i c) x Q :=
  fun c hc => hc.elim fun i hi => h i c hi

/-- A term builder that keeps variables and assertions, whose term has a known value under
every model of a family. -/
theorem Triple.term {x : Build Term} {G : Model → Prop} {v : Model → Value} {as : List Term}
    (hk : Keeps x) (hb : ∀ m, G m → Builds x fun t => m.eval t = .ok (v m)) :
    Triple (fun c => c.assertions.toList = as) x
      fun t c => (∀ m, G m → m.eval t = .ok (v m)) ∧ c.assertions.toList = as :=
  fun c hc => ⟨fun m hm => hb m hm c, by rw [(hk c).2.2, hc]⟩

/-- Registering a name of a fresh family gives a new variable, keeps the rest of the family
fresh, and keeps a fact `F` that registering the name keeps. -/
theorem Triple.mkVar_fresh {pre k : String} {used : List String} {F : Context → Prop}
    (hk : k ∉ used) (s : TermSort) (hF : ∀ c, F c → F ((mkVar (pre ++ k) s).run c).2) :
    Triple (fun c => FreshUnder pre used c ∧ F c) (mkVar (pre ++ k) s)
      fun v c => v = .var (pre ++ k) s ∧ FreshUnder pre (k :: used) c ∧ F c :=
  fun c hc =>
    let h := triple_mkVar_fresh hk s c hc.1
    ⟨h.1, h.2, hF c hc.2⟩

theorem Triple.term_frame {x : Build Term} {G : Model → Prop} {v : Model → Value} {as : List Term}
    {F : Context → Prop} (hF : ∀ c c', c'.index = c.index → F c → F c') (hk : Keeps x)
    (hb : ∀ m, G m → Builds x fun t => m.eval t = .ok (v m)) :
    Triple (fun c => F c ∧ c.assertions.toList = as) x
      fun t c => (∀ m, G m → m.eval t = .ok (v m)) ∧ F c ∧ c.assertions.toList = as :=
  fun c hc => ⟨fun m hm => hb m hm c, hF c _ (hk c).2.1 hc.1, by rw [(hk c).2.2, hc.2]⟩

theorem Triple.assert_frame {t : Term} {as : List Term} {F : Context → Prop}
    (hF : ∀ c c', c'.index = c.index → F c → F c') :
    Triple (fun c => F c ∧ c.assertions.toList = as) (assert t)
      fun _ c => F c ∧ c.assertions.toList = as ++ asserted t :=
  fun c hc => ⟨hF c _ (index_assert t c) hc.1, by rw [assertions_assert, hc.2]⟩

theorem Triple.assert {t : Term} {as : List Term} :
    Triple (fun c => c.assertions.toList = as) (assert t)
      fun _ c => c.assertions.toList = as ++ asserted t :=
  fun c hc => (assertions_assert t c).trans (congrArg (· ++ asserted t) hc)

/-- A loop over a list: an invariant over the part of the list done, kept by each pass, holds
when the loop ends. -/
theorem Triple.forIn {xs : List α} {init : β} {f : α → β → Build (ForInStep β)}
    (I : List α → β → Context → Prop)
    (hf : ∀ pre x post b, xs = pre ++ x :: post →
      Triple (I pre b) (f x b) fun r c => ∃ b', r = .yield b' ∧ I (pre ++ [x]) b' c) :
    Triple (I [] init) (ForIn.forIn xs init f) (I xs) := by
  suffices h : ∀ post pre b, xs = pre ++ post → Triple (I pre b) (ForIn.forIn post b f) (I xs) from
    h xs [] init rfl
  intro post
  induction post with
  | nil =>
    intro pre b h
    exact Triple.pure fun c hc => by simpa [h] using hc
  | cons x post ih =>
    intro pre b h
    rw [List.forIn_cons]
    refine Triple.bind (hf pre x post b h) fun r c hc => ?_
    obtain ⟨b', rfl, hI⟩ := hc
    exact ih (pre ++ [x]) b' (by simp [h]) c hI

end Triples

theorem satisfies_asserted_iff {m : Model} (t : Term) :
    m.Satisfies (asserted t) ↔ m.evalBool t = .ok true := by
  unfold asserted Model.Satisfies
  split
  · next h =>
    cases Term.eq_of_asBool? (by simpa [Term.isTrue] using h)
    simp [Model.evalBool, Model.eval, bind, Except.bind, pure, Except.pure]
  · simp

end Build

namespace Encode

/-- From every context satisfying `P`, the step succeeds, and its value with the context after
it satisfy `Q`. -/
def Spec {α : Type} (P : Context → Prop) (x : Encode α) (Q : α → Context → Prop) : Prop :=
  ∀ c, P c → ∃ a, (x.runOn c).1 = .ok a ∧ Q a (x.runOn c).2

section Combinators

variable {α β : Type} {P P' : Context → Prop} {Q Q' : α → Context → Prop}

theorem Spec.pure {a : α} (h : ∀ c, P c → Q a c) : Spec P (Pure.pure a) Q :=
  fun c hc => ⟨a, rfl, h c hc⟩

theorem Spec.bind {x : Encode α} {f : α → Encode β} {R : β → Context → Prop} (hx : Spec P x Q)
    (hf : ∀ a, Spec (Q a) (f a) R) : Spec P (x >>= f) R := by
  intro c hc
  obtain ⟨a, ha, hQ⟩ := hx c hc
  rw [runOn_bind]
  rcases hrun : x.runOn c with ⟨r, c'⟩
  rw [hrun] at ha hQ
  cases ha
  exact hf a c' hQ

theorem Spec.mono {x : Encode α} (hx : Spec P x Q) (hP : ∀ c, P' c → P c)
    (hQ : ∀ a c, Q a c → Q' a c) : Spec P' x Q' := fun c hc =>
  let ⟨a, ha, h⟩ := hx c (hP c hc)
  ⟨a, ha, hQ a _ h⟩

theorem Spec.lift {x : Build α} (h : Build.Triple P x Q) : Spec P (liftM x) Q :=
  fun c hc => ⟨_, rfl, h c hc⟩

/-- A builder that keeps variables and assertions, and whose every value satisfies `R`, keeps a
condition on the assertions. -/
theorem Spec.keeps {x : Build α} {R : α → Prop} {as : List Term} (hk : Build.Keeps x)
    (hb : Build.Builds x R) :
    Spec (fun c => c.assertions.toList = as) (liftM x) fun a c => R a ∧ c.assertions.toList = as :=
  Spec.lift fun c hc => ⟨hb c, by rw [(hk c).2.2, hc]⟩

theorem Spec.assume {A : Prop} {x : Encode α} (h : A → Spec P x Q) : Spec (fun c => A ∧ P c) x Q :=
  fun c hc => h hc.1 c hc.2

theorem Spec.of_exists {ι : Type} {P : ι → Context → Prop} {x : Encode α} (h : ∀ i, Spec (P i) x Q) :
    Spec (fun c => ∃ i, P i c) x Q :=
  fun c hc => hc.elim fun i hi => h i c hi

/-- A term builder that keeps variables and assertions, whose term has a known value under
every model of a family. -/
theorem Spec.term {x : Build Term} {G : Model → Prop} {v : Model → Value} {as : List Term}
    (hk : Build.Keeps x) (hb : ∀ m, G m → Build.Builds x fun t => m.eval t = .ok (v m)) :
    Spec (fun c => c.assertions.toList = as) (liftM x)
      fun t c => (∀ m, G m → m.eval t = .ok (v m)) ∧ c.assertions.toList = as :=
  Spec.keeps hk fun c m hm => hb m hm c

/-- Registering a name of a fresh family gives a new variable, keeps the rest of the family
fresh, and adds no assertion. -/
theorem Spec.mkVar_fresh {pre k : String} {used : List String} {as : List Term} (hk : k ∉ used)
    (s : TermSort) :
    Spec (fun c => Build.FreshUnder pre used c ∧ c.assertions.toList = as)
      (liftM (Build.mkVar (pre ++ k) s))
      fun v c => v = .var (pre ++ k) s ∧ Build.FreshUnder pre (k :: used) c ∧ c.assertions.toList = as :=
  Spec.lift fun c hc =>
    let h := Build.triple_mkVar_fresh hk s c hc.1
    ⟨h.1, h.2, by rw [Build.assertions_mkVar, hc.2]⟩

theorem Spec.assert {t : Term} {as : List Term} :
    Spec (fun c => c.assertions.toList = as) (liftM (Build.assert t))
      fun _ c => c.assertions.toList = as ++ Build.asserted t :=
  Spec.lift fun c hc => by rw [Build.assertions_assert, hc]

theorem Spec.liftOk {x : Except EncodingError α} {a : α} (h : x = .ok a) :
    Spec P (liftM x) fun b c => b = a ∧ P c := by
  subst h
  exact fun _ hc => ⟨a, rfl, rfl, hc⟩

theorem Spec.need {a : α} {e : EncodingError} :
    Spec P (Encode.need e (some a)) fun b c => b = a ∧ P c :=
  fun _ hc => ⟨a, rfl, rfl, hc⟩

/-- A loop over a list whose body always goes on: an invariant over the part of the list done,
kept by each pass, holds when the loop ends. -/
theorem Spec.forIn {xs : List α} {init : β} {f : α → β → Encode (ForInStep β)}
    (I : List α → β → Context → Prop)
    (hf : ∀ pre x post b, xs = pre ++ x :: post →
      Spec (I pre b) (f x b) fun r c => ∃ b', r = .yield b' ∧ I (pre ++ [x]) b' c) :
    Spec (I [] init) (ForIn.forIn xs init f) (I xs) := by
  -- the loop from any point on: induction on the part of the list still to do
  suffices h : ∀ post pre b, xs = pre ++ post → Spec (I pre b) (ForIn.forIn post b f) (I xs) from
    h xs [] init rfl
  intro post
  induction post with
  | nil =>
    intro pre b h
    exact Spec.pure fun c hc => by simpa [h] using hc
  | cons x post ih =>
    intro pre b h
    rw [List.forIn_cons]
    refine Spec.bind (hf pre x post b h) fun r c hc => ?_
    obtain ⟨b', rfl, hI⟩ := hc
    exact ih (pre ++ [x]) b' (by simp [h]) c hI

end Combinators

end Encode
end ControlPlane
