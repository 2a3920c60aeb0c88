import ControlPlane.Proofs.Encoding.Growth

/-!
# What the assertions of a context guarantee

`c.Ensures F` says that every model of the assertions of `c` has the property `F`. A context
that extends `c` ensures all that `c` does, so a property ensured at some point of an encoding
holds in every model of the assertions at its end.

`Encode.Hoare P x Q` is partial correctness: from a context satisfying `P`, a run of `x` that
succeeds returns a value that satisfies `Q` together with the context after it. A run that fails
satisfies every triple, so the properties proved this way are those of the encodings that
succeed. Steps compose by `bind`, loops over a list by an invariant over the part of the list
done (`Hoare.forIn`), and a step that extends its context keeps what the context ensures
(`Hoare.frame`).
-/

namespace ControlPlane

namespace Context

def Ensures (c : Context) (F : Model → Prop) : Prop :=
  ∀ m, m.Satisfies c.assertions.toList → F m

variable {c c' : Context} {F G : Model → Prop}

theorem ensures_true (c : Context) : c.Ensures fun _ => True := fun _ _ => trivial

theorem Ensures.mono (h : c.Ensures F) (hFG : ∀ m, F m → G m) : c.Ensures G :=
  fun m hm => hFG m (h m hm)

theorem Ensures.and (hF : c.Ensures F) (hG : c.Ensures G) : c.Ensures fun m => F m ∧ G m :=
  fun m hm => ⟨hF m hm, hG m hm⟩

theorem Ensures.extend (h : c.Ensures F) (hc : c.Extends c') : c'.Ensures F :=
  fun m hm => h m (hc.satisfies hm)

theorem Ensures.assert (h : c.Ensures F) (t : Term) :
    ((Build.assert t).run c).2.Ensures fun m => F m ∧ m.eval t = .ok (.bool true) := by
  intro m hm
  rw [Build.assertions_assert, Model.satisfies_append, Build.satisfies_asserted_iff] at hm
  exact ⟨h m hm.1, Model.eval_of_evalBool hm.2⟩

end Context

namespace Encode

/-- Partial correctness: from every context satisfying `P`, a run of `x` that succeeds returns a
value that, with the context after it, satisfies `Q`. -/
def Hoare {α : Type} (P : Context → Prop) (x : Encode α) (Q : α → Context → Prop) : Prop :=
  ∀ c, P c → ∀ a c', x.runOn c = (.ok a, c') → Q a c'

section Combinators

variable {α β γ : Type} {P P' : Context → Prop} {Q Q' : α → Context → Prop} {F : Model → Prop}

theorem Hoare.pure {a : α} (h : ∀ c, P c → Q a c) : Hoare P (Pure.pure a) Q := by
  intro c hc b c' hr
  cases hr
  exact h c hc

theorem Hoare.bind {x : Encode α} {f : α → Encode β} {R : β → Context → Prop} (hx : Hoare P x Q)
    (hf : ∀ a, Hoare (Q a) (f a) R) : Hoare P (x >>= f) R := by
  intro c hc b c'' hr
  rw [runOn_bind] at hr
  rcases hrun : x.runOn c with ⟨_ | a, c'⟩
  · simp [hrun] at hr
  · simp only [hrun] at hr
    exact hf a c' (hx c hc a c' hrun) b c'' hr

theorem Hoare.mono {x : Encode α} (hx : Hoare P x Q) (hP : ∀ c, P' c → P c)
    (hQ : ∀ a c, Q a c → Q' a c) : Hoare P' x Q' :=
  fun c hc a c' hr => hQ a c' (hx c (hP c hc) a c' hr)

theorem Hoare.assume {A : Prop} {x : Encode α} (h : A → Hoare P x Q) :
    Hoare (fun c => A ∧ P c) x Q :=
  fun c hc => h hc.1 c hc.2

theorem Hoare.lift {x : Build α} (h : Build.Triple P x Q) : Hoare P (liftM x) Q := by
  intro c hc a c' hr
  cases hr
  exact h c hc

theorem Hoare.throw {e : EncodingError} : Hoare P (MonadExcept.throw e : Encode α) Q := by
  intro c _ a c' hr
  cases hr

theorem Hoare.need {e : EncodingError} {o : Option α} :
    Hoare P (Encode.need e o) fun a c => o = some a ∧ P c := by
  cases o with
  | none => exact Hoare.throw
  | some b => exact Hoare.pure fun c hc => ⟨rfl, hc⟩

theorem Hoare.liftExcept {y : Except EncodingError α} :
    Hoare P (liftM y : Encode α) fun a c => y = .ok a ∧ P c := by
  cases y with
  | error e => exact Hoare.throw
  | ok b => exact Hoare.pure fun c hc => ⟨rfl, hc⟩

theorem Hoare.liftNetwork {y : Except NetworkError α} :
    Hoare P (liftM y : Encode α) fun a c => y = .ok a ∧ P c := by
  intro c hc a c' hr
  cases y with
  | error e => cases hr
  | ok b =>
    cases hr
    exact ⟨rfl, hc⟩

theorem Hoare.frame {x : Encode α} (hx : Grows x) :
    Hoare (fun c => c.Ensures F) x fun _ c => c.Ensures F := by
  intro c hc a c' hr
  have h := hx c
  rw [hr] at h
  exact hc.extend h

theorem Hoare.build {x : Build α} {R : α → Prop} (hg : Build.Grows x) (hb : Build.Builds x R) :
    Hoare (fun c => c.Ensures F) (liftM x) fun a c => R a ∧ c.Ensures F :=
  Hoare.lift fun c hc => ⟨hb c, hc.extend (hg c)⟩

theorem Hoare.assert (t : Term) :
    Hoare (fun c => c.Ensures F) (liftM (Build.assert t))
      fun _ c => c.Ensures fun m => F m ∧ m.eval t = .ok (.bool true) :=
  Hoare.lift fun _ hc => hc.assert t

/-- A loop over a list whose passes go on: an invariant over the part of the list done, kept by
each pass that succeeds, holds when the loop succeeds. -/
theorem Hoare.forIn {xs : List γ} {init : β} {f : γ → β → Encode (ForInStep β)}
    (I : List γ → β → Context → Prop)
    (hf : ∀ pre x post b, xs = pre ++ x :: post →
      Hoare (I pre b) (f x b) fun r c => ∃ b', r = .yield b' ∧ I (pre ++ [x]) b' c) :
    Hoare (I [] init) (ForIn.forIn xs init f) (I xs) := by
  -- the loop from any point on: induction on the part of the list still to do
  suffices h : ∀ post pre b, xs = pre ++ post → Hoare (I pre b) (ForIn.forIn post b f) (I xs) from
    h xs [] init rfl
  intro post
  induction post with
  | nil =>
    intro pre b h
    exact Hoare.pure fun c hc => by simpa [h] using hc
  | cons x post ih =>
    intro pre b h
    rw [List.forIn_cons]
    refine Hoare.bind (hf pre x post b h) fun r => ?_
    refine fun c hc => ?_
    obtain ⟨b', rfl, hI⟩ := hc
    exact ih (pre ++ [x]) b' (by simp [h]) c hI

theorem Hoare.frame_bind {x : Encode α} {f : α → Encode β} {Q : β → Context → Prop} (hx : Grows x)
    (hf : ∀ a, Hoare (fun c => c.Ensures F) (f a) Q) : Hoare (fun c => c.Ensures F) (x >>= f) Q :=
  Hoare.bind (Hoare.frame hx) hf

theorem Hoare.build_bind {x : Build α} {R : α → Prop} {f : α → Encode β} {Q : β → Context → Prop}
    (hg : Build.Grows x) (hb : Build.Builds x R) (hf : ∀ a, R a → Hoare (fun c => c.Ensures F) (f a) Q) :
    Hoare (fun c => c.Ensures F) (liftM x >>= f) Q :=
  Hoare.bind (Hoare.build hg hb) fun a => Hoare.assume (hf a)

theorem Hoare.assert_bind {t : Term} {f : Unit → Encode β} {Q : β → Context → Prop}
    (hf : Hoare (fun c => c.Ensures fun m => F m ∧ m.eval t = .ok (.bool true)) (f ()) Q) :
    Hoare (fun c => c.Ensures F) (liftM (Build.assert t) >>= f) Q :=
  Hoare.bind (Hoare.assert t) fun _ => hf

/-- A loop whose passes each keep what the context ensures and add a fact about their element:
after the loop the context ensures the fact of every element. -/
theorem Hoare.forIn_each {xs : List γ} {f : γ → PUnit → Encode (ForInStep PUnit)}
    {G : γ → Model → Prop}
    (hf : ∀ x ∈ xs, ∀ F, Hoare (fun c => c.Ensures F) (f x ⟨⟩)
      fun r c => r = .yield ⟨⟩ ∧ c.Ensures fun m => F m ∧ G x m) (F : Model → Prop) :
    Hoare (fun c => c.Ensures F) (ForIn.forIn xs ⟨⟩ f)
      fun _ c => c.Ensures fun m => F m ∧ ∀ x ∈ xs, G x m := by
  -- the invariant: the facts of the elements done
  refine Hoare.mono (Hoare.forIn (fun pre _ c => c.Ensures fun m => F m ∧ ∀ x ∈ pre, G x m)
    fun pre x post _ hxs => ?_) (fun c hc => hc.mono fun m hm => ⟨hm, by simp⟩) fun _ _ h => h
  have hx : x ∈ xs := by simp [hxs]
  refine Hoare.mono (hf x hx _) (fun c hc => hc) fun r c ⟨hr, hc⟩ => ⟨⟨⟩, hr, hc.mono ?_⟩
  rintro m ⟨⟨hF, hpre⟩, hG⟩
  refine ⟨hF, fun y hy => ?_⟩
  rcases List.mem_append.1 hy with hy | hy
  · exact hpre y hy
  · rw [List.mem_singleton.1 hy]
    exact hG

end Combinators

end Encode
end ControlPlane
