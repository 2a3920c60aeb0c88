import ControlPlane.Proofs.Check.Load
import ControlPlane.Encoding.Encoder

/-!
# The failure budget

Every link that can fail, and every router, has an integer indicator. `addFailedConstraints k`
asserts `0 ≤ v ≤ 1` for every indicator the budget counts and bounds their sum by `k`; without
node failures it pins every router indicator to `0`, and with `k = 0` every counted indicator.

In every model of what it asserts each indicator is `0` or `1`, all of them are `0` when `k = 0`,
and at most `k` of the counted ones are `1` (`Encoder.addFailedConstraints_spec`). The sum is
built with the saturating addition of the term library, so the count is exact only below the
64-bit bound; hence the hypothesis that there are fewer indicators than that.
-/

namespace ControlPlane

namespace Model

def isOne (m : Model) (t : Term) : Bool := (m.eval t).toOption == some (.int 1)

def IsBit (m : Model) (t : Term) : Prop := m.eval t = .ok (.int 0) ∨ m.eval t = .ok (.int 1)

theorem isOne_iff {m : Model} {t : Term} : m.isOne t = true ↔ m.eval t = .ok (.int 1) := by
  unfold isOne
  cases m.eval t <;> simp [Except.toOption]

end Model

namespace Term

variable {m : Model}

theorem exists_le_of_eval_mkLe {a : Term} {c : Int} (n : Nat)
    (h : m.eval (mkLe n a (.int c)) = .ok (.bool true)) : ∃ x, m.eval a = .ok (.int x) ∧ x ≤ c := by
  unfold mkLe at h
  split at h
  · next _ _ h1 h2 =>
    cases eq_of_asInt? h1
    cases eq_of_asInt? h2
    exact ⟨_, rfl, by simpa [Model.eval] using h⟩
  · split at h
    · next hsame => cases eq_of_same hsame; exact ⟨c, rfl, le_refl c⟩
    · cases ha : m.eval a with
      | error e => simp [Model.eval, ha, bind, Except.bind] at h
      | ok v =>
        cases v <;> simp_all [Model.eval, Model.asInt, bind, Except.bind, pure, Except.pure]

theorem exists_ge_of_eval_mkLe {b : Term} {c : Int} (n : Nat)
    (h : m.eval (mkLe n (.int c) b) = .ok (.bool true)) : ∃ y, m.eval b = .ok (.int y) ∧ c ≤ y := by
  unfold mkLe at h
  split at h
  · next _ _ h1 h2 =>
    cases eq_of_asInt? h1
    cases eq_of_asInt? h2
    exact ⟨_, rfl, by simpa [Model.eval] using h⟩
  · split at h
    · next hsame => cases eq_of_same hsame; exact ⟨c, rfl, le_refl c⟩
    · cases hb : m.eval b with
      | error e => simp [Model.eval, hb, Model.asInt, bind, Except.bind] at h
      | ok v =>
        cases v <;> simp_all [Model.eval, Model.asInt, bind, Except.bind, pure, Except.pure]

theorem eval_of_eval_mkEq_int {a : Term} {c : Int} (n : Nat)
    (h : m.eval (mkEq n a (.int c)) = .ok (.bool true)) : m.eval a = .ok (.int c) := by
  unfold mkEq at h
  split at h
  · next hsame => rw [eq_of_same hsame]; rfl
  · split at h
    · simp [ff, Model.eval] at h
    · split at h
      · simp [Model.eval] at h
      · have := eval_of_eval_mkNot n h
        simp [Model.eval] at this
      · next hb _ _ => simp [asBool?] at hb
      · next hb _ _ => simp [asBool?] at hb
      · -- an equation node: both sides evaluate, to equal values
        cases ha : m.eval a with
        | error e => simp [Model.eval, ha, bind, Except.bind] at h
        | ok va =>
          rw [Model.eval_eq ha rfl] at h
          simp only [Except.ok.injEq, Value.bool.injEq, beq_iff_eq] at h
          rw [h]

theorem saturate_min_add_bit {c : Int} {x : Int} (hc : 0 ≤ c) (hx : x = 0 ∨ x = 1) :
    saturate (min c maxI64 + x) = min (c + x) maxI64 := by
  have hm : min x maxI64 = x := by unfold maxI64; omega
  rw [← Slice.saturate_min_add hc (by omega), hm]

end Term

theorem signedOfBits_mod_le (k : Nat) : signedOfBits (k % Nat.pow 2 64) ≤ k := by
  unfold signedOfBits
  have hk : k % Nat.pow 2 64 ≤ k := Nat.mod_le _ _
  split
  · exact_mod_cast hk
  · have : (0 : Int) ≤ Int.pow 2 64 := by decide
    omega

namespace Build

variable {α : Type}

theorem Triple.keeps {x : Build α} {F : List Term → Prop} {Φ : α → Prop} (hk : Keeps x)
    (hb : Builds x Φ) : Triple (fun c => F c.assertions.toList) x fun a c => Φ a ∧ F c.assertions.toList :=
  fun c hc => ⟨hb c, by rw [(hk c).2.2]; exact hc⟩

theorem Triple.assert_with {t : Term} {F G : List Term → Prop} (h : ∀ as, F as → G (as ++ asserted t)) :
    Triple (fun c => F c.assertions.toList) (Build.assert t) fun _ c => G c.assertions.toList :=
  fun c hc => by dsimp only; rw [assertions_assert]; exact h _ hc

def Asserted (F : List Term → Prop) (t : Term) (as : List Term) : Prop :=
  ∃ as', F as' ∧ as = as' ++ asserted t

theorem Triple.assert_node {β : Type} {x : Build Term} {k : Unit → Build β} {Φ : Term → Prop}
    {F : List Term → Prop} {R : β → Context → Prop} (hk : Keeps x) (hb : Builds x Φ)
    (h : ∀ t, Φ t → Triple (fun c => Asserted F t c.assertions.toList) (k ()) R) :
    Triple (fun c => F c.assertions.toList) (x >>= fun t => Build.assert t >>= k) R :=
  Triple.bind (Triple.keeps hk hb) fun t => Triple.assume fun ht =>
    Triple.bind (Triple.assert_with fun as hF => ⟨as, hF, rfl⟩) fun _ => h t ht

theorem builds_le_node (a b : Term) : Builds (le a b) fun t => ∃ n, t = Term.mkLe n a b :=
  fun c => ⟨c.nextNode, rfl⟩

theorem builds_plus_node (a b : Term) : Builds (plus a b) fun t => ∃ n, t = Term.mkAdd n a b :=
  fun c => ⟨c.nextNode, rfl⟩

theorem builds_equals_node (a b : Term) : Builds (equals a b) fun t => ∃ n, t = Term.mkEq n a b :=
  fun c => ⟨c.nextNode, rfl⟩

end Build

namespace Failures

def indicators (f : Failures) : List Term := f.allLinks ++ f.nodes.map (·.2)

end Failures

namespace Encoder

def budgeted (e : Encoder) : List Term :=
  if e.question.failNodeQuery then e.failures.indicators else e.failures.allLinks

open Build

/-- The assertions `as` extend `as0` by assertions whose models give every term of `vs` the
integer `0`. -/
def Pinned (as0 vs as : List Term) : Prop :=
  ∃ new, as = as0 ++ new ∧ ∀ m : Model, m.Satisfies new → ∀ v ∈ vs, m.eval v = .ok (.int 0)

/-- The assertions `as` extend `as0` by assertions whose models make every term of `vs` a bit
and give `sum` the number of ones among them, capped at the 64-bit bound. -/
def Bounded (as0 vs : List Term) (sum : Term) (as : List Term) : Prop :=
  ∃ new, as = as0 ++ new ∧ ∀ m : Model, m.Satisfies new →
    (∀ v ∈ vs, m.IsBit v) ∧ m.eval sum = .ok (.int (min (vs.countP m.isOne : Int) Term.maxI64))

theorem Pinned.nil (as0 : List Term) : Pinned as0 [] as0 := ⟨[], by simp, by simp⟩

theorem Pinned.snoc {as0 vs as : List Term} (h : Pinned as0 vs as) (v : Term) (n : Nat) :
    Pinned as0 (vs ++ [v]) (as ++ asserted (Term.mkEq n v (.int 0))) := by
  obtain ⟨new, rfl, hnew⟩ := h
  refine ⟨new ++ asserted (Term.mkEq n v (.int 0)), by simp, fun m hm => ?_⟩
  rw [Model.satisfies_append, satisfies_asserted_iff] at hm
  intro w hw
  rcases List.mem_append.1 hw with hw | hw
  · exact hnew m hm.1 w hw
  · rw [List.mem_singleton.1 hw]
    exact Term.eval_of_eval_mkEq_int n (Model.eval_of_evalBool hm.2)

theorem Bounded.nil (as0 : List Term) : Bounded as0 [] (.int 0) as0 :=
  ⟨[], by simp, fun _ _ => ⟨by simp, by simp [Model.eval, Term.maxI64]⟩⟩

theorem Bounded.snoc {as0 vs as : List Term} {sum : Term} (h : Bounded as0 vs sum as) (v : Term)
    (n1 n2 n3 : Nat) :
    Bounded as0 (vs ++ [v]) (Term.mkAdd n3 sum v)
      (as ++ asserted (Term.mkLe n1 (.int 0) v) ++ asserted (Term.mkLe n2 v (.int 1))) := by
  obtain ⟨new, rfl, hnew⟩ := h
  refine ⟨new ++ asserted (Term.mkLe n1 (.int 0) v) ++ asserted (Term.mkLe n2 v (.int 1)),
    by simp, fun m hm => ?_⟩
  simp only [Model.satisfies_append, satisfies_asserted_iff] at hm
  obtain ⟨⟨hold, hlo⟩, hhi⟩ := hm
  obtain ⟨hbits, hsum⟩ := hnew m hold
  obtain ⟨y, hy, hy0⟩ := Term.exists_ge_of_eval_mkLe n1 (Model.eval_of_evalBool hlo)
  obtain ⟨x, hx, hx1⟩ := Term.exists_le_of_eval_mkLe n2 (Model.eval_of_evalBool hhi)
  have hxy : x = y := by simpa using hx.symm.trans hy
  -- the new indicator is a bit, and it is one exactly when `x = 1`
  have hbit : x = 0 ∨ x = 1 := by omega
  have hone : ((if m.isOne v = true then 1 else 0 : Nat) : Int) = x := by
    rcases hbit with rfl | rfl <;> simp [Model.isOne_iff, hx]
  have hc : (0 : Int) ≤ vs.countP m.isOne := Int.natCast_nonneg _
  refine ⟨fun w hw => ?_, ?_⟩
  · rcases List.mem_append.1 hw with hw | hw
    · exact hbits w hw
    · rw [List.mem_singleton.1 hw]
      rcases hbit with rfl | rfl
      · exact .inl hx
      · exact .inr hx
  · have hrange : Term.minI64 ≤ min (vs.countP m.isOne : Int) Term.maxI64 ∧
        min (vs.countP m.isOne : Int) Term.maxI64 ≤ Term.maxI64 := by
      unfold Term.minI64 Term.maxI64; omega
    have hxr : Term.minI64 ≤ x ∧ x ≤ Term.maxI64 := by unfold Term.minI64 Term.maxI64; omega
    rw [Term.eval_mkAdd n3 hsum hx hrange hxr, Term.saturate_min_add_bit hc hbit,
      List.countP_append, List.countP_singleton, Int.natCast_add, hone]

theorem Pinned.append {as0 as1 as : List Term} {vs ws : List Term} (h0 : Pinned as0 vs as1)
    (h1 : Pinned as1 ws as) : Pinned as0 (vs ++ ws) as := by
  obtain ⟨new0, rfl, hnew0⟩ := h0
  obtain ⟨new1, rfl, hnew1⟩ := h1
  refine ⟨new0 ++ new1, by simp, fun m hm => ?_⟩
  rw [Model.satisfies_append] at hm
  intro v hv
  rcases List.mem_append.1 hv with hv | hv
  · exact hnew0 m hm.1 v hv
  · exact hnew1 m hm.2 v hv

/-- What the budget asserts for the indicators `vs`: the assertions `as` extend `as0` by
assertions whose models make every indicator a bit, all of them `0` when `k = 0`, and at most
`k` of them `1`. -/
def Budget (k : Nat) (as0 vs as : List Term) : Prop :=
  ∃ new, as = as0 ++ new ∧ ∀ m : Model, m.Satisfies new →
    (∀ v ∈ vs, m.IsBit v) ∧ (k = 0 → ∀ v ∈ vs, m.eval v = .ok (.int 0)) ∧
      ((vs.length : Int) ≤ Term.maxI64 → vs.countP m.isOne ≤ k)

theorem Budget.of_pinned {as0 as1 as vs : List Term} {sum : Term} (hb : Bounded as0 vs sum as1)
    (hp : Pinned as1 vs as) : Budget 0 as0 vs as := by
  obtain ⟨new0, rfl, hnew0⟩ := hb
  obtain ⟨new1, rfl, hnew1⟩ := hp
  refine ⟨new0 ++ new1, by simp, fun m hm => ?_⟩
  rw [Model.satisfies_append] at hm
  have hzero := hnew1 m hm.2
  refine ⟨(hnew0 m hm.1).1, fun _ => hzero, fun _ => ?_⟩
  refine Nat.le_zero.2 (List.countP_eq_zero.2 fun v hv hone => ?_)
  cases (Model.isOne_iff.1 hone).symm.trans (hzero v hv)

/-- Bounding the capped count of ones by the budget's last bound meets the budget, as long as
the count cannot reach the cap. -/
theorem Budget.of_bound {k n : Nat} {as0 as1 vs : List Term} {sum : Term}
    (hb : Bounded as0 vs sum as1) (hk : k ≠ 0) :
    Budget k as0 vs (as1 ++ asserted (Term.mkLe n sum (.int (signedOfBits (k % Nat.pow 2 64))))) := by
  obtain ⟨new, rfl, hnew⟩ := hb
  refine ⟨new ++ asserted (Term.mkLe n sum (.int (signedOfBits (k % Nat.pow 2 64)))), by simp,
    fun m hm => ?_⟩
  rw [Model.satisfies_append, satisfies_asserted_iff] at hm
  obtain ⟨hbits, hsum⟩ := hnew m hm.1
  refine ⟨hbits, fun h => absurd h hk, fun hlen => ?_⟩
  obtain ⟨x, hx, hxk⟩ := Term.exists_le_of_eval_mkLe n (Model.eval_of_evalBool hm.2)
  have hx' : x = min (vs.countP m.isOne : Int) Term.maxI64 := by simpa using hx.symm.trans hsum
  have hcount : (vs.countP m.isOne : Int) ≤ vs.length := by exact_mod_cast List.countP_le_length
  have := signedOfBits_mod_le k
  omega

/-- What a model of the budget's assertions satisfies: every indicator is a bit, no router fails
unless routers may, nothing fails without a budget, and at most `k` counted indicators fail. -/
structure MeetsBudget (e : Encoder) (k : Nat) (m : Model) : Prop where
  bits : ∀ t ∈ e.failures.indicators, m.IsBit t
  nodes_up : e.question.failNodeQuery = false →
    ∀ t ∈ e.failures.nodes.map (·.2), m.eval t = .ok (.int 0)
  none_failed : k = 0 → ∀ t ∈ e.failures.indicators, m.eval t = .ok (.int 0)
  within : (e.budgeted.length : Int) ≤ Term.maxI64 → e.budgeted.countP m.isOne ≤ k

theorem addFailedConstraints_spec (e : Encoder) (k : Nat) (c : Context) :
    ∃ new, ((e.addFailedConstraints k).run c).2.assertions.toList = c.assertions.toList ++ new ∧
      ∀ m : Model, m.Satisfies new → e.MeetsBudget k m := by
  suffices h : Triple (fun c' => c'.assertions.toList = c.assertions.toList) (e.addFailedConstraints k)
      fun _ c' => ∃ new, c'.assertions.toList = c.assertions.toList ++ new ∧
        ∀ m : Model, m.Satisfies new → e.MeetsBudget k m from h c rfl
  unfold addFailedConstraints
  extract_lets zero one links jp
  -- the join point meets the budget for whichever indicators it is given
  have hjp : ∀ as0 vs, Triple (fun c => c.assertions.toList = as0) (jp () vs)
      fun _ c => Budget k as0 vs c.assertions.toList := by
    intro as0 vs
    refine Triple.bind (Triple.mono (Triple.forIn (fun pre sum c => Bounded as0 pre sum
      c.assertions.toList) ?step) (fun c hc => hc ▸ Bounded.nil as0) fun _ _ h => h) fun sum => ?_
    case step =>
      intro pre v _ sum _
      refine Triple.assert_node (keeps_ge v zero) (builds_le_node zero v) fun t1 ht1 => ?_
      refine Triple.assert_node (keeps_le v one) (builds_le_node v one) fun t2 ht2 => ?_
      refine Triple.bind (Triple.keeps (keeps_plus sum v) (builds_plus_node sum v)) fun t3 =>
        Triple.assume fun ht3 => Triple.pure fun c hc => ⟨_, rfl, ?_⟩
      obtain ⟨n1, rfl⟩ := ht1
      obtain ⟨n2, rfl⟩ := ht2
      obtain ⟨n3, rfl⟩ := ht3
      obtain ⟨_, ⟨as, h, rfl⟩, hc⟩ := hc
      rw [hc]
      exact h.snoc v n1 n2 n3
    dsimp only
    split
    · -- a budget of `0`: every indicator is pinned
      next hk =>
      have hk : k = 0 := by simpa using hk
      subst hk
      refine Triple.bind (Triple.mono (Triple.forIn (fun pre _ c => ∃ as1, Bounded as0 vs sum as1 ∧
        Pinned as1 pre c.assertions.toList) ?pin) (fun c hc => ⟨_, hc, Pinned.nil _⟩)
        fun _ _ h => h) fun _ => Triple.pure fun c h => ?_
      case pin =>
        intro pre v _ _ _
        refine Triple.assert_node (F := fun as => ∃ as1, Bounded as0 vs sum as1 ∧ Pinned as1 pre as)
          (keeps_equals v zero) (builds_equals_node v zero) fun t ht => Triple.pure fun c hc => ?_
        obtain ⟨n, rfl⟩ := ht
        obtain ⟨_, ⟨as1, hb, hp⟩, hc⟩ := hc
        refine ⟨_, rfl, as1, hb, ?_⟩
        rw [hc]
        exact hp.snoc v n
      obtain ⟨as1, hb, hp⟩ := h
      exact Budget.of_pinned hb hp
    · -- otherwise the sum is bounded by the budget
      next hk =>
      have hk : k ≠ 0 := by simpa using hk
      refine Triple.bind (Triple.keeps (F := Bounded as0 vs sum) (keeps_le _ _)
        (builds_le_node _ _)) fun t => Triple.assume fun ht => ?_
      obtain ⟨n, rfl⟩ := ht
      exact Triple.assert_with fun as hb => Budget.of_bound hb hk
  split
  · next hq =>
    refine Triple.mono (hjp _ _) (fun _ h => h) fun _ c' h => ?_
    obtain ⟨new, hc', hnew⟩ := h
    refine ⟨new, hc', fun m hm => ?_⟩
    obtain ⟨hbits, hzero, hcount⟩ := hnew m hm
    exact ⟨hbits, fun h => absurd hq (by simp [h]), hzero, by rw [budgeted, if_pos hq]; exact hcount⟩
  · next hq =>
    refine Triple.bind (Triple.mono (Triple.forIn (fun pre _ c1 => Pinned c.assertions.toList
      (pre.map (·.2)) c1.assertions.toList) ?nodes) (fun c1 hc1 => hc1 ▸ Pinned.nil _) fun _ _ h => h)
      fun _ c1 hc1 => ?_
    case nodes =>
      intro pre x _ _ _
      obtain ⟨r, v⟩ := x
      refine Triple.assert_node (keeps_equals v zero) (builds_equals_node v zero) fun t ht =>
        Triple.pure fun c1 hc1 => ⟨_, rfl, ?_⟩
      obtain ⟨n, rfl⟩ := ht
      obtain ⟨_, hp, hc1⟩ := hc1
      rw [hc1]
      simpa using hp.snoc v n
    obtain ⟨newp, hc1', hnewp⟩ := hc1
    obtain ⟨newb, hc2, hnewb⟩ := hjp c1.assertions.toList links c1 rfl
    refine ⟨newp ++ newb, by rw [hc2, hc1', List.append_assoc], fun m hm => ?_⟩
    rw [Model.satisfies_append] at hm
    have hnodes := hnewp m hm.1
    obtain ⟨hbits, hzero, hcount⟩ := hnewb m hm.2
    refine ⟨fun t ht => ?_, fun _ => hnodes, fun hk t ht => ?_, by rw [budgeted, if_neg hq]; exact hcount⟩
    · rcases List.mem_append.1 ht with ht | ht
      · exact hbits t ht
      · exact .inl (hnodes t ht)
    · rcases List.mem_append.1 ht with ht | ht
      · exact hzero hk t ht
      · exact hnodes t ht

end Encoder

end ControlPlane
