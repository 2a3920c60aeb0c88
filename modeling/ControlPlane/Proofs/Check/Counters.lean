import ControlPlane.Proofs.Check.Reachability

/-!
# Counters

`Instrument.pathLength` and `Instrument.load` both begin the same way: every router gets an
integer variable of the instrumentation's own family, named by `varName`, with a lower bound
asserted on it. Their equations then read these counters, and add them up with the library's
saturating addition.

This module states that first loop once (`boundedCounters_spec`), says what a model makes of
the counters (`countIn`), and builds models that give the counters any values in the 64-bit
range while keeping every registered name (`exists_counted`).
-/

namespace ControlPlane

namespace Term

variable {m : Model}

theorem sort_mkAdd {a b : Term} (n : Nat) (ha : a.sort = .int) (hb : b.sort = .int) :
    (mkAdd n a b).sort = .int := by
  unfold mkAdd
  split <;> simp_all [sort]

theorem evalAll_triple {a b d : Term} {x y z : Bool} (ha : m.eval a = .ok (.bool x))
    (hb : m.eval b = .ok (.bool y)) (hd : m.eval d = .ok (.bool z)) :
    m.evalAll [a, b, d] = .ok (x && y && z) := by
  rw [Model.evalAll_cons _ ha, Model.evalAll_cons _ hb, Model.evalAll_cons _ hd]
  cases x <;> cases y <;> cases z <;> rfl

theorem sort_mkIte_int {c t e : Term} (n : Nat) (ht : t.sort = .int) (he : e.sort = .int) :
    (mkIte n c t e).sort = .int := by
  have hnt : t.asBool? = none := by cases t <;> simp_all [asBool?, sort]
  have hne : e.asBool? = none := by cases e <;> simp_all [asBool?, sort]
  unfold mkIte
  split
  · exact ht
  · exact he
  · split
    · exact ht
    · simp [hnt, hne, sort, ht]

end Term

namespace Build

theorem keeps_plus (a b : Term) : Keeps (plus a b) := keeps_node _

end Build

namespace Encode

open Build Term

variable {G : Model → Prop} {a b : Term} {as : List Term}

theorem Spec.plus {x y : Model → Int} (ha : ∀ m, G m → m.eval a = .ok (.int (x m)))
    (hb : ∀ m, G m → m.eval b = .ok (.int (y m)))
    (hx : ∀ m, G m → minI64 ≤ x m ∧ x m ≤ maxI64) (hy : ∀ m, G m → minI64 ≤ y m ∧ y m ≤ maxI64)
    (hsa : a.sort = .int) (hsb : b.sort = .int) :
    Spec (fun c => c.assertions.toList = as) (liftM (Build.plus a b)) fun t c =>
      ((∀ m, G m → m.eval t = .ok (.int (saturate (x m + y m)))) ∧ t.sort = .int) ∧
        c.assertions.toList = as :=
  Spec.keeps (keeps_plus a b) fun c =>
    ⟨fun m hm => eval_mkAdd c.nextNode (ha m hm) (hb m hm) (hx m hm) (hy m hm),
      sort_mkAdd c.nextNode hsa hsb⟩

/-- A conditional between two integer terms: the first one's value where the condition holds,
the second one's elsewhere. -/
theorem Spec.condInt {d : Term} {w : Model → Bool} {x y : Model → Int}
    (hd : ∀ m, G m → m.eval d = .ok (.bool (w m)))
    (ha : ∀ m, G m → m.eval a = .ok (.int (x m))) (hb : ∀ m, G m → m.eval b = .ok (.int (y m)))
    (hsa : a.sort = .int) (hsb : b.sort = .int) :
    Spec (fun c => c.assertions.toList = as) (liftM (Build.cond d a b)) fun t c =>
      ((∀ m, G m → m.eval t = .ok (.int (if w m then x m else y m))) ∧ t.sort = .int) ∧
        c.assertions.toList = as :=
  Spec.keeps (keeps_cond d a b) fun c =>
    ⟨fun m hm => (eval_mkIte c.nextNode (hd m hm) (ha m hm) (hb m hm) (by rw [hsa, hsb])
        (by rw [hsa]; rfl) (by rw [hsb]; rfl)).trans (by split <;> rfl),
      sort_mkIte_int c.nextNode hsa hsb⟩

end Encode

namespace Instrument

open Encode Build Term

variable {s : Slice} {m : Model} {kind r : String}

def familyPrefix (s : Slice) (kind : String) : String := s.pre ++ "_" ++ kind ++ "_"

theorem varName_eq_familyPrefix (s : Slice) (kind r : String) :
    varName s kind r = familyPrefix s kind ++ r := by
  simp only [varName, familyPrefix, String.append_assoc]

def counter (s : Slice) (kind r : String) : Term := .var (familyPrefix s kind ++ r) .int

/-- The model gives every crossing term a boolean, and every counter of the family `kind` an
integer of the 64-bit range, as every integer of a solver's model is. -/
structure CountersDecided (s : Slice) (kind : String) (m : Model) : Prop where
  decides : s.Decides m
  counter_int : ∀ r ∈ s.graph.routers,
    ∃ i, m.eval (counter s kind r) = .ok (.int i) ∧ minI64 ≤ i ∧ i ≤ maxI64

def countIn (s : Slice) (kind : String) (m : Model) (r : String) : Int :=
  match m.eval (counter s kind r) with
  | .ok (.int i) => i
  | _ => 0

theorem CountersDecided.eval_counter (h : CountersDecided s kind m) (hr : r ∈ s.graph.routers) :
    m.eval (counter s kind r) = .ok (.int (countIn s kind m r)) := by
  obtain ⟨i, hi, -⟩ := h.counter_int r hr
  simp [countIn, hi]

theorem CountersDecided.countIn_mem (h : CountersDecided s kind m) (hr : r ∈ s.graph.routers) :
    minI64 ≤ countIn s kind m r ∧ countIn s kind m r ≤ maxI64 := by
  obtain ⟨i, hi, hmem⟩ := h.counter_int r hr
  simpa [countIn, hi] using hmem

/-- The first loop of the counting instrumentations: one integer variable of the family `kind`
per router, each asserted to be at least `lo`. -/
theorem boundedCounters_spec (hg : s.graph.WellFormed) (kind : String) (lo : Int)
    {a0 : List Term} :
    Spec (fun c => FreshUnder (familyPrefix s kind) [] c ∧ c.assertions.toList = a0)
      (forIn s.graph.routers ({} : NameMap Term) fun r vars => do
        let v ← liftM (Build.intVar (varName s kind r))
        let t ← liftM (Build.ge v (.int lo))
        liftM (Build.assert t)
        pure (ForInStep.yield (vars.insert r v)))
      fun vars c => (∀ p ∈ s.graph.routers, vars.get? p = some (counter s kind p)) ∧
        ∃ new, (∀ m, CountersDecided s kind m →
          (m.Satisfies new ↔ ∀ r ∈ s.graph.routers, lo ≤ countIn s kind m r)) ∧
          c.assertions.toList = a0 ++ new := by
  refine Spec.mono (Spec.forIn (fun pre (vars : NameMap Term) c =>
      (∀ p, vars.get? p = if p ∈ pre then some (counter s kind p) else none) ∧
      ∃ new, (∀ m, CountersDecided s kind m →
        (m.Satisfies new ↔ ∀ r ∈ pre, lo ≤ countIn s kind m r)) ∧
      FreshUnder (familyPrefix s kind) pre c ∧ c.assertions.toList = a0 ++ new) ?step)
    (fun c hc => ⟨fun p => by simp, [], fun m _ => by simp [Model.Satisfies], hc.1,
      by simpa using hc.2⟩) fun vars c hc => ?fin
  case step =>
    intro pre r post vars hxs
    have hr : r ∉ pre := fun h =>
      (List.nodup_append.1 (hxs ▸ hg.nodup)).2.2 r h r List.mem_cons_self rfl
    have hrR : r ∈ s.graph.routers := hxs ▸ List.mem_append_right pre List.mem_cons_self
    rw [varName_eq_familyPrefix]
    refine Spec.assume fun hvars => Spec.of_exists fun new => Spec.assume fun hnew => ?_
    have hF : ∀ c c' : Context, c'.index = c.index →
        FreshUnder (familyPrefix s kind) (r :: pre) c →
        FreshUnder (familyPrefix s kind) (r :: pre) c' := fun _ _ he h => h.of_index_eq he
    refine Spec.bind (Spec.lift (Triple.mkVar_fresh
      (F := fun c => c.assertions.toList = a0 ++ new) hr .int fun c hc =>
        by rw [assertions_mkVar, hc])) fun v => Spec.assume fun hv => ?_
    subst hv
    refine Spec.bind (Spec.lift (Triple.term_frame hF (keeps_ge _ _)
      fun m (hm : CountersDecided s kind m) => builds_le (m := m) rfl (hm.eval_counter hrR)))
      fun t => Spec.assume fun ht => ?_
    refine Spec.bind (Spec.lift (Triple.assert_frame hF)) fun _ => Spec.pure fun c hc => ?_
    refine ⟨_, rfl, fun p => ?_, new ++ asserted t, fun m hm => ?_, hc.1.mono (by simp),
      by simp [hc.2]⟩
    · by_cases hp : p = r <;> simp [hp, hvars p, counter]
    · rw [Model.satisfies_append, hnew m hm, satisfies_asserted_iff,
        Model.evalBool_eq_true_iff (ht m hm), List.forall_mem_append, List.forall_mem_singleton,
        decide_eq_true_eq]
  case fin =>
    obtain ⟨hvars, new, hnew, -, ha⟩ := hc
    exact ⟨fun p hp => by simp [hvars p, hp], new, hnew, ha⟩

section Extension

variable {c : Context} {new : List Term}

/-- `m'` extends `m` to a solution of the assertions `new`: it keeps the value of every name
registered in `c`, decides the crossing terms and the counters of `kind`, and satisfies
`new`. -/
def CounterExtension (s : Slice) (kind : String) (c : Context) (new : List Term) (m m' : Model) :
    Prop :=
  m'.AgreeOn c m ∧ CountersDecided s kind m' ∧ m'.Satisfies new

/-- Any counters of the 64-bit range are read off a model that keeps the values of the
registered names, when the family's names are not registered. -/
theorem exists_counted (hg : s.graph.WellFormed) (hfresh : FreshUnder (familyPrefix s kind) [] c)
    (hreg : s.RegisteredIn c) (hd : s.Decides m) (val : String → Int)
    (hval : ∀ p ∈ s.graph.routers, minI64 ≤ val p ∧ val p ≤ maxI64) :
    ∃ m', m'.AgreeOn c m ∧ CountersDecided s kind m' ∧
      ∀ p ∈ s.graph.routers, countIn s kind m' p = val p := by
  let kvs := s.graph.routers.map fun p => (familyPrefix s kind ++ p, Value.int (val p))
  have hkeys : kvs.map Prod.fst = s.graph.routers.map (familyPrefix s kind ++ ·) := by simp [kvs]
  have hnd : (kvs.map Prod.fst).Nodup :=
    hkeys ▸ hg.nodup.map fun _ _ h => (String.append_right_inj _).1 h
  have hagree : (m.setAll kvs).AgreeOn c m := fun n hn => Model.get?_setAll_of_not_mem fun hmem => by
    rw [hkeys] at hmem
    obtain ⟨p, -, rfl⟩ := List.mem_map.1 hmem
    simp [hfresh p List.not_mem_nil] at hn
  have hvar : ∀ p ∈ s.graph.routers, (m.setAll kvs).eval (counter s kind p) = .ok (.int (val p)) :=
    fun p hp => by
      have hmem : (familyPrefix s kind ++ p, Value.int (val p)) ∈ kvs := List.mem_map_of_mem hp
      simp [counter, Model.eval, Model.valueOf, Model.get?_setAll_of_mem hnd hmem]
  exact ⟨m.setAll kvs, hagree,
    ⟨hd.of_agree hreg hagree, fun p hp => ⟨_, hvar p hp, hval p hp⟩⟩,
    fun p hp => by simp [countIn, hvar p hp]⟩

end Extension

end Instrument
end ControlPlane
