import ControlPlane.Smt.Model

/-!
# Well-sorted terms

Which terms are well-sorted, which values fit a sort, and the typing theorem of evaluation: a
well-sorted term, under a model that gives each of its variables a value of the variable's sort,
evaluates without error to a value of the term's sort. Structural equality of terms is equality,
so `same` never identifies two different terms.
-/

namespace ControlPlane

@[simp] def TermSort.isBitVec : TermSort → Bool
  | .bitVec _ => true
  | _ => false

namespace Value

/-- The value is one of the sort. A bit-vector value carries no width and fits every bit-vector
sort. -/
@[simp] def fits : Value → TermSort → Bool
  | .bool _, .bool => true
  | .int _, .int => true
  | .bv _, .bitVec _ => true
  | _, _ => false

@[simp] def inRange : Value → Bool
  | .int i => decide (Term.minI64 ≤ i ∧ i ≤ Term.maxI64)
  | _ => true

theorem eq_bool_of_fits {v : Value} (h : v.fits .bool) : ∃ b, v = .bool b := by
  cases v <;> simp_all [fits]

theorem eq_int_of_fits {v : Value} (h : v.fits .int) : ∃ i, v = .int i := by
  cases v <;> simp_all [fits]

theorem eq_bv_of_fits {v : Value} {s : TermSort} (h : v.fits s) (hs : s.isBitVec) :
    ∃ x, v = .bv x := by
  cases v <;> cases s <;> simp_all [fits, TermSort.isBitVec]

theorem fits_bv {x : Nat} {s : TermSort} (hs : s.isBitVec) : (Value.bv x).fits s := by
  cases s <;> simp_all [fits, TermSort.isBitVec]

end Value

namespace Term

attribute [simp] sort

mutual
/-- Every operator gets arguments of the sorts it expects: connectives booleans, the sides of an
equality and the branches of an if-then-else one sort, arithmetic and comparisons integers, the
bit-vector operators bit-vectors of one width. Literals are in range, as the constructors make
them: integers inside 64 bits, bit-vectors inside their width. -/
@[simp] def wellSorted : Term → Bool
  | .bool _ | .var _ _ => true
  | .int i => decide (minI64 ≤ i ∧ i ≤ maxI64)
  | .bv v w => v &&& bvMask w == v
  | .neg _ a => a.wellSorted && a.sort == .bool
  | .conj _ xs | .disj _ xs => boolArgs xs
  | .imp _ a b => a.wellSorted && b.wellSorted && a.sort == .bool && b.sort == .bool
  | .cond _ c t e =>
    c.wellSorted && t.wellSorted && e.wellSorted && c.sort == .bool && t.sort == e.sort
  | .eq _ a b => a.wellSorted && b.wellSorted && a.sort == b.sort
  | .lt _ a b | .le _ a b | .add _ a b | .sub _ a b =>
    a.wellSorted && b.wellSorted && a.sort == .int && b.sort == .int
  | .bvAnd _ a b | .bvUle _ a b =>
    a.wellSorted && b.wellSorted && a.sort.isBitVec && a.sort == b.sort
@[simp] def boolArgs : List Term → Bool
  | [] => true
  | x :: xs => x.wellSorted && x.sort == .bool && boolArgs xs
end

mutual
@[simp] def vars : Term → List (String × TermSort)
  | .bool _ | .int _ | .bv _ _ => []
  | .var n s => [(n, s)]
  | .neg _ a => a.vars
  | .conj _ xs | .disj _ xs => argVars xs
  | .imp _ a b | .eq _ a b | .lt _ a b | .le _ a b | .add _ a b | .sub _ a b | .bvAnd _ a b
  | .bvUle _ a b => a.vars ++ b.vars
  | .cond _ c t e => c.vars ++ t.vars ++ e.vars
@[simp] def argVars : List Term → List (String × TermSort)
  | [] => []
  | x :: xs => x.vars ++ argVars xs
end

theorem saturate_mem (i : Int) : minI64 ≤ saturate i ∧ saturate i ≤ maxI64 := by
  unfold saturate minI64 maxI64
  split
  · omega
  · split <;> omega

theorem vars_subset_argVars {x : Term} {xs : List Term} (h : x ∈ xs) : x.vars ⊆ argVars xs := by
  induction xs with
  | nil => simp at h
  | cons y ys ih =>
    rcases List.mem_cons.1 h with rfl | h
    · simp [argVars]
    · exact List.subset_append_of_subset_right _ (ih h)

section Identity

variable {a b : Term}

mutual
theorem eq_of_equal : ∀ (s t : Term), equal s t = true → s = t
  | .bool _, t, h | .int _, t, h | .bv _ _, t, h | .var _ _, t, h => by
    cases t <;> simp_all [equal]
  | .neg _ a, t, h => by
    cases t <;> simp only [equal, Bool.and_eq_true, beq_iff_eq, Bool.false_eq_true] at h
    rw [h.1, eq_of_equal a _ h.2]
  | .conj _ xs, t, h => by
    cases t <;> simp only [equal, Bool.and_eq_true, beq_iff_eq, Bool.false_eq_true] at h
    rw [h.1, eq_of_equalArgs xs _ h.2]
  | .disj _ xs, t, h => by
    cases t <;> simp only [equal, Bool.and_eq_true, beq_iff_eq, Bool.false_eq_true] at h
    rw [h.1, eq_of_equalArgs xs _ h.2]
  | .imp _ a b, t, h => by
    cases t <;> simp only [equal, Bool.and_eq_true, beq_iff_eq, Bool.false_eq_true] at h
    rw [h.1.1, eq_of_equal a _ h.1.2, eq_of_equal b _ h.2]
  | .cond _ c x y, t, h => by
    cases t <;> simp only [equal, Bool.and_eq_true, beq_iff_eq, Bool.false_eq_true] at h
    rw [h.1.1.1, eq_of_equal c _ h.1.1.2, eq_of_equal x _ h.1.2, eq_of_equal y _ h.2]
  | .eq _ a b, t, h => by
    cases t <;> simp only [equal, Bool.and_eq_true, beq_iff_eq, Bool.false_eq_true] at h
    rw [h.1.1, eq_of_equal a _ h.1.2, eq_of_equal b _ h.2]
  | .lt _ a b, t, h => by
    cases t <;> simp only [equal, Bool.and_eq_true, beq_iff_eq, Bool.false_eq_true] at h
    rw [h.1.1, eq_of_equal a _ h.1.2, eq_of_equal b _ h.2]
  | .le _ a b, t, h => by
    cases t <;> simp only [equal, Bool.and_eq_true, beq_iff_eq, Bool.false_eq_true] at h
    rw [h.1.1, eq_of_equal a _ h.1.2, eq_of_equal b _ h.2]
  | .add _ a b, t, h => by
    cases t <;> simp only [equal, Bool.and_eq_true, beq_iff_eq, Bool.false_eq_true] at h
    rw [h.1.1, eq_of_equal a _ h.1.2, eq_of_equal b _ h.2]
  | .sub _ a b, t, h => by
    cases t <;> simp only [equal, Bool.and_eq_true, beq_iff_eq, Bool.false_eq_true] at h
    rw [h.1.1, eq_of_equal a _ h.1.2, eq_of_equal b _ h.2]
  | .bvAnd _ a b, t, h => by
    cases t <;> simp only [equal, Bool.and_eq_true, beq_iff_eq, Bool.false_eq_true] at h
    rw [h.1.1, eq_of_equal a _ h.1.2, eq_of_equal b _ h.2]
  | .bvUle _ a b, t, h => by
    cases t <;> simp only [equal, Bool.and_eq_true, beq_iff_eq, Bool.false_eq_true] at h
    rw [h.1.1, eq_of_equal a _ h.1.2, eq_of_equal b _ h.2]
theorem eq_of_equalArgs : ∀ (xs ys : List Term), equalArgs xs ys = true → xs = ys
  | [], ys, h => by cases ys <;> simp_all [equalArgs]
  | x :: xs, ys, h => by
    cases ys <;> simp only [equalArgs, Bool.and_eq_true, Bool.false_eq_true] at h
    rw [eq_of_equal x _ h.1, eq_of_equalArgs xs _ h.2]
end

theorem eq_of_same (h : a.same b = true) : a = b := by
  unfold same at h
  split at h
  any_goals simp_all
  split at h
  · simp only [Bool.and_eq_true] at h
    exact eq_of_equal _ _ h.2
  · simp at h

end Identity

end Term

namespace Model

def FitsVar (m : Model) (x : String × TermSort) : Prop :=
  (m.valueOf x.1 x.2).fits x.2 ∧ (m.valueOf x.1 x.2).inRange

/-- The model gives every variable of the term a value of the sort the term uses it at. A
variable the model leaves out takes its sort's default, which fits. -/
def Fits (m : Model) (t : Term) : Prop := ∀ x ∈ t.vars, m.FitsVar x

theorem Fits.mono {m : Model} {s t : Term} (h : m.Fits t) (hs : s.vars ⊆ t.vars) : m.Fits s :=
  fun x hx => h x (hs hx)

section Equations

variable {m : Model} {n : Nat} {a b : Term}

attribute [local simp] eval evalAll evalAny asBool asInt asBits

theorem eval_neg {x : Bool} (ha : m.eval a = .ok (.bool x)) : m.eval (.neg n a) = .ok (.bool !x) := by
  simp [ha, bind, Except.bind, pure, Except.pure]

theorem eval_conj (xs : List Term) : m.eval (.conj n xs) = (m.evalAll xs).map .bool := by
  simp [bind, Except.bind, pure, Except.pure, Except.map]

theorem eval_disj (xs : List Term) : m.eval (.disj n xs) = (m.evalAny xs).map .bool := by
  simp [bind, Except.bind, pure, Except.pure, Except.map]

theorem eval_imp {x y : Bool} (ha : m.eval a = .ok (.bool x)) (hb : m.eval b = .ok (.bool y)) :
    m.eval (.imp n a b) = .ok (.bool (!x || y)) := by
  cases x <;> simp [ha, hb, bind, Except.bind, pure, Except.pure]

theorem eval_cond {x : Bool} (c t e : Term) (hc : m.eval c = .ok (.bool x)) :
    m.eval (.cond n c t e) = if x then m.eval t else m.eval e := by
  simp [hc, bind, Except.bind]

theorem eval_eq {va vb : Value} (ha : m.eval a = .ok va) (hb : m.eval b = .ok vb) :
    m.eval (.eq n a b) = .ok (.bool (va == vb)) := by
  simp [ha, hb, bind, Except.bind, pure, Except.pure]

theorem eval_lt {x y : Int} (ha : m.eval a = .ok (.int x)) (hb : m.eval b = .ok (.int y)) :
    m.eval (.lt n a b) = .ok (.bool (decide (x < y))) := by
  simp [ha, hb, bind, Except.bind, pure, Except.pure]

theorem eval_le {x y : Int} (ha : m.eval a = .ok (.int x)) (hb : m.eval b = .ok (.int y)) :
    m.eval (.le n a b) = .ok (.bool (decide (x ≤ y))) := by
  simp [ha, hb, bind, Except.bind, pure, Except.pure]

theorem eval_add {x y : Int} (ha : m.eval a = .ok (.int x)) (hb : m.eval b = .ok (.int y)) :
    m.eval (.add n a b) = .ok (.int (Term.saturate (x + y))) := by
  simp [ha, hb, bind, Except.bind, pure, Except.pure]

theorem eval_sub {x y : Int} (ha : m.eval a = .ok (.int x)) (hb : m.eval b = .ok (.int y)) :
    m.eval (.sub n a b) = .ok (.int (Term.saturate (x - y))) := by
  simp [ha, hb, bind, Except.bind, pure, Except.pure]

theorem eval_bvAnd {x y : Nat} (ha : m.eval a = .ok (.bv x)) (hb : m.eval b = .ok (.bv y)) :
    m.eval (.bvAnd n a b) = .ok (.bv (x &&& y)) := by
  simp [ha, hb, bind, Except.bind, pure, Except.pure]

theorem eval_bvUle {x y : Nat} (ha : m.eval a = .ok (.bv x)) (hb : m.eval b = .ok (.bv y)) :
    m.eval (.bvUle n a b) = .ok (.bool (decide (x ≤ y))) := by
  simp [ha, hb, bind, Except.bind, pure, Except.pure]

theorem evalAll_cons {x : Term} {c : Bool} (xs : List Term) (hx : m.eval x = .ok (.bool c)) :
    m.evalAll (x :: xs) = if c then m.evalAll xs else .ok false := by
  simp [hx, bind, Except.bind, pure, Except.pure]

theorem evalAny_cons {x : Term} {c : Bool} (xs : List Term) (hx : m.eval x = .ok (.bool c)) :
    m.evalAny (x :: xs) = if c then .ok true else m.evalAny xs := by
  simp [hx, bind, Except.bind, pure, Except.pure]

theorem evalAll_append (xs ys : List Term) :
    m.evalAll (xs ++ ys) = m.evalAll xs >>= fun c => if c then m.evalAll ys else pure false := by
  induction xs with
  | nil => simp [bind, Except.bind]
  | cons x xs ih =>
    simp only [List.cons_append, evalAll, ih]
    cases m.eval x with
    | error e => rfl
    | ok v =>
      cases v with
      | bool b => cases b <;> rfl
      | int i => rfl
      | bv v => rfl

theorem evalAny_append (xs ys : List Term) :
    m.evalAny (xs ++ ys) = m.evalAny xs >>= fun c => if c then pure true else m.evalAny ys := by
  induction xs with
  | nil => simp [bind, Except.bind]
  | cons x xs ih =>
    simp only [List.cons_append, evalAny, ih]
    cases m.eval x with
    | error e => rfl
    | ok v =>
      cases v with
      | bool b => cases b <;> rfl
      | int i => rfl
      | bv v => rfl

theorem evalAll_ok {xs : List Term} (h : ∀ x ∈ xs, ∃ c, m.eval x = .ok (.bool c)) :
    ∃ c, m.evalAll xs = .ok c := by
  induction xs with
  | nil => exact ⟨true, rfl⟩
  | cons x xs ih =>
    obtain ⟨c, hc⟩ := h x (List.mem_cons_self ..)
    obtain ⟨d, hd⟩ := ih fun y hy => h y (List.mem_cons_of_mem _ hy)
    rw [evalAll_cons xs hc]
    cases c
    · exact ⟨false, rfl⟩
    · exact ⟨d, hd⟩

theorem evalAny_ok {xs : List Term} (h : ∀ x ∈ xs, ∃ c, m.eval x = .ok (.bool c)) :
    ∃ c, m.evalAny xs = .ok c := by
  induction xs with
  | nil => exact ⟨false, rfl⟩
  | cons x xs ih =>
    obtain ⟨c, hc⟩ := h x (List.mem_cons_self ..)
    obtain ⟨d, hd⟩ := ih fun y hy => h y (List.mem_cons_of_mem _ hy)
    rw [evalAny_cons xs hc]
    cases c
    · exact ⟨d, hd⟩
    · exact ⟨true, rfl⟩

end Equations

section Typing

variable {m : Model}

def Typed (m : Model) (t : Term) : Prop := ∃ v, m.eval t = .ok v ∧ v.fits t.sort ∧ v.inRange

theorem Typed.bool {t : Term} (h : m.Typed t) (hs : t.sort = .bool) :
    ∃ x, m.eval t = .ok (.bool x) := by
  obtain ⟨v, hv, hf, -⟩ := h
  obtain ⟨x, rfl⟩ := Value.eq_bool_of_fits (hs ▸ hf)
  exact ⟨x, hv⟩

theorem Typed.int {t : Term} (h : m.Typed t) (hs : t.sort = .int) :
    ∃ x, m.eval t = .ok (.int x) ∧ Term.minI64 ≤ x ∧ x ≤ Term.maxI64 := by
  obtain ⟨v, hv, hf, hr⟩ := h
  obtain ⟨x, rfl⟩ := Value.eq_int_of_fits (hs ▸ hf)
  exact ⟨x, hv, by simpa [Value.inRange] using hr⟩

theorem Typed.bv {t : Term} (h : m.Typed t) (hs : t.sort.isBitVec) :
    ∃ x, m.eval t = .ok (.bv x) := by
  obtain ⟨v, hv, hf, -⟩ := h
  obtain ⟨x, rfl⟩ := Value.eq_bv_of_fits hf hs
  exact ⟨x, hv⟩

mutual
theorem typed_of_wellSorted : ∀ (t : Term), t.wellSorted → m.Fits t → m.Typed t
  | .bool b, _, _ => ⟨.bool b, rfl, rfl, rfl⟩
  | .int i, hw, _ => ⟨.int i, rfl, rfl, by simpa [Term.wellSorted, Value.inRange] using hw⟩
  | .bv v w, _, _ => ⟨.bv v, rfl, rfl, rfl⟩
  | .var x s, _, hf => by
    have h := hf (x, s) (by simp [Term.vars])
    exact ⟨_, rfl, h.1, h.2⟩
  | .neg n a, hw, hf => by
    simp only [Term.wellSorted, Bool.and_eq_true, beq_iff_eq] at hw
    obtain ⟨x, hx⟩ := (typed_of_wellSorted a hw.1 hf).bool hw.2
    exact ⟨.bool !x, eval_neg hx, rfl, rfl⟩
  | .conj n xs, hw, hf => by
    obtain ⟨c, hc⟩ := evalAll_ok (typed_boolArgs xs hw hf)
    exact ⟨.bool c, by simp [eval_conj, hc, Except.map], rfl, rfl⟩
  | .disj n xs, hw, hf => by
    obtain ⟨c, hc⟩ := evalAny_ok (typed_boolArgs xs hw hf)
    exact ⟨.bool c, by simp [eval_disj, hc, Except.map], rfl, rfl⟩
  | .imp n a b, hw, hf => by
    simp only [Term.wellSorted, Bool.and_eq_true, beq_iff_eq] at hw
    obtain ⟨x, hx⟩ := (typed_of_wellSorted a hw.1.1.1 (hf.mono (by simp [Term.vars]))).bool hw.1.2
    obtain ⟨y, hy⟩ := (typed_of_wellSorted b hw.1.1.2 (hf.mono (by simp [Term.vars]))).bool hw.2
    exact ⟨_, eval_imp hx hy, rfl, rfl⟩
  | .cond n c t e, hw, hf => by
    simp only [Term.wellSorted, Bool.and_eq_true, beq_iff_eq] at hw
    obtain ⟨⟨⟨⟨hwc, hwt⟩, hwe⟩, hsc⟩, hst⟩ := hw
    obtain ⟨x, hx⟩ := (typed_of_wellSorted c hwc (hf.mono (by simp [Term.vars]))).bool hsc
    obtain ⟨vt, hvt, hft, hrt⟩ := typed_of_wellSorted t hwt
      (hf.mono (by simp [Term.vars, List.append_assoc]))
    obtain ⟨ve, hve, hfe, hre⟩ := typed_of_wellSorted e hwe (hf.mono (by simp [Term.vars]))
    rw [Typed, eval_cond c t e hx]
    cases x
    · exact ⟨ve, hve, by simpa [Term.sort, hst] using hfe, hre⟩
    · exact ⟨vt, hvt, hft, hrt⟩
  | .eq n a b, hw, hf => by
    simp only [Term.wellSorted, Bool.and_eq_true] at hw
    obtain ⟨va, hva, -⟩ := typed_of_wellSorted a hw.1.1 (hf.mono (by simp [Term.vars]))
    obtain ⟨vb, hvb, -⟩ := typed_of_wellSorted b hw.1.2 (hf.mono (by simp [Term.vars]))
    exact ⟨_, eval_eq hva hvb, rfl, rfl⟩
  | .lt n a b, hw, hf => by
    simp only [Term.wellSorted, Bool.and_eq_true, beq_iff_eq] at hw
    obtain ⟨x, hx, -⟩ := (typed_of_wellSorted a hw.1.1.1 (hf.mono (by simp [Term.vars]))).int hw.1.2
    obtain ⟨y, hy, -⟩ := (typed_of_wellSorted b hw.1.1.2 (hf.mono (by simp [Term.vars]))).int hw.2
    exact ⟨_, eval_lt hx hy, rfl, rfl⟩
  | .le n a b, hw, hf => by
    simp only [Term.wellSorted, Bool.and_eq_true, beq_iff_eq] at hw
    obtain ⟨x, hx, -⟩ := (typed_of_wellSorted a hw.1.1.1 (hf.mono (by simp [Term.vars]))).int hw.1.2
    obtain ⟨y, hy, -⟩ := (typed_of_wellSorted b hw.1.1.2 (hf.mono (by simp [Term.vars]))).int hw.2
    exact ⟨_, eval_le hx hy, rfl, rfl⟩
  | .add n a b, hw, hf => by
    simp only [Term.wellSorted, Bool.and_eq_true, beq_iff_eq] at hw
    obtain ⟨x, hx, -⟩ := (typed_of_wellSorted a hw.1.1.1 (hf.mono (by simp [Term.vars]))).int hw.1.2
    obtain ⟨y, hy, -⟩ := (typed_of_wellSorted b hw.1.1.2 (hf.mono (by simp [Term.vars]))).int hw.2
    exact ⟨_, eval_add hx hy, rfl, by simpa [Value.inRange] using Term.saturate_mem _⟩
  | .sub n a b, hw, hf => by
    simp only [Term.wellSorted, Bool.and_eq_true, beq_iff_eq] at hw
    obtain ⟨x, hx, -⟩ := (typed_of_wellSorted a hw.1.1.1 (hf.mono (by simp [Term.vars]))).int hw.1.2
    obtain ⟨y, hy, -⟩ := (typed_of_wellSorted b hw.1.1.2 (hf.mono (by simp [Term.vars]))).int hw.2
    exact ⟨_, eval_sub hx hy, rfl, by simpa [Value.inRange] using Term.saturate_mem _⟩
  | .bvAnd n a b, hw, hf => by
    simp only [Term.wellSorted, Bool.and_eq_true, beq_iff_eq] at hw
    obtain ⟨x, hx⟩ := (typed_of_wellSorted a hw.1.1.1 (hf.mono (by simp [Term.vars]))).bv hw.1.2
    obtain ⟨y, hy⟩ := (typed_of_wellSorted b hw.1.1.2 (hf.mono (by simp [Term.vars]))).bv
      (hw.2 ▸ hw.1.2)
    exact ⟨_, eval_bvAnd hx hy, Value.fits_bv hw.1.2, rfl⟩
  | .bvUle n a b, hw, hf => by
    simp only [Term.wellSorted, Bool.and_eq_true, beq_iff_eq] at hw
    obtain ⟨x, hx⟩ := (typed_of_wellSorted a hw.1.1.1 (hf.mono (by simp [Term.vars]))).bv hw.1.2
    obtain ⟨y, hy⟩ := (typed_of_wellSorted b hw.1.1.2 (hf.mono (by simp [Term.vars]))).bv
      (hw.2 ▸ hw.1.2)
    exact ⟨_, eval_bvUle hx hy, rfl, rfl⟩
theorem typed_boolArgs : ∀ (xs : List Term), Term.boolArgs xs →
    (∀ x ∈ Term.argVars xs, m.FitsVar x) → ∀ x ∈ xs, ∃ c, m.eval x = .ok (.bool c)
  | [], _, _ => by simp
  | x :: xs, hw, hf => by
    simp only [Term.boolArgs, Bool.and_eq_true, beq_iff_eq] at hw
    obtain ⟨c, hc⟩ := (typed_of_wellSorted x hw.1.1
      fun y hy => hf y (by simp [Term.argVars, hy])).bool hw.1.2
    have ih := typed_boolArgs xs hw.2 fun y hy => hf y (by simp [Term.argVars, hy])
    intro y hy
    rcases List.mem_cons.1 hy with rfl | hy
    · exact ⟨c, hc⟩
    · exact ih y hy
end

end Typing

end Model
end ControlPlane
