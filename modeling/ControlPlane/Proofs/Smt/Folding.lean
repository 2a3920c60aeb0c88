import ControlPlane.Proofs.Smt.Sorts
import ControlPlane.Smt.Fold

/-!
# Folding constructors keep meaning

Each folding constructor builds a term with the value of the node it stands for: whenever the
node's arguments have values of their sorts, the folded term has the node's value. Conjunctions
and disjunctions need less: whenever the plain node has a value, the folded one has the same.
Read backwards, a true folded negation, conjunction or disjunction tells the values of its
arguments.
-/

namespace ControlPlane
namespace Term

theorem eq_of_asBool? {t : Term} {b : Bool} (h : t.asBool? = some b) : t = .bool b := by
  cases t <;> simp_all [asBool?]

theorem eq_of_asInt? {t : Term} {i : Int} (h : t.asInt? = some i) : t = .int i := by
  cases t <;> simp_all [asInt?]

theorem eq_of_asBv? {t : Term} {x : Nat} (h : t.asBv? = some x) : ∃ w, t = .bv x w := by
  cases t <;> simp_all [asBv?]

theorem isLit_cases {t : Term} (h : t.isLit = true) :
    (∃ b, t = .bool b) ∨ (∃ i, t = .int i) ∨ ∃ v w, t = .bv v w := by
  cases t <;> simp_all [isLit]

theorem saturate_eq {i : Int} (h : minI64 ≤ i ∧ i ≤ maxI64) : saturate i = i := by
  unfold saturate
  split
  · omega
  · split <;> omega

section Values

variable {m : Model}

@[simp] theorem bool_beq_bool (x y : Bool) : (Value.bool x == Value.bool y) = (x == y) := by
  cases x <;> cases y <;> rfl

@[simp] theorem int_beq_int (x y : Int) : (Value.int x == Value.int y) = (x == y) := by
  rw [Bool.eq_iff_iff]
  simp

@[simp] theorem bv_beq_bv (x y : Nat) : (Value.bv x == Value.bv y) = (x == y) := by
  rw [Bool.eq_iff_iff]
  simp

@[simp] theorem eval_tt : m.eval tt = .ok (.bool true) := rfl

@[simp] theorem eval_ff : m.eval ff = .ok (.bool false) := rfl

theorem value_of_asBool? {t : Term} {c : Bool} {v : Value} (h : t.asBool? = some c)
    (ht : m.eval t = .ok v) : v = .bool c := by
  obtain rfl := eq_of_asBool? h
  simpa [Model.eval] using ht.symm

theorem eval_neg_inv {k : Nat} {a : Term} {v : Value} (h : m.eval (.neg k a) = .ok v) :
    ∃ x, m.eval a = .ok (.bool x) ∧ v = .bool !x := by
  cases ha : m.eval a with
  | error e => simp [Model.eval, ha, bind, Except.bind] at h
  | ok w =>
    cases w <;> simp [Model.eval, ha, Model.asBool, bind, Except.bind, pure, Except.pure] at h
    exact ⟨_, rfl, h.symm⟩

theorem eval_mkNot {a : Term} {x : Bool} (n : Nat) (ha : m.eval a = .ok (.bool x)) :
    m.eval (mkNot n a) = .ok (.bool !x) := by
  cases a with
  | bool b => simp_all [mkNot, Model.eval]
  | neg k y =>
    obtain ⟨z, hz, hv⟩ := eval_neg_inv ha
    simp_all [mkNot]
  | _ => exact Model.eval_neg ha

theorem evalAll_conj_cons (k : Nat) (inner ts : List Term) :
    m.evalAll (.conj k inner :: ts) =
      m.evalAll inner >>= fun c => if c then m.evalAll ts else pure false := by
  simp only [Model.evalAll, Model.eval_conj]
  cases m.evalAll inner <;> rfl

theorem evalAny_disj_cons (k : Nat) (inner ts : List Term) :
    m.evalAny (.disj k inner :: ts) =
      m.evalAny inner >>= fun c => if c then pure true else m.evalAny ts := by
  simp only [Model.evalAny, Model.eval_disj]
  cases m.evalAny inner <;> rfl

theorem evalAll_conjArgs {ts args : List Term} (h : conjArgs ts = some args) :
    m.evalAll args = m.evalAll ts := by
  fun_induction conjArgs ts generalizing args with
  | case1 => cases h; rfl
  | case2 ts ih => rw [ih h, Model.evalAll_cons ts rfl]; rfl
  | case3 => simp at h
  | case4 k inner ts ih =>
    obtain ⟨rest, hr, rfl⟩ := Option.map_eq_some_iff.1 h
    rw [Model.evalAll_append, ih hr, evalAll_conj_cons]
  | case5 t ts _ _ _ ih =>
    obtain ⟨rest, hr, rfl⟩ := Option.map_eq_some_iff.1 h
    simp only [Model.evalAll, ih hr]

theorem evalAny_disjArgs {ts args : List Term} (h : disjArgs ts = some args) :
    m.evalAny args = m.evalAny ts := by
  fun_induction disjArgs ts generalizing args with
  | case1 => cases h; rfl
  | case2 ts ih => rw [ih h, Model.evalAny_cons ts rfl]; rfl
  | case3 => simp at h
  | case4 k inner ts ih =>
    obtain ⟨rest, hr, rfl⟩ := Option.map_eq_some_iff.1 h
    rw [Model.evalAny_append, ih hr, evalAny_disj_cons]
  | case5 t ts _ _ _ ih =>
    obtain ⟨rest, hr, rfl⟩ := Option.map_eq_some_iff.1 h
    simp only [Model.evalAny, ih hr]

theorem evalAll_of_conjArgs_none {ts : List Term} {c : Bool} (h : conjArgs ts = none)
    (hc : m.evalAll ts = .ok c) : c = false := by
  fun_induction conjArgs ts with
  | case1 => simp at h
  | case2 ts ih => exact ih h (by rwa [Model.evalAll_cons ts rfl] at hc)
  | case3 ts =>
    have h0 : m.evalAll (.bool false :: ts) = .ok false := rfl
    rw [h0] at hc
    cases hc
    rfl
  | case4 k inner ts ih =>
    rw [evalAll_conj_cons] at hc
    cases hi : m.evalAll inner with
    | error e => simp [hi, bind, Except.bind] at hc
    | ok d =>
      cases d
      · simpa [hi, bind, Except.bind, pure, Except.pure] using hc.symm
      · exact ih (by simpa using h) (by simpa [hi, bind, Except.bind] using hc)
  | case5 t ts _ _ _ ih =>
    simp only [Model.evalAll] at hc
    cases ht : m.eval t with
    | error e => simp [ht, bind, Except.bind] at hc
    | ok v =>
      cases v <;> simp [ht, Model.asBool, bind, Except.bind] at hc
      rename_i d
      cases d
      · simpa [pure, Except.pure] using hc.symm
      · exact ih (by simpa using h) (by simpa using hc)

theorem evalAny_of_disjArgs_none {ts : List Term} {c : Bool} (h : disjArgs ts = none)
    (hc : m.evalAny ts = .ok c) : c = true := by
  fun_induction disjArgs ts with
  | case1 => simp at h
  | case2 ts ih => exact ih h (by rwa [Model.evalAny_cons ts rfl] at hc)
  | case3 ts =>
    have h0 : m.evalAny (.bool true :: ts) = .ok true := rfl
    rw [h0] at hc
    cases hc
    rfl
  | case4 k inner ts ih =>
    rw [evalAny_disj_cons] at hc
    cases hi : m.evalAny inner with
    | error e => simp [hi, bind, Except.bind] at hc
    | ok d =>
      cases d
      · exact ih (by simpa using h) (by simpa [hi, bind, Except.bind] using hc)
      · simpa [hi, bind, Except.bind, pure, Except.pure] using hc.symm
  | case5 t ts _ _ _ ih =>
    simp only [Model.evalAny] at hc
    cases ht : m.eval t with
    | error e => simp [ht, bind, Except.bind] at hc
    | ok v =>
      cases v <;> simp [ht, Model.asBool, bind, Except.bind] at hc
      rename_i d
      cases d
      · exact ih (by simpa using h) (by simpa using hc)
      · simpa [pure, Except.pure] using hc.symm

theorem value_of_asInt? {t : Term} {i : Int} {v : Value} (h : t.asInt? = some i)
    (ht : m.eval t = .ok v) : v = .int i := by
  obtain rfl := eq_of_asInt? h
  simpa [Model.eval] using ht.symm

theorem value_of_asBv? {t : Term} {x : Nat} {v : Value} (h : t.asBv? = some x)
    (ht : m.eval t = .ok v) : v = .bv x := by
  obtain ⟨w, rfl⟩ := eq_of_asBv? h
  simpa [Model.eval] using ht.symm

theorem evalAll_pair {a b : Term} {x y : Bool} (ha : m.eval a = .ok (.bool x))
    (hb : m.eval b = .ok (.bool y)) : m.evalAll [a, b] = .ok (x && y) := by
  rw [Model.evalAll_cons _ ha, Model.evalAll_cons _ hb]
  cases x <;> cases y <;> rfl

theorem evalAny_pair {a b : Term} {x y : Bool} (ha : m.eval a = .ok (.bool x))
    (hb : m.eval b = .ok (.bool y)) : m.evalAny [a, b] = .ok (x || y) := by
  rw [Model.evalAny_cons _ ha, Model.evalAny_cons _ hb]
  cases x <;> cases y <;> rfl

theorem eval_of_evalAll_singleton {t : Term} {c : Bool} (h : m.evalAll [t] = .ok c) :
    m.eval t = .ok (.bool c) := by
  cases ht : m.eval t with
  | error e => simp [Model.evalAll, ht, bind, Except.bind] at h
  | ok v =>
    cases v <;> simp [Model.evalAll, ht, Model.asBool, bind, Except.bind] at h
    rename_i d
    cases d <;> simpa [pure, Except.pure] using h

theorem eval_of_evalAny_singleton {t : Term} {c : Bool} (h : m.evalAny [t] = .ok c) :
    m.eval t = .ok (.bool c) := by
  cases ht : m.eval t with
  | error e => simp [Model.evalAny, ht, bind, Except.bind] at h
  | ok v =>
    cases v <;> simp [Model.evalAny, ht, Model.asBool, bind, Except.bind] at h
    rename_i d
    cases d <;> simpa [pure, Except.pure] using h

theorem eval_mkAndAll {ts : List Term} {c : Bool} (n : Nat) (h : m.evalAll ts = .ok c) :
    m.eval (mkAndAll n ts) = .ok (.bool c) := by
  unfold mkAndAll
  split
  · next hn => rw [evalAll_of_conjArgs_none hn h]; rfl
  · next he =>
    have h1 : m.evalAll [] = m.evalAll ts := evalAll_conjArgs he
    rw [h] at h1
    cases h1
    rfl
  · next t ht =>
    have h1 : m.evalAll [t] = m.evalAll ts := evalAll_conjArgs ht
    exact eval_of_evalAll_singleton (h1.trans h)
  · next args _ _ hs => rw [Model.eval_conj, evalAll_conjArgs hs, h]; rfl

theorem eval_mkOrAll {ts : List Term} {c : Bool} (n : Nat) (h : m.evalAny ts = .ok c) :
    m.eval (mkOrAll n ts) = .ok (.bool c) := by
  unfold mkOrAll
  split
  · next hn => rw [evalAny_of_disjArgs_none hn h]; rfl
  · next he =>
    have h1 : m.evalAny [] = m.evalAny ts := evalAny_disjArgs he
    rw [h] at h1
    cases h1
    rfl
  · next t ht =>
    have h1 : m.evalAny [t] = m.evalAny ts := evalAny_disjArgs ht
    exact eval_of_evalAny_singleton (h1.trans h)
  · next args _ _ hs => rw [Model.eval_disj, evalAny_disjArgs hs, h]; rfl

theorem eval_mkImplies {a b : Term} {x y : Bool} (n : Nat) (ha : m.eval a = .ok (.bool x))
    (hb : m.eval b = .ok (.bool y)) : m.eval (mkImplies n a b) = .ok (.bool (!x || y)) := by
  unfold mkImplies
  split
  · next _ _ h => cases value_of_asBool? h ha; rfl
  · next _ _ h _ => cases value_of_asBool? h hb; simp
  · next _ _ h _ => cases value_of_asBool? h ha; simpa using hb
  · next _ _ h _ _ => cases value_of_asBool? h hb; simp [eval_mkNot n ha]
  · exact Model.eval_imp ha hb

/-- The if-then-else rewrites into connectives when one branch is a boolean literal, which is
sound when both branches then have boolean values. -/
theorem eval_mkIte_of {c t e : Term} {x : Bool} {vt ve : Value} (n : Nat)
    (hc : m.eval c = .ok (.bool x)) (ht : m.eval t = .ok vt) (he : m.eval e = .ok ve)
    (hbool : ∀ b, (t = .bool b ∨ e = .bool b) → (∃ y, vt = .bool y) ∧ ∃ z, ve = .bool z) :
    m.eval (mkIte n c t e) = .ok (if x then vt else ve) := by
  unfold mkIte
  split
  · next h => cases value_of_asBool? h hc; simpa using ht
  · next h => cases value_of_asBool? h hc; simpa using he
  · split
    · next hsame => cases eq_of_same hsame; cases ht.symm.trans he; simp [ht]
    · split
      · next h1 h2 =>
        cases value_of_asBool? h1 ht
        cases value_of_asBool? h2 he
        cases x <;> simpa using hc
      · next h1 h2 =>
        cases value_of_asBool? h1 ht
        cases value_of_asBool? h2 he
        cases x <;> simp [eval_mkNot n hc]
      · next h1 _ =>
        cases value_of_asBool? h1 ht
        obtain ⟨-, y, rfl⟩ := hbool _ (.inl (eq_of_asBool? h1))
        rw [eval_mkOrAll n (evalAny_pair hc he)]
        cases x <;> rfl
      · next h1 _ =>
        cases value_of_asBool? h1 ht
        obtain ⟨-, y, rfl⟩ := hbool _ (.inl (eq_of_asBool? h1))
        rw [eval_mkAndAll (n + 1) (evalAll_pair (eval_mkNot n hc) he)]
        cases x <;> rfl
      · next _ h2 =>
        cases value_of_asBool? h2 he
        obtain ⟨⟨y, rfl⟩, -⟩ := hbool _ (.inr (eq_of_asBool? h2))
        rw [eval_mkOrAll (n + 1) (evalAny_pair (eval_mkNot n hc) ht)]
        cases x <;> rfl
      · next _ h2 =>
        cases value_of_asBool? h2 he
        obtain ⟨⟨y, rfl⟩, -⟩ := hbool _ (.inr (eq_of_asBool? h2))
        rw [eval_mkAndAll n (evalAll_pair hc ht)]
        cases x <;> rfl
      · rw [Model.eval_cond c t e hc]
        cases x <;> simp [ht, he]

theorem eval_mkIte {c t e : Term} {x : Bool} {vt ve : Value} (n : Nat)
    (hc : m.eval c = .ok (.bool x)) (ht : m.eval t = .ok vt) (he : m.eval e = .ok ve)
    (hs : t.sort = e.sort) (hft : vt.fits t.sort) (hfe : ve.fits e.sort) :
    m.eval (mkIte n c t e) = .ok (if x then vt else ve) := by
  refine eval_mkIte_of n hc ht he fun b hb => ?_
  have hbool : t.sort = .bool ∧ e.sort = .bool := by
    rcases hb with rfl | rfl <;> simp [← hs, hs]
  exact ⟨Value.eq_bool_of_fits (hbool.1 ▸ hft), Value.eq_bool_of_fits (hbool.2 ▸ hfe)⟩

theorem eval_mkIte_bool {c t e : Term} {x y z : Bool} (n : Nat)
    (hc : m.eval c = .ok (.bool x)) (ht : m.eval t = .ok (.bool y))
    (he : m.eval e = .ok (.bool z)) : m.eval (mkIte n c t e) = .ok (.bool (if x then y else z)) := by
  rw [eval_mkIte_of n hc ht he fun _ _ => ⟨⟨y, rfl⟩, z, rfl⟩]
  cases x <;> rfl

theorem value_ne_of_lits {a b : Term} {va vb : Value} (hl : (a.isLit && b.isLit) = true)
    (hs : a.sort = b.sort) (hn : ¬a.same b = true) (ha : m.eval a = .ok va)
    (hb : m.eval b = .ok vb) : (va == vb) = false := by
  simp only [Bool.and_eq_true] at hl
  rcases isLit_cases hl.1 with ⟨x, rfl⟩ | ⟨x, rfl⟩ | ⟨x, w, rfl⟩ <;>
  rcases isLit_cases hl.2 with ⟨y, rfl⟩ | ⟨y, rfl⟩ | ⟨y, w', rfl⟩ <;>
  simp only [Model.eval, Except.ok.injEq] at ha hb <;> subst ha hb <;> simp_all [same, sort]

/-- Equality against a boolean literal rewrites into the other side, so both sides need values
of their common sort. -/
theorem eval_mkEq {a b : Term} {va vb : Value} (n : Nat) (ha : m.eval a = .ok va)
    (hb : m.eval b = .ok vb) (hs : a.sort = b.sort) (hfa : va.fits a.sort)
    (hfb : vb.fits b.sort) : m.eval (mkEq n a b) = .ok (.bool (va == vb)) := by
  unfold mkEq
  split
  · next hsame => cases eq_of_same hsame; cases ha.symm.trans hb; simp
  · next hn =>
    split
    · next hl => rw [value_ne_of_lits hl hs hn ha hb]; rfl
    · split
      · next h =>
        cases value_of_asBool? h ha
        obtain ⟨y, rfl⟩ := Value.eq_bool_of_fits (by rwa [← hs, eq_of_asBool? h] at hfb)
        simpa using hb
      · next h =>
        cases value_of_asBool? h ha
        obtain ⟨y, rfl⟩ := Value.eq_bool_of_fits (by rwa [← hs, eq_of_asBool? h] at hfb)
        simp [eval_mkNot n hb]
      · next h _ _ =>
        cases value_of_asBool? h hb
        obtain ⟨x, rfl⟩ := Value.eq_bool_of_fits (by rwa [hs, eq_of_asBool? h] at hfa)
        simpa using ha
      · next h _ _ =>
        cases value_of_asBool? h hb
        obtain ⟨x, rfl⟩ := Value.eq_bool_of_fits (by rwa [hs, eq_of_asBool? h] at hfa)
        simp [eval_mkNot n ha]
      · exact Model.eval_eq ha hb

theorem eval_mkLt {a b : Term} {x y : Int} (n : Nat) (ha : m.eval a = .ok (.int x))
    (hb : m.eval b = .ok (.int y)) : m.eval (mkLt n a b) = .ok (.bool (decide (x < y))) := by
  unfold mkLt
  split
  · next _ _ h1 h2 => cases value_of_asInt? h1 ha; cases value_of_asInt? h2 hb; rfl
  · split
    · next hsame => cases eq_of_same hsame; cases ha.symm.trans hb; simp
    · exact Model.eval_lt ha hb

theorem eval_mkLe {a b : Term} {x y : Int} (n : Nat) (ha : m.eval a = .ok (.int x))
    (hb : m.eval b = .ok (.int y)) : m.eval (mkLe n a b) = .ok (.bool (decide (x ≤ y))) := by
  unfold mkLe
  split
  · next _ _ h1 h2 => cases value_of_asInt? h1 ha; cases value_of_asInt? h2 hb; rfl
  · split
    · next hsame => cases eq_of_same hsame; cases ha.symm.trans hb; simp
    · exact Model.eval_le ha hb

theorem eval_mkAdd {a b : Term} {x y : Int} (n : Nat) (ha : m.eval a = .ok (.int x))
    (hb : m.eval b = .ok (.int y)) (hx : minI64 ≤ x ∧ x ≤ maxI64)
    (hy : minI64 ≤ y ∧ y ≤ maxI64) :
    m.eval (mkAdd n a b) = .ok (.int (saturate (x + y))) := by
  unfold mkAdd
  split
  · next _ _ h1 h2 => cases value_of_asInt? h1 ha; cases value_of_asInt? h2 hb; rfl
  · next _ _ h _ => cases value_of_asInt? h hb; simp [ha, saturate_eq hx]
  · next _ _ h _ => cases value_of_asInt? h ha; simp [hb, saturate_eq hy]
  · exact Model.eval_add ha hb

theorem eval_mkSub {a b : Term} {x y : Int} (n : Nat) (ha : m.eval a = .ok (.int x))
    (hb : m.eval b = .ok (.int y)) (hx : minI64 ≤ x ∧ x ≤ maxI64) :
    m.eval (mkSub n a b) = .ok (.int (saturate (x - y))) := by
  unfold mkSub
  split
  · next _ _ h1 h2 => cases value_of_asInt? h1 ha; cases value_of_asInt? h2 hb; rfl
  · next _ _ h _ => cases value_of_asInt? h hb; simp [ha, saturate_eq hx]
  · exact Model.eval_sub ha hb

/-- Two literals fold to a literal masked to the first one's width; the mask keeps the bits of a
literal that lies within its width. -/
theorem eval_mkBvAnd {a b : Term} {x y : Nat} (n : Nat) (ha : m.eval a = .ok (.bv x))
    (hb : m.eval b = .ok (.bv y)) (hw : a.wellSorted) :
    m.eval (mkBvAnd n a b) = .ok (.bv (x &&& y)) := by
  unfold mkBvAnd
  split
  · next x' w y' _ =>
    simp only [Model.eval, Except.ok.injEq, Value.bv.injEq] at ha hb
    subst ha hb
    have hm : x' &&& bvMask w = x' := by simpa [wellSorted] using hw
    simp only [mkBv, Model.eval]
    rw [Nat.and_assoc, Nat.and_comm y', ← Nat.and_assoc, hm]
  · exact Model.eval_bvAnd ha hb

theorem eval_mkBvUle {a b : Term} {x y : Nat} (n : Nat) (ha : m.eval a = .ok (.bv x))
    (hb : m.eval b = .ok (.bv y)) : m.eval (mkBvUle n a b) = .ok (.bool (decide (x ≤ y))) := by
  unfold mkBvUle
  split
  · next _ _ h1 h2 => cases value_of_asBv? h1 ha; cases value_of_asBv? h2 hb; rfl
  · exact Model.eval_bvUle ha hb

theorem eval_of_eval_mkNot {a : Term} {b : Bool} (n : Nat) (h : m.eval (mkNot n a) = .ok (.bool b)) :
    m.eval a = .ok (.bool !b) := by
  cases a with
  | bool c =>
    simp only [mkNot, Model.eval, Except.ok.injEq, Value.bool.injEq] at h
    simp [Model.eval, ← h]
  | neg k y =>
    simp only [mkNot] at h
    exact Model.eval_neg h
  | _ =>
    obtain ⟨x, hx, hv⟩ := eval_neg_inv h
    simp only [Value.bool.injEq] at hv
    simpa [hv] using hx

theorem evalAll_eq_true_iff {ts : List Term} :
    m.evalAll ts = .ok true ↔ ∀ t ∈ ts, m.eval t = .ok (.bool true) := by
  induction ts with
  | nil => simp [Model.evalAll]
  | cons t ts ih =>
    cases ht : m.eval t with
    | error err => simp [Model.evalAll, ht, bind, Except.bind]
    | ok v =>
      cases v with
      | bool b => cases b <;> simp [Model.evalAll_cons ts ht, ih, ht]
      | _ => simp [Model.evalAll, ht, Model.asBool, bind, Except.bind]

theorem exists_of_evalAny_eq_true {ts : List Term} (h : m.evalAny ts = .ok true) :
    ∃ t ∈ ts, m.eval t = .ok (.bool true) := by
  induction ts with
  | nil => simp [Model.evalAny] at h
  | cons t ts ih =>
    cases ht : m.eval t with
    | error err => simp [Model.evalAny, ht, bind, Except.bind] at h
    | ok v =>
      cases v with
      | bool b =>
        cases b
        · rw [Model.evalAny_cons ts ht] at h
          obtain ⟨u, hu, hv⟩ := ih h
          exact ⟨u, List.mem_cons_of_mem _ hu, hv⟩
        · exact ⟨t, List.mem_cons_self .., ht⟩
      | _ => simp [Model.evalAny, ht, Model.asBool, bind, Except.bind] at h

theorem mem_of_disjArgs_eq_none {ts : List Term} (h : disjArgs ts = none) : Term.bool true ∈ ts := by
  fun_induction disjArgs ts with
  | case1 => simp at h
  | case2 ts ih => exact List.mem_cons_of_mem _ (ih h)
  | case3 ts => exact List.mem_cons_self ..
  | case4 k inner ts ih => exact List.mem_cons_of_mem _ (ih (by simpa using h))
  | case5 t ts _ _ _ ih => exact List.mem_cons_of_mem _ (ih (by simpa using h))

theorem evalAll_of_eval_mkAndAll {ts : List Term} (n : Nat) (h : m.eval (mkAndAll n ts) = .ok (.bool true)) :
    m.evalAll ts = .ok true := by
  unfold mkAndAll at h
  split at h
  · simp at h
  · next he => rw [← evalAll_conjArgs he]; rfl
  · next t ht => rw [← evalAll_conjArgs ht, evalAll_eq_true_iff]; simpa using h
  · next args _ _ hs =>
    rw [Model.eval_conj] at h
    rw [← evalAll_conjArgs hs]
    cases hx : m.evalAll args <;> simp_all [Except.map]

theorem exists_of_eval_mkOrAll {ts : List Term} (n : Nat) (h : m.eval (mkOrAll n ts) = .ok (.bool true)) :
    ∃ t ∈ ts, m.eval t = .ok (.bool true) := by
  unfold mkOrAll at h
  split at h
  · next hn => exact ⟨_, mem_of_disjArgs_eq_none hn, rfl⟩
  · simp at h
  · next t ht =>
    refine exists_of_evalAny_eq_true ?_
    rw [← evalAny_disjArgs ht, Model.evalAny_cons [] h]
    rfl
  · next args _ _ hs =>
    rw [Model.eval_disj] at h
    refine exists_of_evalAny_eq_true ?_
    rw [← evalAny_disjArgs hs]
    cases hx : m.evalAny args <;> simp_all [Except.map]

theorem evalAny_eq_true_of_mem {ts : List Term} {c : Bool} (h : m.evalAny ts = .ok c) {t : Term}
    (ht : t ∈ ts) (htrue : m.eval t = .ok (.bool true)) : c = true := by
  induction ts with
  | nil => cases ht
  | cons x xs ih =>
    cases hx : m.eval x with
    | error e => simp [Model.evalAny, hx, bind, Except.bind] at h
    | ok v =>
      cases v with
      | bool b =>
        rw [Model.evalAny_cons xs hx] at h
        cases b
        · rcases List.mem_cons.1 ht with rfl | ht
          · cases htrue.symm.trans hx
          · exact ih h ht
        · simpa using h.symm
      | _ => simp [Model.evalAny, hx, Model.asBool, bind, Except.bind] at h

theorem exists_mem_disjArgs {ts args : List Term} (h : disjArgs ts = some args) {t : Term}
    (ht : t ∈ ts) (htrue : m.eval t = .ok (.bool true)) : ∃ u ∈ args, m.eval u = .ok (.bool true) := by
  fun_induction disjArgs ts generalizing args with
  | case1 => cases ht
  | case2 ts ih =>
    rcases List.mem_cons.1 ht with rfl | ht
    · simp [Model.eval] at htrue
    · exact ih h ht
  | case3 => simp at h
  | case4 k inner ts ih =>
    obtain ⟨rest, hr, rfl⟩ := Option.map_eq_some_iff.1 h
    rcases List.mem_cons.1 ht with rfl | ht
    · -- the nested disjunction is spliced in: one of its arguments is true
      rw [Model.eval_disj] at htrue
      obtain ⟨u, hu, hut⟩ : ∃ u ∈ inner, m.eval u = .ok (.bool true) := by
        refine exists_of_evalAny_eq_true ?_
        cases hi : m.evalAny inner <;> simp_all [Except.map]
      exact ⟨u, List.mem_append_left _ hu, hut⟩
    · obtain ⟨u, hu, hut⟩ := ih hr ht
      exact ⟨u, List.mem_append_right _ hu, hut⟩
  | case5 x ts _ _ _ ih =>
    obtain ⟨rest, hr, rfl⟩ := Option.map_eq_some_iff.1 h
    rcases List.mem_cons.1 ht with rfl | ht
    · exact ⟨_, List.mem_cons_self, htrue⟩
    · obtain ⟨u, hu, hut⟩ := ih hr ht
      exact ⟨u, List.mem_cons_of_mem _ hu, hut⟩

theorem eval_mkOrAll_of_mem {ts : List Term} {v : Value} (n : Nat) (h : m.eval (mkOrAll n ts) = .ok v)
    {t : Term} (ht : t ∈ ts) (htrue : m.eval t = .ok (.bool true)) : v = .bool true := by
  unfold mkOrAll at h
  split at h
  · simpa [Model.eval] using h.symm
  · next hs => simpa using exists_mem_disjArgs hs ht htrue
  · next x hs =>
    obtain ⟨u, hu, hut⟩ := exists_mem_disjArgs hs ht htrue
    rw [List.mem_singleton.1 hu] at hut
    exact Except.ok.inj (h.symm.trans hut)
  · next args _ _ hs =>
    obtain ⟨u, hu, hut⟩ := exists_mem_disjArgs hs ht htrue
    rw [Model.eval_disj] at h
    cases hx : m.evalAny args with
    | error e => simp [hx, Except.map] at h
    | ok c =>
      simp only [hx, Except.map, Except.ok.injEq] at h
      rw [← h, evalAny_eq_true_of_mem hx hu hut]

theorem eval_imp_inv {k : Nat} {a b : Term} (h : m.eval (.imp k a b) = .ok (.bool true)) :
    ∃ x, m.eval a = .ok (.bool x) ∧ (x = true → m.eval b = .ok (.bool true)) := by
  cases ha : m.eval a with
  | error e => simp [Model.eval, ha, bind, Except.bind] at h
  | ok w =>
    cases w with
    | bool x =>
      refine ⟨x, rfl, fun hx => ?_⟩
      subst hx
      cases hb : m.eval b with
      | error e => simp [Model.eval, ha, hb, Model.asBool, bind, Except.bind] at h
      | ok v =>
        cases v <;> simp_all [Model.eval, Model.asBool, bind, Except.bind, pure, Except.pure]
    | _ => simp [Model.eval, ha, Model.asBool, bind, Except.bind] at h

theorem eval_of_eval_mkImplies {a b : Term} (n : Nat) (h : m.eval (mkImplies n a b) = .ok (.bool true))
    (ha : m.eval a = .ok (.bool true)) : m.eval b = .ok (.bool true) := by
  unfold mkImplies at h
  split at h
  · next _ _ hf => cases value_of_asBool? hf ha
  · next _ _ ht _ => rw [eq_of_asBool? ht]; rfl
  · exact h
  · next _ _ hf _ _ => simpa [ha] using eval_of_eval_mkNot n h
  · obtain ⟨x, hx, hb⟩ := eval_imp_inv h
    cases ha.symm.trans hx
    exact hb rfl

theorem eval_false_of_eval_mkImplies {a b : Term} (n : Nat)
    (h : m.eval (mkImplies n a b) = .ok (.bool true)) (hb : m.eval b = .ok (.bool false)) :
    m.eval a = .ok (.bool false) := by
  unfold mkImplies at h
  split at h
  · next _ _ hf => rw [eq_of_asBool? hf]; rfl
  · next _ _ ht _ => cases value_of_asBool? ht hb
  · cases h.symm.trans hb
  · exact eval_of_eval_mkNot n h
  · obtain ⟨x, hx, hxb⟩ := eval_imp_inv h
    cases x
    · exact hx
    · cases (hxb rfl).symm.trans hb

theorem true_iff_of_eval_mkEq {a b : Term} (n : Nat) (h : m.eval (mkEq n a b) = .ok (.bool true)) :
    m.eval a = .ok (.bool true) ↔ m.eval b = .ok (.bool true) := by
  unfold mkEq at h
  split at h
  · next hsame => rw [eq_of_same hsame]
  · split at h
    · simp [ff, Model.eval] at h
    · split at h
      · next _ _ ht => simp [eq_of_asBool? ht, Model.eval, h]
      · next _ _ hf => simp [eq_of_asBool? hf, Model.eval, eval_of_eval_mkNot n h]
      · next _ _ ht _ _ => simp [eq_of_asBool? ht, Model.eval, h]
      · next _ _ hf _ _ => simp [eq_of_asBool? hf, Model.eval, eval_of_eval_mkNot n h]
      · -- an equation node: both sides evaluate, to equal values
        cases ha : m.eval a with
        | error e => simp [Model.eval, ha, bind, Except.bind] at h
        | ok va =>
          cases hb : m.eval b with
          | error e => simp [Model.eval, ha, hb, bind, Except.bind] at h
          | ok vb =>
            rw [Model.eval_eq ha hb] at h
            simp only [Except.ok.injEq, Value.bool.injEq, beq_iff_eq] at h
            rw [h]

theorem exists_eval_of_eval_mkEq {a b : Term} (n : Nat) (h : m.eval (mkEq n a b) = .ok (.bool true))
    (hb : ∃ v, m.eval b = .ok v) : ∃ v, m.eval a = .ok v := by
  unfold mkEq at h
  split at h
  · next hsame => rwa [eq_of_same hsame]
  · split at h
    · simp [ff, Model.eval] at h
    · split at h
      · next _ _ ht => exact ⟨_, by rw [eq_of_asBool? ht]; rfl⟩
      · next _ _ hf => exact ⟨_, by rw [eq_of_asBool? hf]; rfl⟩
      · exact ⟨_, h⟩
      · exact ⟨_, eval_of_eval_mkNot n h⟩
      · -- an equation node has a value only when both sides have one
        cases ha : m.eval a with
        | error e => simp [Model.eval, ha, bind, Except.bind] at h
        | ok va => exact ⟨va, rfl⟩

end Values

/-- The term is well-sorted, of sort `s`, and uses only variables of `vs`. -/
structure Within (t : Term) (s : TermSort) (vs : List (String × TermSort)) : Prop where
  wellSorted : t.wellSorted = true
  sort_eq : t.sort = s
  vars_subset : t.vars ⊆ vs

section Shapes

variable {vs : List (String × TermSort)}

theorem boolArgs_iff {xs : List Term} :
    boolArgs xs = true ↔ ∀ x ∈ xs, x.wellSorted = true ∧ x.sort = .bool := by
  induction xs with
  | nil => simp [boolArgs]
  | cons x xs ih => simp [boolArgs, ih]

theorem argVars_subset_iff {xs : List Term} : argVars xs ⊆ vs ↔ ∀ x ∈ xs, x.vars ⊆ vs := by
  induction xs with
  | nil => simp [argVars]
  | cons x xs ih => simp [argVars, ih]

theorem within_of_mem_conj {k : Nat} {xs : List Term} {x : Term} (h : (conj k xs).Within .bool vs)
    (hx : x ∈ xs) : x.Within .bool vs :=
  ⟨(boolArgs_iff.1 h.wellSorted x hx).1, (boolArgs_iff.1 h.wellSorted x hx).2,
    List.Subset.trans (vars_subset_argVars hx) h.vars_subset⟩

theorem within_of_mem_disj {k : Nat} {xs : List Term} {x : Term} (h : (disj k xs).Within .bool vs)
    (hx : x ∈ xs) : x.Within .bool vs :=
  ⟨(boolArgs_iff.1 h.wellSorted x hx).1, (boolArgs_iff.1 h.wellSorted x hx).2,
    List.Subset.trans (vars_subset_argVars hx) h.vars_subset⟩

theorem within_conj {n : Nat} {xs : List Term} (h : ∀ x ∈ xs, x.Within .bool vs) :
    (conj n xs).Within .bool vs :=
  ⟨boolArgs_iff.2 fun x hx => ⟨(h x hx).wellSorted, (h x hx).sort_eq⟩, rfl,
    argVars_subset_iff.2 fun x hx => (h x hx).vars_subset⟩

theorem within_disj {n : Nat} {xs : List Term} (h : ∀ x ∈ xs, x.Within .bool vs) :
    (disj n xs).Within .bool vs :=
  ⟨boolArgs_iff.2 fun x hx => ⟨(h x hx).wellSorted, (h x hx).sort_eq⟩, rfl,
    argVars_subset_iff.2 fun x hx => (h x hx).vars_subset⟩

theorem within_bool (b : Bool) : (Term.bool b).Within .bool vs := ⟨rfl, rfl, by simp [vars]⟩

theorem within_neg {a : Term} (n : Nat) (h : a.Within .bool vs) : (neg n a).Within .bool vs :=
  ⟨by simp [wellSorted, h.wellSorted, h.sort_eq], rfl, h.vars_subset⟩

theorem within_mkNot {a : Term} (n : Nat) (h : a.Within .bool vs) : (mkNot n a).Within .bool vs := by
  cases a with
  | bool b => exact within_bool _
  | neg k x =>
    have hw := h.wellSorted
    simp only [wellSorted, Bool.and_eq_true, beq_iff_eq] at hw
    exact ⟨hw.1, hw.2, h.vars_subset⟩
  | _ => exact within_neg n h

theorem conjArgs_within {ts args : List Term} (h : conjArgs ts = some args)
    (hw : ∀ t ∈ ts, t.Within .bool vs) : ∀ t ∈ args, t.Within .bool vs := by
  fun_induction conjArgs ts generalizing args with
  | case1 => cases h; simp
  | case2 ts ih => exact ih h fun t ht => hw t (List.mem_cons_of_mem _ ht)
  | case3 => simp at h
  | case4 k inner ts ih =>
    obtain ⟨rest, hr, rfl⟩ := Option.map_eq_some_iff.1 h
    have hi := hw _ (List.mem_cons_self ..)
    intro t ht
    rcases List.mem_append.1 ht with ht | ht
    · exact within_of_mem_conj hi ht
    · exact ih hr (fun t ht => hw t (List.mem_cons_of_mem _ ht)) t ht
  | case5 x ts _ _ _ ih =>
    obtain ⟨rest, hr, rfl⟩ := Option.map_eq_some_iff.1 h
    intro t ht
    rcases List.mem_cons.1 ht with rfl | ht
    · exact hw _ (List.mem_cons_self ..)
    · exact ih hr (fun t ht => hw t (List.mem_cons_of_mem _ ht)) t ht

theorem disjArgs_within {ts args : List Term} (h : disjArgs ts = some args)
    (hw : ∀ t ∈ ts, t.Within .bool vs) : ∀ t ∈ args, t.Within .bool vs := by
  fun_induction disjArgs ts generalizing args with
  | case1 => cases h; simp
  | case2 ts ih => exact ih h fun t ht => hw t (List.mem_cons_of_mem _ ht)
  | case3 => simp at h
  | case4 k inner ts ih =>
    obtain ⟨rest, hr, rfl⟩ := Option.map_eq_some_iff.1 h
    have hi := hw _ (List.mem_cons_self ..)
    intro t ht
    rcases List.mem_append.1 ht with ht | ht
    · exact within_of_mem_disj hi ht
    · exact ih hr (fun t ht => hw t (List.mem_cons_of_mem _ ht)) t ht
  | case5 x ts _ _ _ ih =>
    obtain ⟨rest, hr, rfl⟩ := Option.map_eq_some_iff.1 h
    intro t ht
    rcases List.mem_cons.1 ht with rfl | ht
    · exact hw _ (List.mem_cons_self ..)
    · exact ih hr (fun t ht => hw t (List.mem_cons_of_mem _ ht)) t ht

theorem within_mkAndAll {ts : List Term} (n : Nat) (h : ∀ t ∈ ts, t.Within .bool vs) :
    (mkAndAll n ts).Within .bool vs := by
  unfold mkAndAll
  split
  · exact within_bool _
  · exact within_bool _
  · next t ht => exact conjArgs_within ht h t (List.mem_singleton_self t)
  · next args _ _ hs => exact within_conj (conjArgs_within hs h)

theorem within_mkOrAll {ts : List Term} (n : Nat) (h : ∀ t ∈ ts, t.Within .bool vs) :
    (mkOrAll n ts).Within .bool vs := by
  unfold mkOrAll
  split
  · exact within_bool _
  · exact within_bool _
  · next t ht => exact disjArgs_within ht h t (List.mem_singleton_self t)
  · next args _ _ hs => exact within_disj (disjArgs_within hs h)

theorem within_mkImplies {a b : Term} (n : Nat) (ha : a.Within .bool vs) (hb : b.Within .bool vs) :
    (mkImplies n a b).Within .bool vs := by
  have hi : (imp n a b).Within .bool vs :=
    ⟨by simp [wellSorted, ha.wellSorted, hb.wellSorted, ha.sort_eq, hb.sort_eq], rfl,
      List.append_subset.2 ⟨ha.vars_subset, hb.vars_subset⟩⟩
  unfold mkImplies
  split
  · exact within_bool _
  · exact within_bool _
  · exact hb
  · exact within_mkNot n ha
  · exact hi

theorem within_mkIte {c t e : Term} {s : TermSort} (n : Nat) (hc : c.Within .bool vs)
    (ht : t.Within s vs) (he : e.Within s vs) : (mkIte n c t e).Within s vs := by
  have hi : (cond n c t e).Within s vs :=
    ⟨by simp [wellSorted, hc.wellSorted, ht.wellSorted, he.wellSorted, hc.sort_eq, ht.sort_eq,
        he.sort_eq], ht.sort_eq,
      List.append_subset.2 ⟨List.append_subset.2 ⟨hc.vars_subset, ht.vars_subset⟩, he.vars_subset⟩⟩
  -- every branch that folds to a boolean combination has a boolean literal as `t` or `e`
  have bool_of_t {b : Bool} (h : t.asBool? = some b) : s = .bool := by
    rw [← ht.sort_eq, eq_of_asBool? h]; rfl
  have bool_of_e {b : Bool} (h : e.asBool? = some b) : s = .bool := by
    rw [← he.sort_eq, eq_of_asBool? h]; rfl
  unfold mkIte
  split
  · exact ht
  · exact he
  · split
    · exact ht
    · split
      · next h1 _ => obtain rfl := bool_of_t h1; exact hc
      · next h1 _ => obtain rfl := bool_of_t h1; exact within_mkNot n hc
      · next h1 _ => obtain rfl := bool_of_t h1; exact within_mkOrAll n (by simp [hc, he])
      · next h1 _ =>
        obtain rfl := bool_of_t h1
        exact within_mkAndAll (n + 1) (by simp [within_mkNot n hc, he])
      · next _ h2 =>
        obtain rfl := bool_of_e h2
        exact within_mkOrAll (n + 1) (by simp [within_mkNot n hc, ht])
      · next _ h2 => obtain rfl := bool_of_e h2; exact within_mkAndAll n (by simp [hc, ht])
      · exact hi

theorem within_mkEq {a b : Term} {s : TermSort} (n : Nat) (ha : a.Within s vs)
    (hb : b.Within s vs) : (mkEq n a b).Within .bool vs := by
  have hi : (eq n a b).Within .bool vs :=
    ⟨by simp [wellSorted, ha.wellSorted, hb.wellSorted, ha.sort_eq, hb.sort_eq], rfl,
      List.append_subset.2 ⟨ha.vars_subset, hb.vars_subset⟩⟩
  have bool_of_a {x : Bool} (h : a.asBool? = some x) : s = .bool := by
    rw [← ha.sort_eq, eq_of_asBool? h]; rfl
  have bool_of_b {x : Bool} (h : b.asBool? = some x) : s = .bool := by
    rw [← hb.sort_eq, eq_of_asBool? h]; rfl
  unfold mkEq
  split
  · exact within_bool _
  · split
    · exact within_bool _
    · split
      · next h1 => obtain rfl := bool_of_a h1; exact hb
      · next h1 => obtain rfl := bool_of_a h1; exact within_mkNot n hb
      · obtain rfl := bool_of_b ‹b.asBool? = some true›; exact ha
      · obtain rfl := bool_of_b ‹b.asBool? = some false›; exact within_mkNot n ha
      · exact hi

/-- Both arguments are well-sorted integers over `vs`: the shape of every integer comparison and
operation. -/
theorem int_args_within {a b : Term} (ha : a.Within .int vs) (hb : b.Within .int vs) :
    (a.wellSorted && b.wellSorted && a.sort == .int && b.sort == .int) = true ∧
      a.vars ++ b.vars ⊆ vs :=
  ⟨by simp [ha.wellSorted, hb.wellSorted, ha.sort_eq, hb.sort_eq],
    List.append_subset.2 ⟨ha.vars_subset, hb.vars_subset⟩⟩

theorem within_mkLt {a b : Term} (n : Nat) (ha : a.Within .int vs) (hb : b.Within .int vs) :
    (mkLt n a b).Within .bool vs := by
  unfold mkLt
  split
  · exact within_bool _
  · split
    · exact within_bool _
    · exact ⟨(int_args_within ha hb).1, rfl, (int_args_within ha hb).2⟩

theorem within_mkLe {a b : Term} (n : Nat) (ha : a.Within .int vs) (hb : b.Within .int vs) :
    (mkLe n a b).Within .bool vs := by
  unfold mkLe
  split
  · exact within_bool _
  · split
    · exact within_bool _
    · exact ⟨(int_args_within ha hb).1, rfl, (int_args_within ha hb).2⟩

theorem within_saturate (i : Int) : (Term.int (saturate i)).Within .int vs :=
  ⟨by simp [wellSorted, saturate_mem], rfl, by simp [vars]⟩

theorem within_mkAdd {a b : Term} (n : Nat) (ha : a.Within .int vs) (hb : b.Within .int vs) :
    (mkAdd n a b).Within .int vs := by
  unfold mkAdd
  split
  · exact within_saturate _
  · exact ha
  · exact hb
  · exact ⟨(int_args_within ha hb).1, rfl, (int_args_within ha hb).2⟩

theorem within_mkSub {a b : Term} (n : Nat) (ha : a.Within .int vs) (hb : b.Within .int vs) :
    (mkSub n a b).Within .int vs := by
  unfold mkSub
  split
  · exact within_saturate _
  · exact ha
  · exact ⟨(int_args_within ha hb).1, rfl, (int_args_within ha hb).2⟩

theorem within_mkBvAnd {a b : Term} {w : Nat} (n : Nat) (ha : a.Within (.bitVec w) vs)
    (hb : b.Within (.bitVec w) vs) : (mkBvAnd n a b).Within (.bitVec w) vs := by
  unfold mkBvAnd
  split
  · next x w' y _ =>
    have hw : w' = w := by simpa [sort] using ha.sort_eq
    subst hw
    exact ⟨by simp [mkBv, wellSorted, Nat.and_assoc], rfl, by simp [mkBv, vars]⟩
  · exact ⟨by simp [wellSorted, ha.wellSorted, hb.wellSorted, ha.sort_eq, hb.sort_eq,
      TermSort.isBitVec], ha.sort_eq, List.append_subset.2 ⟨ha.vars_subset, hb.vars_subset⟩⟩

theorem within_mkBvUle {a b : Term} {w : Nat} (n : Nat) (ha : a.Within (.bitVec w) vs)
    (hb : b.Within (.bitVec w) vs) : (mkBvUle n a b).Within .bool vs := by
  unfold mkBvUle
  split
  · exact within_bool _
  · exact ⟨by simp [wellSorted, ha.wellSorted, hb.wellSorted, ha.sort_eq, hb.sort_eq,
      TermSort.isBitVec], rfl, List.append_subset.2 ⟨ha.vars_subset, hb.vars_subset⟩⟩

end Shapes

end Term
end ControlPlane
