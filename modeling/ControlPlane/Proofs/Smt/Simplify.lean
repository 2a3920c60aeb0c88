import ControlPlane.Proofs.Smt.Folding
import ControlPlane.Smt.Context

/-!
# Folding and simplification preserve meaning

`FoldsTo t r` says that `r` may stand for `t`: it is well-sorted, has the sort of `t`, uses no
variable that `t` does not, and has the value of `t` under every model that fits `t`. Each folding
constructor, given arguments that fold the arguments of a well-sorted node, folds that node; the
memoised rebuild of `simplify` only ever records such results, so it folds the whole term.

Models that give a variable a value of another sort are left out on purpose: under them folding
`true = x` to `x` changes the value.
-/

namespace ControlPlane
namespace Term

/-- `r` may stand for `t`. -/
structure FoldsTo (t r : Term) : Prop where
  within : r.Within t.sort t.vars
  eval_eq : ∀ m : Model, m.Fits t → m.eval r = m.eval t

/-- The second list folds the first, argument by argument. -/
inductive ArgsFoldTo : List Term → List Term → Prop
  | nil : ArgsFoldTo [] []
  | cons {x y : Term} {xs ys : List Term} : FoldsTo x y → ArgsFoldTo xs ys →
      ArgsFoldTo (x :: xs) (y :: ys)

section Arguments

variable {m : Model} {a a' : Term}

theorem FoldsTo.refl {t : Term} (h : t.wellSorted = true) : FoldsTo t t :=
  ⟨⟨h, rfl, List.Subset.refl _⟩, fun _ _ => rfl⟩

theorem FoldsTo.arg {s : TermSort} {vs : List (String × TermSort)} (h : FoldsTo a a')
    (hs : a.sort = s) (hv : a.vars ⊆ vs) : a'.Within s vs :=
  ⟨h.within.wellSorted, h.within.sort_eq.trans hs, List.Subset.trans h.within.vars_subset hv⟩

theorem FoldsTo.eval_bool (h : FoldsTo a a') (hw : a.wellSorted = true) (hs : a.sort = .bool)
    (hm : m.Fits a) : ∃ x, m.eval a = .ok (.bool x) ∧ m.eval a' = .ok (.bool x) := by
  obtain ⟨x, hx⟩ := (m.typed_of_wellSorted a hw hm).bool hs
  exact ⟨x, hx, (h.eval_eq m hm).trans hx⟩

theorem FoldsTo.eval_int (h : FoldsTo a a') (hw : a.wellSorted = true) (hs : a.sort = .int)
    (hm : m.Fits a) : ∃ x, m.eval a = .ok (.int x) ∧ m.eval a' = .ok (.int x) ∧
      minI64 ≤ x ∧ x ≤ maxI64 := by
  obtain ⟨x, hx, hr⟩ := (m.typed_of_wellSorted a hw hm).int hs
  exact ⟨x, hx, (h.eval_eq m hm).trans hx, hr⟩

theorem FoldsTo.eval_bv (h : FoldsTo a a') (hw : a.wellSorted = true) (hs : a.sort.isBitVec)
    (hm : m.Fits a) : ∃ x, m.eval a = .ok (.bv x) ∧ m.eval a' = .ok (.bv x) := by
  obtain ⟨x, hx⟩ := (m.typed_of_wellSorted a hw hm).bv hs
  exact ⟨x, hx, (h.eval_eq m hm).trans hx⟩

theorem FoldsTo.eval_fits (h : FoldsTo a a') (hw : a.wellSorted = true) (hm : m.Fits a) :
    ∃ v, m.eval a = .ok v ∧ m.eval a' = .ok v ∧ v.fits a'.sort := by
  obtain ⟨v, hv, hf, -⟩ := m.typed_of_wellSorted a hw hm
  exact ⟨v, hv, (h.eval_eq m hm).trans hv, h.within.sort_eq ▸ hf⟩

theorem argsFoldTo_refl {xs : List Term} (h : ∀ x ∈ xs, x.wellSorted = true) :
    ArgsFoldTo xs xs := by
  induction xs with
  | nil => exact .nil
  | cons x xs ih =>
    exact .cons (.refl (h x (List.mem_cons_self ..))) (ih fun y hy => h y (List.mem_cons_of_mem _ hy))

theorem argsFoldTo_within {xs ys : List Term} (h : ArgsFoldTo xs ys)
    (hw : boolArgs xs = true) : ∀ y ∈ ys, y.Within .bool (argVars xs) := by
  induction h with
  | nil => simp
  | cons hxy _ ih =>
    simp only [boolArgs, Bool.and_eq_true, beq_iff_eq] at hw
    intro y hy
    rcases List.mem_cons.1 hy with rfl | hy
    · exact hxy.arg hw.1.2 (by simp [argVars])
    · exact Within.mk (ih hw.2 y hy).wellSorted (ih hw.2 y hy).sort_eq
        (List.Subset.trans (ih hw.2 y hy).vars_subset (by simp [argVars]))

theorem evalAll_argsFoldTo {xs ys : List Term} (h : ArgsFoldTo xs ys)
    (hw : boolArgs xs = true) (hm : ∀ x ∈ argVars xs, m.FitsVar x) :
    m.evalAll ys = m.evalAll xs := by
  induction h with
  | nil => rfl
  | cons hxy _ ih =>
    simp only [boolArgs, Bool.and_eq_true, beq_iff_eq] at hw
    obtain ⟨c, hc, hc'⟩ := hxy.eval_bool hw.1.1 hw.1.2 fun v hv => hm v (by simp [argVars, hv])
    rw [Model.evalAll_cons _ hc', Model.evalAll_cons _ hc,
      ih hw.2 fun v hv => hm v (by simp [argVars, hv])]

theorem evalAny_argsFoldTo {xs ys : List Term} (h : ArgsFoldTo xs ys)
    (hw : boolArgs xs = true) (hm : ∀ x ∈ argVars xs, m.FitsVar x) :
    m.evalAny ys = m.evalAny xs := by
  induction h with
  | nil => rfl
  | cons hxy _ ih =>
    simp only [boolArgs, Bool.and_eq_true, beq_iff_eq] at hw
    obtain ⟨c, hc, hc'⟩ := hxy.eval_bool hw.1.1 hw.1.2 fun v hv => hm v (by simp [argVars, hv])
    rw [Model.evalAny_cons _ hc', Model.evalAny_cons _ hc,
      ih hw.2 fun v hv => hm v (by simp [argVars, hv])]

end Arguments

section Constructors

variable {k : Nat} {a b c a' b' c' : Term}

theorem foldsTo_mkNot (n : Nat) (hw : (neg k a).wellSorted = true) (ha : FoldsTo a a') :
    FoldsTo (neg k a) (mkNot n a') := by
  simp only [wellSorted, Bool.and_eq_true, beq_iff_eq] at hw
  refine ⟨within_mkNot n (ha.arg hw.2 (List.Subset.refl _)), fun m hm => ?_⟩
  obtain ⟨x, hx, hx'⟩ := ha.eval_bool hw.1 hw.2 hm
  rw [eval_mkNot n hx', Model.eval_neg hx]

theorem foldsTo_mkAndAll {xs ys : List Term} (n : Nat) (hw : (conj k xs).wellSorted = true)
    (h : ArgsFoldTo xs ys) : FoldsTo (conj k xs) (mkAndAll n ys) := by
  refine ⟨within_mkAndAll n (argsFoldTo_within h hw), fun m hm => ?_⟩
  obtain ⟨d, hd⟩ := Model.evalAll_ok (Model.typed_boolArgs xs hw hm)
  rw [eval_mkAndAll n ((evalAll_argsFoldTo h hw hm).trans hd), Model.eval_conj, hd]
  rfl

theorem foldsTo_mkOrAll {xs ys : List Term} (n : Nat) (hw : (disj k xs).wellSorted = true)
    (h : ArgsFoldTo xs ys) : FoldsTo (disj k xs) (mkOrAll n ys) := by
  refine ⟨within_mkOrAll n (argsFoldTo_within h hw), fun m hm => ?_⟩
  obtain ⟨d, hd⟩ := Model.evalAny_ok (Model.typed_boolArgs xs hw hm)
  rw [eval_mkOrAll n ((evalAny_argsFoldTo h hw hm).trans hd), Model.eval_disj, hd]
  rfl

theorem foldsTo_mkImplies (n : Nat) (hw : (imp k a b).wellSorted = true) (ha : FoldsTo a a')
    (hb : FoldsTo b b') : FoldsTo (imp k a b) (mkImplies n a' b') := by
  simp only [wellSorted, Bool.and_eq_true, beq_iff_eq] at hw
  refine ⟨within_mkImplies n (ha.arg hw.1.2 (List.subset_append_left _ _))
    (hb.arg hw.2 (List.subset_append_right _ _)), fun m hm => ?_⟩
  obtain ⟨x, hx, hx'⟩ := ha.eval_bool hw.1.1.1 hw.1.2 (hm.mono (List.subset_append_left _ _))
  obtain ⟨y, hy, hy'⟩ := hb.eval_bool hw.1.1.2 hw.2 (hm.mono (List.subset_append_right _ _))
  rw [eval_mkImplies n hx' hy', Model.eval_imp hx hy]

theorem foldsTo_mkIte (n : Nat) (hw : (cond k c a b).wellSorted = true) (hc : FoldsTo c c')
    (ha : FoldsTo a a') (hb : FoldsTo b b') : FoldsTo (cond k c a b) (mkIte n c' a' b') := by
  simp only [wellSorted, Bool.and_eq_true, beq_iff_eq] at hw
  have hvc : c.vars ⊆ (cond k c a b).vars := by simp [vars]
  have hva : a.vars ⊆ (cond k c a b).vars := by simp [vars]
  have hvb : b.vars ⊆ (cond k c a b).vars := by simp [vars]
  refine ⟨within_mkIte n (hc.arg hw.1.2 hvc) (ha.arg rfl hva) (hb.arg hw.2.symm hvb),
    fun m hm => ?_⟩
  obtain ⟨x, hx, hx'⟩ := hc.eval_bool hw.1.1.1.1 hw.1.2 (hm.mono hvc)
  obtain ⟨va, hva, hva', hfa⟩ := ha.eval_fits hw.1.1.1.2 (hm.mono hva)
  obtain ⟨vb, hvb, hvb', hfb⟩ := hb.eval_fits hw.1.1.2 (hm.mono hvb)
  have hs : a'.sort = b'.sort := by rw [ha.within.sort_eq, hb.within.sort_eq, hw.2]
  rw [eval_mkIte n hx' hva' hvb' hs hfa hfb, Model.eval_cond c a b hx, hva, hvb]
  cases x <;> rfl

theorem foldsTo_mkEq (n : Nat) (hw : (eq k a b).wellSorted = true) (ha : FoldsTo a a')
    (hb : FoldsTo b b') : FoldsTo (eq k a b) (mkEq n a' b') := by
  simp only [wellSorted, Bool.and_eq_true, beq_iff_eq] at hw
  refine ⟨within_mkEq n (ha.arg hw.2 (List.subset_append_left _ _))
    (hb.arg rfl (List.subset_append_right _ _)), fun m hm => ?_⟩
  obtain ⟨va, hva, hva', hfa⟩ := ha.eval_fits hw.1.1 (hm.mono (List.subset_append_left _ _))
  obtain ⟨vb, hvb, hvb', hfb⟩ := hb.eval_fits hw.1.2 (hm.mono (List.subset_append_right _ _))
  have hs : a'.sort = b'.sort := by rw [ha.within.sort_eq, hb.within.sort_eq, hw.2]
  rw [eval_mkEq n hva' hvb' hs hfa hfb, Model.eval_eq hva hvb]

theorem foldsTo_mkLt (n : Nat) (hw : (lt k a b).wellSorted = true) (ha : FoldsTo a a')
    (hb : FoldsTo b b') : FoldsTo (lt k a b) (mkLt n a' b') := by
  simp only [wellSorted, Bool.and_eq_true, beq_iff_eq] at hw
  refine ⟨within_mkLt n (ha.arg hw.1.2 (List.subset_append_left _ _))
    (hb.arg hw.2 (List.subset_append_right _ _)), fun m hm => ?_⟩
  obtain ⟨x, hx, hx', -⟩ := ha.eval_int hw.1.1.1 hw.1.2 (hm.mono (List.subset_append_left _ _))
  obtain ⟨y, hy, hy', -⟩ := hb.eval_int hw.1.1.2 hw.2 (hm.mono (List.subset_append_right _ _))
  rw [eval_mkLt n hx' hy', Model.eval_lt hx hy]

theorem foldsTo_mkLe (n : Nat) (hw : (le k a b).wellSorted = true) (ha : FoldsTo a a')
    (hb : FoldsTo b b') : FoldsTo (le k a b) (mkLe n a' b') := by
  simp only [wellSorted, Bool.and_eq_true, beq_iff_eq] at hw
  refine ⟨within_mkLe n (ha.arg hw.1.2 (List.subset_append_left _ _))
    (hb.arg hw.2 (List.subset_append_right _ _)), fun m hm => ?_⟩
  obtain ⟨x, hx, hx', -⟩ := ha.eval_int hw.1.1.1 hw.1.2 (hm.mono (List.subset_append_left _ _))
  obtain ⟨y, hy, hy', -⟩ := hb.eval_int hw.1.1.2 hw.2 (hm.mono (List.subset_append_right _ _))
  rw [eval_mkLe n hx' hy', Model.eval_le hx hy]

theorem foldsTo_mkAdd (n : Nat) (hw : (add k a b).wellSorted = true) (ha : FoldsTo a a')
    (hb : FoldsTo b b') : FoldsTo (add k a b) (mkAdd n a' b') := by
  simp only [wellSorted, Bool.and_eq_true, beq_iff_eq] at hw
  refine ⟨within_mkAdd n (ha.arg hw.1.2 (List.subset_append_left _ _))
    (hb.arg hw.2 (List.subset_append_right _ _)), fun m hm => ?_⟩
  obtain ⟨x, hx, hx', hrx⟩ :=
    ha.eval_int hw.1.1.1 hw.1.2 (hm.mono (List.subset_append_left _ _))
  obtain ⟨y, hy, hy', hry⟩ :=
    hb.eval_int hw.1.1.2 hw.2 (hm.mono (List.subset_append_right _ _))
  rw [eval_mkAdd n hx' hy' hrx hry, Model.eval_add hx hy]

theorem foldsTo_mkSub (n : Nat) (hw : (sub k a b).wellSorted = true) (ha : FoldsTo a a')
    (hb : FoldsTo b b') : FoldsTo (sub k a b) (mkSub n a' b') := by
  simp only [wellSorted, Bool.and_eq_true, beq_iff_eq] at hw
  refine ⟨within_mkSub n (ha.arg hw.1.2 (List.subset_append_left _ _))
    (hb.arg hw.2 (List.subset_append_right _ _)), fun m hm => ?_⟩
  obtain ⟨x, hx, hx', hrx⟩ :=
    ha.eval_int hw.1.1.1 hw.1.2 (hm.mono (List.subset_append_left _ _))
  obtain ⟨y, hy, hy', -⟩ := hb.eval_int hw.1.1.2 hw.2 (hm.mono (List.subset_append_right _ _))
  rw [eval_mkSub n hx' hy' hrx, Model.eval_sub hx hy]

theorem sort_eq_bitVec {s : TermSort} (h : s.isBitVec = true) : ∃ w, s = .bitVec w := by
  cases s with
  | bitVec w => exact ⟨w, rfl⟩
  | _ => simp [TermSort.isBitVec] at h

theorem foldsTo_mkBvAnd (n : Nat) (hw : (bvAnd k a b).wellSorted = true) (ha : FoldsTo a a')
    (hb : FoldsTo b b') : FoldsTo (bvAnd k a b) (mkBvAnd n a' b') := by
  simp only [wellSorted, Bool.and_eq_true, beq_iff_eq] at hw
  obtain ⟨w, hsw⟩ := sort_eq_bitVec hw.1.2
  refine ⟨?_, fun m hm => ?_⟩
  · rw [show (bvAnd k a b).sort = a.sort from rfl, hsw]
    exact within_mkBvAnd n (ha.arg hsw (List.subset_append_left _ _))
      (hb.arg (hw.2 ▸ hsw) (List.subset_append_right _ _))
  · obtain ⟨x, hx, hx'⟩ := ha.eval_bv hw.1.1.1 hw.1.2 (hm.mono (List.subset_append_left _ _))
    obtain ⟨y, hy, hy'⟩ :=
      hb.eval_bv hw.1.1.2 (hw.2 ▸ hw.1.2) (hm.mono (List.subset_append_right _ _))
    rw [eval_mkBvAnd n hx' hy' ha.within.wellSorted, Model.eval_bvAnd hx hy]

theorem foldsTo_mkBvUle (n : Nat) (hw : (bvUle k a b).wellSorted = true) (ha : FoldsTo a a')
    (hb : FoldsTo b b') : FoldsTo (bvUle k a b) (mkBvUle n a' b') := by
  simp only [wellSorted, Bool.and_eq_true, beq_iff_eq] at hw
  obtain ⟨w, hsw⟩ := sort_eq_bitVec hw.1.2
  refine ⟨within_mkBvUle n (ha.arg hsw (List.subset_append_left _ _))
    (hb.arg (hw.2 ▸ hsw) (List.subset_append_right _ _)), fun m hm => ?_⟩
  obtain ⟨x, hx, hx'⟩ := ha.eval_bv hw.1.1.1 hw.1.2 (hm.mono (List.subset_append_left _ _))
  obtain ⟨y, hy, hy'⟩ :=
    hb.eval_bv hw.1.1.2 (hw.2 ▸ hw.1.2) (hm.mono (List.subset_append_right _ _))
  rw [eval_mkBvUle n hx' hy', Model.eval_bvUle hx hy]

end Constructors

def MemoSound (s : Rebuild) : Prop :=
  ∀ (i : Nat) (t r : Term), s.memo[i]? = some (t, r) → FoldsTo t r

/-- Run from a state whose table is sound, the action returns a value satisfying `Q` and leaves
the table sound. -/
def KeepsSound {α : Type} (x : StateM Rebuild α) (Q : α → Prop) : Prop :=
  ∀ s, MemoSound s → Q (x.run s).1 ∧ MemoSound (x.run s).2

section Rebuild

variable {α β : Type} {t : Term}

theorem KeepsSound.pure {a : α} {Q : α → Prop} (h : Q a) : KeepsSound (pure a) Q :=
  fun _ hs => ⟨h, hs⟩

theorem KeepsSound.bind {x : StateM Rebuild α} {f : α → StateM Rebuild β} {Q : α → Prop}
    {R : β → Prop} (hx : KeepsSound x Q) (hf : ∀ a, Q a → KeepsSound (f a) R) :
    KeepsSound (x >>= f) R :=
  fun s hs => hf _ (hx s hs).1 _ (hx s hs).2

theorem memoSound_empty (next : Nat) : MemoSound { memo := {}, next := next } := by
  intro i t r h
  simp at h

theorem keepsSound_fresh : KeepsSound Rebuild.fresh fun _ => True :=
  fun _ hs => ⟨trivial, hs⟩

theorem keepsSound_lookup (t : Term) :
    KeepsSound (Rebuild.lookup t) fun o => ∀ r, o = some r → FoldsTo t r := by
  unfold Rebuild.lookup
  split
  · exact KeepsSound.pure (by simp)
  · next i _ =>
    refine KeepsSound.bind (Q := MemoSound) (fun s hs => ⟨hs, hs⟩) fun s hs => ?_
    split
    · next orig r hi =>
      refine KeepsSound.pure fun r' h => ?_
      split at h
      · next heq =>
        cases Option.some.inj h
        rw [← eq_of_equal orig t heq]
        exact hs i orig r (by rwa [← Std.HashMap.get?_eq_getElem?])
      · cases h
    · exact KeepsSound.pure (by simp)

theorem keepsSound_record {r : Term} (h : FoldsTo t r) :
    KeepsSound (Rebuild.record t r) fun _ => True := by
  unfold Rebuild.record
  split
  · exact KeepsSound.pure trivial
  · next i _ =>
    intro s hs
    refine ⟨trivial, fun j t' r' hj => ?_⟩
    change (s.memo.insert i (t, r))[j]? = some (t', r') at hj
    rw [Std.HashMap.getElem?_insert] at hj
    split at hj
    · cases hj
      exact h
    · exact hs j t' r' hj

/-- The last steps of rebuilding a node: fold the rebuilt arguments under a fresh number, record
the result and return it. -/
theorem keepsSound_finish {f : Nat → Term} (h : ∀ n, FoldsTo t (f n)) :
    KeepsSound (do let n ← Rebuild.fresh; let r ← Pure.pure (f n); Rebuild.record t r; Pure.pure r)
      (FoldsTo t) :=
  keepsSound_fresh.bind fun n _ => (KeepsSound.pure (h n)).bind fun _ hr =>
    (keepsSound_record hr).bind fun _ _ => KeepsSound.pure hr

theorem keepsSound_leaf (hw : t.wellSorted = true) :
    KeepsSound (do let r ← Pure.pure t; Rebuild.record t r; Pure.pure r) (FoldsTo t) :=
  (KeepsSound.pure (FoldsTo.refl hw)).bind fun _ hr =>
    (keepsSound_record hr).bind fun _ _ => KeepsSound.pure hr

theorem keepsSound_binary {a b : Term} {fold : Nat → Term → Term → Term}
    (ha : KeepsSound (rebuild a) (FoldsTo a)) (hb : KeepsSound (rebuild b) (FoldsTo b))
    (h : ∀ n {a' b'}, FoldsTo a a' → FoldsTo b b' → FoldsTo t (fold n a' b')) :
    KeepsSound (do
        let a ← rebuild a; let b ← rebuild b; let n ← Rebuild.fresh
        let r ← Pure.pure (fold n a b); Rebuild.record t r; Pure.pure r) (FoldsTo t) :=
  ha.bind fun _ ha' => hb.bind fun _ hb' => keepsSound_finish fun n => h n ha' hb'

theorem keepsSound_memo {x : Option Term → StateM Rebuild Term} (hx : ∀ r, x (some r) = Pure.pure r)
    (hnone : KeepsSound (x none) (FoldsTo t)) :
    KeepsSound (Rebuild.lookup t >>= x) (FoldsTo t) := by
  refine (keepsSound_lookup t).bind fun o ho => ?_
  cases o with
  | some r => exact hx r ▸ KeepsSound.pure (ho r rfl)
  | none => exact hnone

end Rebuild

section Soundness

mutual
theorem rebuild_sound : ∀ t : Term, t.wellSorted = true → KeepsSound (rebuild t) (FoldsTo t)
  | .bool b, hw => by rw [rebuild]; exact keepsSound_memo (fun _ => rfl) (keepsSound_leaf hw)
  | .int i, hw => by rw [rebuild]; exact keepsSound_memo (fun _ => rfl) (keepsSound_leaf hw)
  | .bv v w, hw => by rw [rebuild]; exact keepsSound_memo (fun _ => rfl) (keepsSound_leaf hw)
  | .var x s, hw => by rw [rebuild]; exact keepsSound_memo (fun _ => rfl) (keepsSound_leaf hw)
  | .neg k a, hw => by
    have ha : a.wellSorted = true := by simp_all [wellSorted]
    rw [rebuild]
    exact keepsSound_memo (fun _ => rfl) <| (rebuild_sound a ha).bind fun _ ha' =>
      keepsSound_finish fun n => foldsTo_mkNot n hw ha'
  | .conj k xs, hw => by
    rw [rebuild]
    exact keepsSound_memo (fun _ => rfl) <|
      (rebuildArgs_sound xs fun x hx => (boolArgs_iff.1 hw x hx).1).bind fun _ hys =>
        keepsSound_finish fun n => foldsTo_mkAndAll n hw hys
  | .disj k xs, hw => by
    rw [rebuild]
    exact keepsSound_memo (fun _ => rfl) <|
      (rebuildArgs_sound xs fun x hx => (boolArgs_iff.1 hw x hx).1).bind fun _ hys =>
        keepsSound_finish fun n => foldsTo_mkOrAll n hw hys
  | .imp k a b, hw => by
    have hab : a.wellSorted = true ∧ b.wellSorted = true := by simp_all [wellSorted]
    rw [rebuild]
    exact keepsSound_memo (fun _ => rfl) <|
      keepsSound_binary (rebuild_sound a hab.1) (rebuild_sound b hab.2) (foldsTo_mkImplies · hw)
  | .cond k c a b, hw => by
    have hcab : c.wellSorted = true ∧ a.wellSorted = true ∧ b.wellSorted = true := by
      simp_all [wellSorted]
    rw [rebuild]
    exact keepsSound_memo (fun _ => rfl) <|
      (rebuild_sound c hcab.1).bind fun _ hc' => (rebuild_sound a hcab.2.1).bind fun _ ha' =>
        (rebuild_sound b hcab.2.2).bind fun _ hb' =>
          keepsSound_finish fun n => foldsTo_mkIte n hw hc' ha' hb'
  | .eq k a b, hw => by
    have hab : a.wellSorted = true ∧ b.wellSorted = true := by simp_all [wellSorted]
    rw [rebuild]
    exact keepsSound_memo (fun _ => rfl) <|
      keepsSound_binary (rebuild_sound a hab.1) (rebuild_sound b hab.2) (foldsTo_mkEq · hw)
  | .lt k a b, hw => by
    have hab : a.wellSorted = true ∧ b.wellSorted = true := by simp_all [wellSorted]
    rw [rebuild]
    exact keepsSound_memo (fun _ => rfl) <|
      keepsSound_binary (rebuild_sound a hab.1) (rebuild_sound b hab.2) (foldsTo_mkLt · hw)
  | .le k a b, hw => by
    have hab : a.wellSorted = true ∧ b.wellSorted = true := by simp_all [wellSorted]
    rw [rebuild]
    exact keepsSound_memo (fun _ => rfl) <|
      keepsSound_binary (rebuild_sound a hab.1) (rebuild_sound b hab.2) (foldsTo_mkLe · hw)
  | .add k a b, hw => by
    have hab : a.wellSorted = true ∧ b.wellSorted = true := by simp_all [wellSorted]
    rw [rebuild]
    exact keepsSound_memo (fun _ => rfl) <|
      keepsSound_binary (rebuild_sound a hab.1) (rebuild_sound b hab.2) (foldsTo_mkAdd · hw)
  | .sub k a b, hw => by
    have hab : a.wellSorted = true ∧ b.wellSorted = true := by simp_all [wellSorted]
    rw [rebuild]
    exact keepsSound_memo (fun _ => rfl) <|
      keepsSound_binary (rebuild_sound a hab.1) (rebuild_sound b hab.2) (foldsTo_mkSub · hw)
  | .bvAnd k a b, hw => by
    have hab : a.wellSorted = true ∧ b.wellSorted = true := by simp_all [wellSorted]
    rw [rebuild]
    exact keepsSound_memo (fun _ => rfl) <|
      keepsSound_binary (rebuild_sound a hab.1) (rebuild_sound b hab.2) (foldsTo_mkBvAnd · hw)
  | .bvUle k a b, hw => by
    have hab : a.wellSorted = true ∧ b.wellSorted = true := by simp_all [wellSorted]
    rw [rebuild]
    exact keepsSound_memo (fun _ => rfl) <|
      keepsSound_binary (rebuild_sound a hab.1) (rebuild_sound b hab.2) (foldsTo_mkBvUle · hw)
theorem rebuildArgs_sound : ∀ xs : List Term, (∀ x ∈ xs, x.wellSorted = true) →
    KeepsSound (rebuildArgs xs) (ArgsFoldTo xs)
  | [], _ => by rw [rebuildArgs]; exact KeepsSound.pure ArgsFoldTo.nil
  | x :: xs, hw => by
    rw [rebuildArgs]
    exact (rebuild_sound x (hw x (List.mem_cons_self ..))).bind fun _ hy =>
      (rebuildArgs_sound xs fun x hx => hw x (List.mem_cons_of_mem _ hx)).bind fun _ hys =>
        KeepsSound.pure (ArgsFoldTo.cons hy hys)
end

theorem simplify_sound (t : Term) (next : Nat) (hw : t.wellSorted = true) :
    FoldsTo t (t.simplify next).1 :=
  (rebuild_sound t hw _ (memoSound_empty next)).1

/-- Simplification, and each folding constructor on its own, keep the sort and the meaning of a
well-sorted term: the result folds the term, and so has its value under every model that gives
each variable a value of its sort. -/
theorem folding_preserves_meaning :
    (∀ (t : Term) (next : Nat), t.wellSorted = true → FoldsTo t (t.simplify next).1) ∧
    (∀ (c : Context) (k : Nat) (a : Term), (neg k a).wellSorted = true →
      FoldsTo (neg k a) ((Build.neg a).run c).1) ∧
    (∀ (c : Context) (k : Nat) (xs : List Term), (conj k xs).wellSorted = true →
      FoldsTo (conj k xs) ((Build.allOf xs).run c).1) ∧
    (∀ (c : Context) (k : Nat) (xs : List Term), (disj k xs).wellSorted = true →
      FoldsTo (disj k xs) ((Build.anyOf xs).run c).1) ∧
    (∀ (c : Context) (k : Nat) (a b : Term), (imp k a b).wellSorted = true →
      FoldsTo (imp k a b) ((Build.implies a b).run c).1) ∧
    (∀ (c : Context) (k : Nat) (x a b : Term), (cond k x a b).wellSorted = true →
      FoldsTo (cond k x a b) ((Build.cond x a b).run c).1) ∧
    (∀ (c : Context) (k : Nat) (a b : Term), (eq k a b).wellSorted = true →
      FoldsTo (eq k a b) ((Build.equals a b).run c).1) ∧
    (∀ (c : Context) (k : Nat) (a b : Term), (lt k a b).wellSorted = true →
      FoldsTo (lt k a b) ((Build.lt a b).run c).1) ∧
    (∀ (c : Context) (k : Nat) (a b : Term), (le k a b).wellSorted = true →
      FoldsTo (le k a b) ((Build.le a b).run c).1) ∧
    (∀ (c : Context) (k : Nat) (a b : Term), (lt k b a).wellSorted = true →
      FoldsTo (lt k b a) ((Build.gt a b).run c).1) ∧
    (∀ (c : Context) (k : Nat) (a b : Term), (le k b a).wellSorted = true →
      FoldsTo (le k b a) ((Build.ge a b).run c).1) ∧
    (∀ (c : Context) (k : Nat) (a b : Term), (add k a b).wellSorted = true →
      FoldsTo (add k a b) ((Build.plus a b).run c).1) ∧
    (∀ (c : Context) (k : Nat) (a b : Term), (sub k a b).wellSorted = true →
      FoldsTo (sub k a b) ((Build.minus a b).run c).1) ∧
    (∀ (c : Context) (k : Nat) (a b : Term), (bvAnd k a b).wellSorted = true →
      FoldsTo (bvAnd k a b) ((Build.bvAnd a b).run c).1) ∧
    (∀ (c : Context) (k : Nat) (a b : Term), (bvUle k a b).wellSorted = true →
      FoldsTo (bvUle k a b) ((Build.bvUle a b).run c).1) := by
  -- every constructor is the rebuild step of its node with the arguments left as they are
  refine ⟨simplify_sound, ?_, ?_, ?_, ?_, ?_, ?_, ?_, ?_, ?_, ?_, ?_, ?_, ?_, ?_⟩
  · intro c k a hw
    exact foldsTo_mkNot _ hw (.refl (by simp_all [wellSorted]))
  · intro c k xs hw
    exact foldsTo_mkAndAll _ hw (argsFoldTo_refl fun x hx => (boolArgs_iff.1 hw x hx).1)
  · intro c k xs hw
    exact foldsTo_mkOrAll _ hw (argsFoldTo_refl fun x hx => (boolArgs_iff.1 hw x hx).1)
  · intro c k a b hw
    obtain ⟨ha, hb⟩ : a.wellSorted = true ∧ b.wellSorted = true := by simp_all [wellSorted]
    exact foldsTo_mkImplies _ hw (.refl ha) (.refl hb)
  · intro c k x a b hw
    obtain ⟨hx, ha, hb⟩ : x.wellSorted = true ∧ a.wellSorted = true ∧ b.wellSorted = true := by
      simp_all [wellSorted]
    exact foldsTo_mkIte _ hw (.refl hx) (.refl ha) (.refl hb)
  · intro c k a b hw
    obtain ⟨ha, hb⟩ : a.wellSorted = true ∧ b.wellSorted = true := by simp_all [wellSorted]
    exact foldsTo_mkEq _ hw (.refl ha) (.refl hb)
  · intro c k a b hw
    obtain ⟨ha, hb⟩ : a.wellSorted = true ∧ b.wellSorted = true := by simp_all [wellSorted]
    exact foldsTo_mkLt _ hw (.refl ha) (.refl hb)
  · intro c k a b hw
    obtain ⟨ha, hb⟩ : a.wellSorted = true ∧ b.wellSorted = true := by simp_all [wellSorted]
    exact foldsTo_mkLe _ hw (.refl ha) (.refl hb)
  · intro c k a b hw
    obtain ⟨hb, ha⟩ : b.wellSorted = true ∧ a.wellSorted = true := by simp_all [wellSorted]
    exact foldsTo_mkLt _ hw (.refl hb) (.refl ha)
  · intro c k a b hw
    obtain ⟨hb, ha⟩ : b.wellSorted = true ∧ a.wellSorted = true := by simp_all [wellSorted]
    exact foldsTo_mkLe _ hw (.refl hb) (.refl ha)
  · intro c k a b hw
    obtain ⟨ha, hb⟩ : a.wellSorted = true ∧ b.wellSorted = true := by simp_all [wellSorted]
    exact foldsTo_mkAdd _ hw (.refl ha) (.refl hb)
  · intro c k a b hw
    obtain ⟨ha, hb⟩ : a.wellSorted = true ∧ b.wellSorted = true := by simp_all [wellSorted]
    exact foldsTo_mkSub _ hw (.refl ha) (.refl hb)
  · intro c k a b hw
    obtain ⟨ha, hb⟩ : a.wellSorted = true ∧ b.wellSorted = true := by simp_all [wellSorted]
    exact foldsTo_mkBvAnd _ hw (.refl ha) (.refl hb)
  · intro c k a b hw
    obtain ⟨ha, hb⟩ : a.wellSorted = true ∧ b.wellSorted = true := by simp_all [wellSorted]
    exact foldsTo_mkBvUle _ hw (.refl ha) (.refl hb)

/-- `if p then true else false` is well-sorted and simplifies to a term that folds it. -/
theorem simplify_ite_bool_folds :
    (cond 0 (var "p" .bool) tt ff).wellSorted = true ∧
      FoldsTo (cond 0 (var "p" .bool) tt ff) ((cond 0 (var "p" .bool) tt ff).simplify 1).1 :=
  ⟨rfl, folding_preserves_meaning.1 _ 1 rfl⟩

def offSortModel : Model := ({} : Model).set "x" (.int 5)

/-- Off the sorts of its variables a model can tell a folded term from its node: `true = x`
folds to `x`, which a model giving `x` an integer evaluates to that integer, while the node is
`false` there. -/
theorem folding_changes_value_off_sort :
    offSortModel.eval ((Build.equals tt (var "x" .bool)).run {}).1 = .ok (.int 5) ∧
      offSortModel.eval (eq 0 tt (var "x" .bool)) = .ok (.bool false) := by
  have hfold : ((Build.equals tt (var "x" .bool)).run {}).1 = var "x" .bool := rfl
  have hx : offSortModel.eval (var "x" .bool) = .ok (.int 5) := by
    simp [offSortModel, Model.set, Model.eval, Model.valueOf, Model.get?]
  refine ⟨hfold ▸ hx, ?_⟩
  rw [Model.eval_eq rfl hx]
  rfl

end Soundness

end Term
end ControlPlane
