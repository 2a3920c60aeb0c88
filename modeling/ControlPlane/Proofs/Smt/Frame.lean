import ControlPlane.Proofs.Smt.Folding

/-!
# What a value depends on

The value of a term depends only on the values the model gives the term's variables, so a
model changed on other names gives the term the same value. `Model.setAll` changes a model on
a list of names at once. `Model.holds` reads the boolean a term evaluates to, and equality of
two boolean terms folds to the equality of their booleans whatever the folding does.
-/

namespace ControlPlane
namespace Model

variable {m m' : Model}

mutual
theorem eval_congr : ∀ (t : Term), (∀ x ∈ t.vars, m.valueOf x.1 x.2 = m'.valueOf x.1 x.2) →
    m.eval t = m'.eval t
  | .bool _, _ | .int _, _ | .bv _ _, _ => rfl
  | .var x s, h => by simpa [eval] using h (x, s) (by simp)
  | .neg _ a, h => by simp only [eval, eval_congr a h]
  | .conj _ xs, h => by simp only [eval, evalAll_congr xs (by simpa using h)]
  | .disj _ xs, h => by simp only [eval, evalAny_congr xs (by simpa using h)]
  | .imp _ a b, h => by
    simp only [eval, eval_congr a (fun x hx => h x (by simp [hx])), eval_congr b (fun x hx => h x (by simp [hx]))]
  | .cond _ c a b, h => by
    simp only [eval, eval_congr c (fun x hx => h x (by simp [hx])), eval_congr a (fun x hx => h x (by simp [hx])),
      eval_congr b (fun x hx => h x (by simp [hx]))]
  | .eq _ a b, h | .lt _ a b, h | .le _ a b, h | .add _ a b, h | .sub _ a b, h
  | .bvAnd _ a b, h | .bvUle _ a b, h => by
    simp only [eval, eval_congr a (fun x hx => h x (by simp [hx])), eval_congr b (fun x hx => h x (by simp [hx]))]
theorem evalAll_congr : ∀ (xs : List Term),
    (∀ x ∈ Term.argVars xs, m.valueOf x.1 x.2 = m'.valueOf x.1 x.2) → m.evalAll xs = m'.evalAll xs
  | [], _ => rfl
  | x :: xs, h => by
    simp only [evalAll, eval_congr x (fun x hx => h x (by simp [hx])),
      evalAll_congr xs (fun x hx => h x (by simp [hx]))]
theorem evalAny_congr : ∀ (xs : List Term),
    (∀ x ∈ Term.argVars xs, m.valueOf x.1 x.2 = m'.valueOf x.1 x.2) → m.evalAny xs = m'.evalAny xs
  | [], _ => rfl
  | x :: xs, h => by
    simp only [evalAny, eval_congr x (fun x hx => h x (by simp [hx])),
      evalAny_congr xs (fun x hx => h x (by simp [hx]))]
end

def holds (m : Model) (t : Term) : Bool :=
  match m.eval t with
  | .ok (.bool b) => b
  | _ => false

theorem eval_holds {t : Term} {b : Bool} (h : m.eval t = .ok (.bool b)) :
    m.eval t = .ok (.bool (m.holds t)) := by
  simp [holds, h]

theorem holds_of_eval {t : Term} {b : Bool} (h : m.eval t = .ok (.bool b)) : m.holds t = b := by
  simp [holds, h]

theorem evalBool_eq_true_iff {t : Term} {b : Bool} (h : m.eval t = .ok (.bool b)) :
    m.evalBool t = .ok true ↔ b = true := by
  simp [evalBool, h, bind, Except.bind, pure, Except.pure]

theorem eval_of_evalBool {t : Term} {b : Bool} (h : m.evalBool t = .ok b) : m.eval t = .ok (.bool b) := by
  unfold evalBool at h
  cases ht : m.eval t with
  | error err => simp [ht, bind, Except.bind] at h
  | ok v => cases v <;> simp_all [bind, Except.bind, pure, Except.pure, throw, throwThe]

def setAll (m : Model) (kvs : List (String × Value)) : Model :=
  kvs.foldl (fun m kv => m.set kv.1 kv.2) m

theorem get?_set (n k : String) (v : Value) : (m.set k v).get? n = if k = n then some v else m.get? n := by
  simp only [get?, set, Std.HashMap.get?_insert, beq_iff_eq]

theorem setAll_cons (kv : String × Value) (kvs : List (String × Value)) :
    m.setAll (kv :: kvs) = (m.set kv.1 kv.2).setAll kvs := rfl

theorem get?_setAll_of_not_mem {kvs : List (String × Value)} {n : String} (h : n ∉ kvs.map Prod.fst) :
    (m.setAll kvs).get? n = m.get? n := by
  induction kvs generalizing m with
  | nil => rfl
  | cons kv kvs ih =>
    simp only [List.map_cons, List.mem_cons, not_or] at h
    rw [setAll_cons, ih h.2, get?_set, if_neg (Ne.symm h.1)]

theorem get?_setAll_of_mem {kvs : List (String × Value)} {n : String} {v : Value}
    (hd : (kvs.map Prod.fst).Nodup) (h : (n, v) ∈ kvs) : (m.setAll kvs).get? n = some v := by
  induction kvs generalizing m with
  | nil => simp at h
  | cons kv kvs ih =>
    simp only [List.map_cons, List.nodup_cons] at hd
    rw [setAll_cons]
    rcases List.mem_cons.1 h with rfl | h
    · rw [get?_setAll_of_not_mem hd.1, get?_set, if_pos rfl]
    · exact ih hd.2 h

end Model

namespace Term

variable {m : Model}

theorem eval_mkEq_bool {a b : Term} {x y : Bool} (n : Nat) (ha : m.eval a = .ok (.bool x))
    (hb : m.eval b = .ok (.bool y)) : m.eval (mkEq n a b) = .ok (.bool (x == y)) := by
  unfold mkEq
  split
  · next hsame => cases eq_of_same hsame; cases ha.symm.trans hb; simp
  · next hn =>
    split
    · next hl =>
      -- two literals with boolean values are boolean literals, different as they are not the same
      simp only [Bool.and_eq_true] at hl
      rcases isLit_cases hl.1 with ⟨p, rfl⟩ | ⟨i, rfl⟩ | ⟨v, w, rfl⟩ <;> simp [Model.eval] at ha
      rcases isLit_cases hl.2 with ⟨q, rfl⟩ | ⟨j, rfl⟩ | ⟨u, z, rfl⟩ <;> simp [Model.eval] at hb
      subst ha hb
      cases p <;> cases q <;> simp_all [same]
    · split
      · next h => cases value_of_asBool? h ha; simpa using hb
      · next h => cases value_of_asBool? h ha; simp [eval_mkNot n hb]
      · next h _ _ => cases value_of_asBool? h hb; simpa using ha
      · next h _ _ => cases value_of_asBool? h hb; simp [eval_mkNot n ha]
      · simpa using Model.eval_eq (n := n) ha hb

end Term
end ControlPlane
