import Mathlib
import ControlPlane.Proofs.Encoding.Steps
import ControlPlane.Proofs.Encoding.Preference
import ControlPlane.Encoding.Enum

/-!
# Symbolic elements of a finite domain

An element of a finite domain is held as a bit-vector index into the domain. The index has
`bitsFor n` bits, the fewest that number `n` elements (`bitsFor_isLeast`). An index past the domain
is excluded by an assertion, which `SymEnum.new` leaves out when every index of the width names an
element: the element then relies on the solver, whose model of a `w`-bit variable is below `2 ^ w`
(`Model.BitsWithin`). Under such a model of its assertions a new element reads a position of its
domain (`SymEnum.triple_new`), and the formulas of elements in that form say what the positions
say: `isValue v` holds exactly where the index names `v`, `mkEq` exactly where two indices name
one element, over one domain or two, and `decode` returns the element the index names.
-/

namespace ControlPlane

theorem bitsFor_isLeast (n : Nat) : IsLeast {w | 1 ≤ w ∧ n ≤ 2 ^ w} (bitsFor n) := by
  unfold bitsFor
  split
  · next h => exact ⟨⟨le_rfl, by omega⟩, fun w hw => hw.1⟩
  · next h =>
    have hpos : n - 1 ≠ 0 := by omega
    have hlt : n - 1 < 2 ^ ((n - 1).log2 + 1) := Nat.lt_log2_self
    refine ⟨⟨by omega, by omega⟩, fun w hw => ?_⟩
    have hw' : (n - 1).log2 < w := (Nat.log2_lt hpos).2 (by have := hw.2; omega)
    omega

theorem le_two_pow_bitsFor (n : Nat) : n ≤ 2 ^ bitsFor n := (bitsFor_isLeast n).1.2

theorem Term.mkBv_of_lt {v w : Nat} (hw : v < 2 ^ w) (h64 : v < 2 ^ 64) :
    Term.mkBv v w = .bv v w := by
  unfold Term.mkBv Term.bvMask
  split
  · rw [show Nat.pow 2 64 - 1 = 2 ^ 64 - 1 from rfl, Nat.and_two_pow_sub_one_eq_mod,
      Nat.mod_eq_of_lt h64]
  · rw [show Nat.pow 2 w - 1 = 2 ^ w - 1 from rfl, Nat.and_two_pow_sub_one_eq_mod,
      Nat.mod_eq_of_lt hw]

theorem toNat_signedOfBits_emod {v : Nat} (h : v < 2 ^ 64) :
    (signedOfBits v % Int.pow 2 64).toNat = v := by
  simp only [signedOfBits, show Nat.pow 2 63 = 9223372036854775808 from rfl,
    show Int.pow 2 64 = 18446744073709551616 from rfl]
  split <;> omega

/-- The model gives the variable `name` a bit-vector below `2 ^ w`, as a solver's model of a
`w`-bit variable does; a variable the model leaves out reads as zero. -/
def Model.BitsWithin (m : Model) (name : String) (w : Nat) : Prop :=
  ∀ v, m.get? name = some v → ∃ x, v = .bv x ∧ x < 2 ^ w

theorem Model.BitsWithin.eval_var {m : Model} {name : String} {w : Nat}
    (h : m.BitsWithin name w) :
    ∃ x, m.eval (.var name (.bitVec w)) = .ok (.bv x) ∧ x < 2 ^ w := by
  cases hv : m.get? name with
  | none => exact ⟨0, by simp [Model.eval, Model.valueOf, hv, Value.default], Nat.two_pow_pos w⟩
  | some v =>
    obtain ⟨x, rfl, hx⟩ := h v hv
    exact ⟨x, by simp [Model.eval, Model.valueOf, hv], hx⟩

theorem Encode.Succeeds.liftOk {α : Type} {x : Except EncodingError α} {a : α} {P : α → Prop}
    (h : x = .ok a) (hP : P a) : Encode.Succeeds (liftM x : Encode α) P := by
  subst h
  exact fun _ => ⟨a, rfl, hP⟩

/-- Building one optional boolean term per element: the disjunction of the terms built is that
of the elements' booleans, an element without a term counting as false. -/
theorem Build.builds_filterMapM_any {γ : Type} {m : Model} {f : γ → Build (Option Term)}
    {g : γ → Bool} : ∀ {xs : List γ}, (∀ y ∈ xs, Build.Builds (f y) fun o =>
      o.elim (g y = false) fun t => m.eval t = .ok (.bool (g y))) →
      Build.Builds (xs.filterMapM f) fun ts => m.evalAny ts = .ok (xs.any g)
  | [], _ => Build.Builds.pure rfl
  | y :: xs, h => by
    rw [List.filterMapM_cons]
    have ih := builds_filterMapM_any fun z hz => h z (List.mem_cons_of_mem _ hz)
    refine (h y List.mem_cons_self).bind fun o ho => ?_
    cases o with
    | none =>
      refine ih.mono fun ts hts => ?_
      rw [hts, List.any_cons, show g y = false from ho, Bool.false_or]
    | some t =>
      refine ih.bind fun ts hts => Build.Builds.pure ?_
      rw [List.any_cons]
      exact Model.evalAny_cons_ok ho hts

@[simp] theorem Context.lookupVar_empty (name : String) : ({} : Context).lookupVar name = none := by
  simp [Context.lookupVar]

theorem Build.mkVar_run_registered {c : Context} {name : String} {s : TermSort} {v : Term}
    (h : c.lookupVar name = some v) : (Build.mkVar name s).run c = (v, c) := by
  simp [Build.mkVar, h]
  rfl

theorem Build.lookupVar_mkVar_run {c : Context} {name : String} {s : TermSort}
    (h : c.lookupVar name = none) :
    ((Build.mkVar name s).run c).2.lookupVar name = some (.var name s) := by
  rw [Build.mkVar_run_new h]
  simp [Context.lookupVar]

namespace SymEnum

variable {α : Type}

/-- The form `new` gives an element: the index term is a bit-vector of the element's width, which
is `bitsFor` of the domain's size; the domain repeats no element and has at most `2 ^ 64` of them,
so that every position is a 64-bit index. -/
structure WellFormed (e : SymEnum α) : Prop where
  sort : e.bits.sort = .bitVec e.width
  width : e.width = bitsFor e.domain.length
  bounded : e.domain.length ≤ 2 ^ 64
  nodup : e.domain.Nodup

def ReadsAt (e : SymEnum α) (m : Model) (i : Nat) : Prop :=
  m.eval e.bits = .ok (.bv i) ∧ i < e.domain.length

variable {e : SymEnum α} {m : Model} {i : Nat}

theorem WellFormed.covers (hw : e.WellFormed) : e.domain.length ≤ 2 ^ e.width :=
  hw.width ▸ le_two_pow_bitsFor _

theorem WellFormed.eval_mkBv (hw : e.WellFormed) {j : Nat} (hj : j < e.domain.length) :
    m.eval (Term.mkBv j e.width) = .ok (.bv j) := by
  have hc := hw.covers
  have hb := hw.bounded
  rw [Term.mkBv_of_lt (by omega) (by omega)]
  rfl

theorem WellFormed.builds_equals_index (hw : e.WellFormed) (hr : e.ReadsAt m i) {j : Nat}
    (hj : j < e.domain.length) :
    Build.Builds (Build.equals e.bits (Term.mkBv j e.width))
      fun t => m.eval t = .ok (.bool (i == j)) := by
  have hfit : (Value.bv i).fits e.bits.sort := by simp [hw.sort]
  refine (Build.builds_equals hr.1 (hw.eval_mkBv hj) (by rw [hw.sort]; rfl) hfit rfl).mono
    fun t ht => ?_
  rwa [Term.bv_beq_bv] at ht

theorem decode_eq (hw : e.WellFormed) (hr : e.ReadsAt m i) : e.decode m = .ok (e.value i) := by
  have hi : i < 2 ^ 64 := lt_of_lt_of_le hr.2 hw.bounded
  have hint : m.evalInt e.bits = .ok (signedOfBits i) := by
    simp only [Model.evalInt, hr.1]
    rfl
  rw [decode, hint]
  exact congrArg (fun k => Except.ok (e.value k)) (toNat_signedOfBits_emod hi)

section Positions

variable [BEq α] [LawfulBEq α]

theorem index_beq_eq (hnd : e.domain.Nodup) {j : Nat} {v : α}
    (hj : e.domain[j]? = some v) : (i == j) = (e.value i == some v) := by
  have hjl : j < e.domain.length := (List.getElem?_eq_some_iff.1 hj).1
  rw [Bool.eq_iff_iff, beq_iff_eq, beq_iff_eq, value, ← hj]
  exact ⟨fun h => h ▸ rfl, fun h => ((List.getElem?_inj hjl hnd).1 h.symm).symm⟩

theorem value_beq_of_domain {a b : SymEnum α} (hnd : a.domain.Nodup)
    (hd : a.domain = b.domain) {i j : Nat} (hi : i < a.domain.length) :
    (a.value i == b.value j) = (i == j) := by
  rw [Bool.eq_iff_iff, beq_iff_eq, beq_iff_eq, value, value, ← hd, List.getElem?_inj hi hnd]

/-- The value at position `i` is some value of the domain that position `j` of another domain
names too, exactly when the two positions name the same element. -/
theorem any_names_both {a b : SymEnum α} {i j : Nat} (hi : i < a.domain.length) :
    (a.domain.any fun v => a.value i == some v && b.value j == some v) =
      (a.value i == b.value j) := by
  have hx : a.value i = some a.domain[i] := List.getElem?_eq_getElem hi
  rw [Bool.eq_iff_iff, List.any_eq_true, beq_iff_eq, hx]
  simp only [Bool.and_eq_true, beq_iff_eq, Option.some.injEq]
  constructor
  · rintro ⟨v, -, rfl, hv⟩
    exact hv.symm
  · intro h
    exact ⟨_, List.getElem_mem hi, rfl, h.symm⟩

section Formulas

variable [ToString α]

theorem indexOf_eq_ok_iff {domain : List α} (hnd : domain.Nodup) {v : α}
    {name : String} {i : Nat} : indexOf domain v name = .ok i ↔ domain[i]? = some v := by
  unfold indexOf
  split
  · next j hj =>
    obtain ⟨hjl, hjv, -⟩ := List.findIdx?_eq_some_iff_getElem.1 hj
    have hjv' : domain[j]? = some v := by simpa [List.getElem?_eq_getElem hjl] using hjv
    rw [Except.ok.injEq, ← hjv', eq_comm (a := domain[i]?), List.getElem?_inj hjl hnd]
  · next hn =>
    have hnone := List.findIdx?_eq_none_iff.1 hn
    simp only [reduceCtorEq, false_iff]
    intro h
    obtain ⟨hi, hiv⟩ := List.getElem?_eq_some_iff.1 h
    simpa [hiv] using hnone _ (List.getElem_mem hi)

theorem valueTerm_of_getElem? (hnd : e.domain.Nodup) {v : α} {j : Nat}
    (hj : e.domain[j]? = some v) : e.valueTerm v = .ok (Term.mkBv j e.width) := by
  rw [valueTerm, (indexOf_eq_ok_iff hnd).2 hj]
  rfl

theorem valueTerm_ne_ok {v : α} (hv : v ∉ e.domain) (t : Term) :
    e.valueTerm v ≠ .ok t := by
  have hn : e.domain.findIdx? (· == v) = none :=
    List.findIdx?_eq_none_iff.2 fun x hx => by simpa using fun h : x = v => hv (h ▸ hx)
  simp [valueTerm, indexOf, hn, bind, Except.bind]

theorem succeeds_isValue (hw : e.WellFormed) (hr : e.ReadsAt m i) {v : α}
    (hv : v ∈ e.domain) :
    Encode.Succeeds (e.isValue v) fun t => m.eval t = .ok (.bool (e.value i == some v)) := by
  obtain ⟨j, hj⟩ := List.mem_iff_getElem?.1 hv
  have hjl : j < e.domain.length := (List.getElem?_eq_some_iff.1 hj).1
  unfold isValue
  refine Encode.Succeeds.bind (P := (· = Term.mkBv j e.width))
    (Encode.Succeeds.liftOk (valueTerm_of_getElem? hw.nodup hj) rfl) fun t ht => ?_
  subst ht
  refine Encode.Succeeds.lift ((hw.builds_equals_index hr hjl).mono fun t ht => ?_)
  rw [ht, index_beq_eq hw.nodup hj]

/-- The equality of two elements holds exactly where their indices name the same element, over
one domain (the indices are compared) or two (some shared value is taken by both). -/
theorem builds_mkEq {a b : SymEnum α} {i j : Nat} (ha : a.WellFormed)
    (hb : b.WellFormed) (hra : a.ReadsAt m i) (hrb : b.ReadsAt m j) :
    Build.Builds (a.mkEq b) fun t => m.eval t = .ok (.bool (a.value i == b.value j)) := by
  by_cases hd : a.domain = b.domain
  · rw [mkEq_of_domain (by simp [hd])]
    have hs : a.bits.sort = b.bits.sort := by rw [ha.sort, hb.sort, ha.width, hb.width, hd]
    refine (Build.builds_equals hra.1 hrb.1 hs (by simp [ha.sort]) (by simp [hb.sort])).mono
      fun t ht => ?_
    rw [ht, Term.bv_beq_bv, value_beq_of_domain ha.nodup hd hra.2]
  · unfold mkEq
    rw [if_neg (by simpa using hd)]
    -- one disjunct per value of `a`'s domain that `b`'s domain has too
    refine Build.Builds.bind (Build.builds_filterMapM_any
      (g := fun v => a.value i == some v && b.value j == some v) fun v hv => ?_) fun ts hts =>
      (Build.builds_anyOf hts).mono fun t ht => by rw [ht, any_names_both hra.2]
    obtain ⟨k, hk⟩ := List.mem_iff_getElem?.1 hv
    have hkl : k < a.domain.length := (List.getElem?_eq_some_iff.1 hk).1
    simp only [valueTerm_of_getElem? ha.nodup hk]
    by_cases hvb : v ∈ b.domain
    · obtain ⟨l, hl⟩ := List.mem_iff_getElem?.1 hvb
      have hll : l < b.domain.length := (List.getElem?_eq_some_iff.1 hl).1
      simp only [valueTerm_of_getElem? hb.nodup hl]
      refine (ha.builds_equals_index hra hkl).bind fun t₁ h₁ =>
        (hb.builds_equals_index hrb hll).bind fun t₂ h₂ =>
          (Build.builds_both h₁ h₂).bind fun t h => Build.Builds.pure ?_
      rw [Option.elim, h, index_beq_eq ha.nodup hk, index_beq_eq hb.nodup hl]
    · cases hvt : b.valueTerm v with
      | error err =>
        refine Build.Builds.pure ?_
        have hj : (b.value j == some v) = false := by
          rw [beq_eq_false_iff_ne]
          exact fun h => hvb (List.mem_of_getElem? h)
        simp [hj]
      | ok t => exact absurd hvt (valueTerm_ne_ok hvb t)

end Formulas

end Positions

/-- An element over two or more values holds the variable that `bvVar` gives its name at its
width: a new one under a free name, the registered one, whatever its sort, under a taken name. -/
theorem new_run_fst [BEq α] [ToString α] {name : String} {domain : List α} (c : Context)
    (hmany : 1 < domain.length) :
    ((new name domain).run c).1 = ⟨name, domain, bitsFor domain.length,
      ((Build.bvVar name (bitsFor domain.length)).run c).1⟩ := by
  unfold new
  dsimp only
  rw [if_neg (by omega)]
  split <;> rfl

theorem new_run_snd_of_full [BEq α] [ToString α] {name : String} {domain : List α} (c : Context)
    (hmany : 1 < domain.length) (hfull : domain.length = 2 ^ bitsFor domain.length) :
    ((new name domain).run c).2 = ((Build.bvVar name (bitsFor domain.length)).run c).2 := by
  unfold new
  dsimp only
  have hnot : ¬ domain.length < Nat.pow 2 (bitsFor domain.length) := by
    rw [show Nat.pow 2 _ = 2 ^ _ from rfl]
    omega
  rw [if_neg (by omega)]
  simp only [hnot, if_false]
  rfl

/-- A run of `new` from a context where the name is free, over distinct values: the element is
well formed, and a model of the assertions it adds that reads the variable within the element's
width reads a position of the domain. -/
theorem triple_new [BEq α] [ToString α] {name : String} {domain : List α} {as : List Term}
    (hne : domain ≠ []) (hnd : domain.Nodup) (hsmall : domain.length ≤ 2 ^ 64) :
    Build.Triple (fun c => c.lookupVar name = none ∧ c.assertions.toList = as) (new name domain)
      fun e c => e.name = name ∧ e.domain = domain ∧ e.WellFormed ∧
        ∃ added, c.assertions.toList = as ++ added ∧
          ∀ m : Model, m.Satisfies added → m.BitsWithin name e.width →
            ∃ i, e.ReadsAt m i := by
  have hlen : 0 < domain.length := List.length_pos_of_ne_nil hne
  have hw := le_two_pow_bitsFor domain.length
  unfold new
  dsimp only
  split
  · -- a single value: the index is the literal zero, and nothing is asserted
    refine Build.Triple.pure fun c hc => ⟨rfl, rfl, ⟨rfl, rfl, hsmall, hnd⟩, [],
      by simp [hc.2], fun m _ _ => ⟨0, ?_, hlen⟩⟩
    simp [Term.mkBv, Model.eval]
  · next hmany =>
    refine Build.Triple.bind (Q := fun v c => v = .var name (.bitVec (bitsFor domain.length)) ∧
      c.assertions.toList = as) (fun c hc => ?_) fun v => Build.Triple.assume fun hv => ?_
    · rw [Build.bvVar, Build.mkVar_run_new hc.1]
      exact ⟨rfl, hc.2⟩
    subst hv
    split
    · next hlt =>
      -- the assertion bounds the index by the last position
      have hlit : ∀ m : Model, m.eval (Term.mkBv (domain.length - 1) (bitsFor domain.length)) =
          .ok (.bv (domain.length - 1)) := fun m => by
        rw [Term.mkBv_of_lt (by omega) (by omega)]
        rfl
      refine Build.Triple.bind (Q := fun t c => (∀ (m : Model) x,
          m.eval (.var name (.bitVec (bitsFor domain.length))) = .ok (.bv x) →
            m.eval t = .ok (.bool (decide (x ≤ domain.length - 1)))) ∧ c.assertions.toList = as)
        (fun c hc => ⟨fun m x hx => Term.eval_mkBvUle _ hx (hlit m), hc⟩)
        fun t => Build.Triple.assume fun ht => ?_
      refine Build.Triple.bind Build.Triple.assert fun _ => Build.Triple.pure fun c hc =>
        ⟨rfl, rfl, ⟨rfl, rfl, hsmall, hnd⟩, _, hc, fun m hm hb => ?_⟩
      obtain ⟨x, hx, -⟩ := hb.eval_var
      have hholds := (Build.satisfies_asserted_iff t).1 hm
      rw [Model.evalBool_of_eval (ht m x hx), Except.ok.injEq, decide_eq_true_eq] at hholds
      exact ⟨x, hx, show x < domain.length by omega⟩
    · next hge =>
      -- every index of the width names a value
      refine Build.Triple.pure fun c hc => ⟨rfl, rfl, ⟨rfl, rfl, hsmall, hnd⟩, [],
        by simp [hc], fun m _ hb => ?_⟩
      obtain ⟨x, hx, hlt⟩ := hb.eval_var
      have hfull : ¬ domain.length < 2 ^ bitsFor domain.length := hge
      have hx' : x < 2 ^ bitsFor domain.length := hlt
      exact ⟨x, hx, show x < domain.length by omega⟩

end SymEnum

/-- Symbolic elements encode their domain: a new element has the least width that numbers its
domain and its assertions keep the index inside it; `decode`, `isValue` and the equality of two
elements read the value at that index. -/
theorem symbolic_enums_encode_their_domain {α : Type} [BEq α] [LawfulBEq α] [ToString α] :
    (∀ (name : String) (domain : List α) (c : Context), c.lookupVar name = none →
      domain ≠ [] → domain.Nodup → domain.length ≤ 2 ^ 64 →
      let r := (SymEnum.new name domain).run c
      r.1.domain = domain ∧ IsLeast {w | 1 ≤ w ∧ domain.length ≤ 2 ^ w} r.1.width ∧
      r.1.WellFormed ∧ ∃ added, r.2.assertions.toList = c.assertions.toList ++ added ∧
        ∀ m : Model, m.Satisfies added → m.BitsWithin name r.1.width → ∃ i, r.1.ReadsAt m i) ∧
    (∀ (e : SymEnum α) (m : Model) (i : Nat), e.WellFormed → e.ReadsAt m i →
      e.decode m = .ok (e.value i) ∧ ∀ v ∈ e.domain,
        Encode.Succeeds (e.isValue v) fun t => m.evalBool t = .ok (e.value i == some v)) ∧
    (∀ (a b : SymEnum α) (m : Model) (i j : Nat), a.WellFormed → b.WellFormed →
      a.ReadsAt m i → b.ReadsAt m j →
      Build.Builds (a.mkEq b) fun t => m.evalBool t = .ok (a.value i == b.value j)) := by
  refine ⟨fun name domain c hfree hne hnd hsmall => ?_, fun e m i hw hr => ?_,
    fun a b m i j ha hb hra hrb => ?_⟩
  · obtain ⟨-, hdom, hwf, hadded⟩ := SymEnum.triple_new hne hnd hsmall c ⟨hfree, rfl⟩
    refine ⟨hdom, ?_, hwf, hadded⟩
    rw [hwf.width, hdom]
    exact bitsFor_isLeast _
  · refine ⟨SymEnum.decode_eq hw hr, fun v hv => ?_⟩
    exact (SymEnum.succeeds_isValue hw hr hv).mono fun t ht => Model.evalBool_of_eval ht
  · exact (SymEnum.builds_mkEq ha hb hra hrb).mono fun t ht => Model.evalBool_of_eval ht

/-- Three values under a free name: two bits, the fewest that number them. -/
theorem enum_encoding_on_three_values :
    ({} : Context).lookupVar "h" = none ∧ ([1, 2, 3] : List Nat) ≠ [] ∧
    ([1, 2, 3] : List Nat).Nodup ∧ ([1, 2, 3] : List Nat).length ≤ 2 ^ 64 ∧
    IsLeast {w | 1 ≤ w ∧ ([1, 2, 3] : List Nat).length ≤ 2 ^ w}
      ((SymEnum.new "h" ([1, 2, 3] : List Nat)).run {}).1.width :=
  ⟨Context.lookupVar_empty "h", by decide, by decide, by decide,
    ((symbolic_enums_encode_their_domain (α := Nat)).1 "h" [1, 2, 3] {}
      (Context.lookupVar_empty "h") (by decide) (by decide) (by decide)).2.1⟩

/-- An index may read past the domain. Over `[1, 2]` one bit numbers both values and nothing is
asserted, yet a model giving `h` the value 2, wider than one bit, decodes to nothing. An element
over `[5, 6]` under the name of one over `[1, 2, 3, 4]` shares that element's two-bit variable
and asserts nothing either: the value 3, within those two bits, decodes to nothing. -/
theorem enum_index_escapes_domain :
    ((SymEnum.new "h" ([1, 2] : List Nat)).run {}).2.assertions.toList = [] ∧
    ((SymEnum.new "h" ([1, 2] : List Nat)).run {}).1.decode (({} : Model).set "h" (.bv 2)) =
      .ok none ∧
    ((SymEnum.new "h" ([5, 6] : List Nat)).run
      ((SymEnum.new "h" ([1, 2, 3, 4] : List Nat)).run {}).2).2.assertions.toList = [] ∧
    (({} : Model).set "h" (.bv 3)).BitsWithin "h"
      ((SymEnum.new "h" ([1, 2, 3, 4] : List Nat)).run {}).1.width ∧
    ((SymEnum.new "h" ([5, 6] : List Nat)).run
      ((SymEnum.new "h" ([1, 2, 3, 4] : List Nat)).run {}).2).1.decode
        (({} : Model).set "h" (.bv 3)) = .ok none := by
  have h0 := Context.lookupVar_empty "h"
  -- the first element over four values registers `h` with two bits and asserts nothing
  have hc₁ : ((SymEnum.new "h" ([1, 2, 3, 4] : List Nat)).run {}).2 =
      ((Build.mkVar "h" (.bitVec 2)).run {}).2 :=
    SymEnum.new_run_snd_of_full {} (by decide) (by decide)
  have hreg : ((SymEnum.new "h" ([1, 2, 3, 4] : List Nat)).run {}).2.lookupVar "h" =
      some (.var "h" (.bitVec 2)) := by
    rw [hc₁, Build.lookupVar_mkVar_run h0]
  have hget : ∀ x : Nat, (({} : Model).set "h" (.bv x)).eval (.var "h" (.bitVec 2)) =
      .ok (.bv x) := fun x => by
    simp [Model.eval, Model.valueOf, Model.get?_set]
  refine ⟨?_, ?_, ?_, ?_, ?_⟩
  · rw [SymEnum.new_run_snd_of_full {} (by decide) (by decide), Build.bvVar,
      Build.assertions_mkVar]
  · rw [SymEnum.new_run_fst {} (by decide), Build.bvVar, Build.mkVar_run_new h0]
    simp only [SymEnum.decode, Model.evalInt, Model.eval, Model.valueOf, Model.get?_set]
    rfl
  · rw [SymEnum.new_run_snd_of_full _ (by decide) (by decide), Build.bvVar,
      Build.mkVar_run_registered hreg, hc₁, Build.assertions_mkVar]
  · rw [SymEnum.new_run_fst {} (by decide)]
    intro v hv
    simp only [Model.get?_set, if_true, Option.some.injEq] at hv
    exact ⟨3, hv.symm, by decide⟩
  · rw [SymEnum.new_run_fst _ (by decide), Build.bvVar, Build.mkVar_run_registered hreg]
    simp only [SymEnum.decode, Model.evalInt, hget]
    rfl

end ControlPlane
