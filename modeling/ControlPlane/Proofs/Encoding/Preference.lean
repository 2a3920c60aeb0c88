import ControlPlane.Proofs.Smt.Builder
import ControlPlane.Encoding.Preference

/-!
# Route preference is a lexicographic order

`Slice.greaterOrEqual` builds the formula by which a best route is at least as good as a
candidate. Under a model it holds exactly when the attributes of the two routes compare so in
the order of the decision process (`Attributes.prefers`): prefix length (longer wins),
administrative distance (lower wins), the BGP attributes in the order the question ranks them,
OSPF type (lower wins), and the router id (lower or equal wins). The first attribute that
differs decides. An attribute the best route does not carry counts as equal; one the candidate
does not carry takes its default.

Among routes that carry the same attributes, every attribute is compared through an integer
key, so the comparison is the lexicographic order of key lists: reflexive, total and
transitive. Where the formula of `Slice.equal` holds between two such routes, they carry the
same attributes, and each is at least as good as the other.
-/

namespace ControlPlane

/-- How one attribute of a route compares with the same attribute of another. -/
inductive Verdict where
  | better
  | same
  | worse
  deriving DecidableEq, Repr

namespace Verdict

def ofLess (x y : Int) : Verdict := if x < y then .better else if x = y then .same else .worse

/-- The verdict on an attribute that `best` may lack, and then counts as the same, and that
`vars` may lack, and then counts with the default `d`; the smaller value wins if `less`, else
the larger. -/
def ofOption (less : Bool) (b v : Option Int) (d : Int) : Verdict :=
  match b with
  | none => .same
  | some x => if less then ofLess x (v.getD d) else ofLess (v.getD d) x

/-- Lexicographic comparison: the first attribute that is not the same decides, and routes
that are the same in every attribute are at least as good as each other. -/
def lexGe : List Verdict → Bool
  | [] => true
  | .better :: _ => true
  | .same :: vs => lexGe vs
  | .worse :: _ => false

theorem ofLess_of_lt {x y : Int} (h : x < y) : ofLess x y = .better := if_pos h

theorem ofLess_self (x : Int) : ofLess x x = .same := by
  rw [ofLess, if_neg (Int.lt_irrefl x), if_pos rfl]

theorem ofLess_of_gt {x y : Int} (h : y < x) : ofLess x y = .worse := by
  rw [ofLess, if_neg (Int.not_lt.2 (Int.le_of_lt h)), if_neg (Int.ne_of_gt h)]

@[simp] theorem ofLess_beq_better (x y : Int) : (ofLess x y == .better) = decide (x < y) := by
  rcases Int.lt_trichotomy x y with h | rfl | h
  · rw [ofLess_of_lt h, decide_eq_true h]
    rfl
  · rw [ofLess_self, decide_eq_false (Int.lt_irrefl x)]
    rfl
  · rw [ofLess_of_gt h, decide_eq_false (Int.not_lt.2 (Int.le_of_lt h))]
    rfl

@[simp] theorem ofLess_beq_same (x y : Int) : (ofLess x y == .same) = decide (x = y) := by
  rcases Int.lt_trichotomy x y with h | rfl | h
  · rw [ofLess_of_lt h, decide_eq_false (Int.ne_of_lt h)]
    rfl
  · rw [ofLess_self, decide_eq_true rfl]
    rfl
  · rw [ofLess_of_gt h, decide_eq_false (Int.ne_of_gt h)]
    rfl

@[simp] theorem lexGe_nil : lexGe [] = true := rfl

theorem lexGe_ofLess (x y : Int) : lexGe [ofLess x y] = decide (x ≤ y) := by
  rcases Int.lt_trichotomy x y with h | rfl | h
  · rw [ofLess_of_lt h, decide_eq_true (Int.le_of_lt h)]
    rfl
  · rw [ofLess_self, decide_eq_true (Int.le_refl x)]
    rfl
  · rw [ofLess_of_gt h, decide_eq_false (Int.not_le.2 h)]
    rfl

@[simp] theorem lexGe_cons (v : Verdict) (vs : List Verdict) :
    lexGe (v :: vs) = ((v == .better) || ((v == .same) && lexGe vs)) := by
  cases v <;> simp [lexGe]

theorem ofLess_neg (x y : Int) : ofLess (-x) (-y) = ofLess y x := by
  rcases Int.lt_trichotomy y x with h | rfl | h
  · rw [ofLess_of_lt (Int.neg_lt_neg h), ofLess_of_lt h]
  · rw [ofLess_self, ofLess_self]
  · rw [ofLess_of_gt (Int.neg_lt_neg h), ofLess_of_gt h]

theorem lexGe_zipWith_self (xs : List Int) : lexGe (List.zipWith ofLess xs xs) = true := by
  induction xs with
  | nil => rfl
  | cons x xs ih =>
    rw [List.zipWith_cons_cons, lexGe_cons, ih]
    simp

theorem lexGe_zipWith_total (xs ys : List Int) :
    lexGe (List.zipWith ofLess xs ys) = true ∨ lexGe (List.zipWith ofLess ys xs) = true := by
  induction xs generalizing ys with
  | nil => exact .inl rfl
  | cons x xs ih =>
    cases ys with
    | nil => exact .inl rfl
    | cons y ys =>
      simp only [List.zipWith_cons_cons, lexGe_cons, ofLess_beq_better, ofLess_beq_same,
        Bool.or_eq_true, Bool.and_eq_true, decide_eq_true_eq]
      -- the first keys decide unless they are equal; then the rest does
      rcases Int.lt_trichotomy x y with hxy | rfl | hxy
      · exact .inl (.inl hxy)
      · rcases ih ys with h | h
        · exact .inl (.inr ⟨rfl, h⟩)
        · exact .inr (.inr ⟨rfl, h⟩)
      · exact .inr (.inl hxy)

theorem lexGe_zipWith_trans {xs ys zs : List Int} (hxy : xs.length = ys.length)
    (hyz : ys.length = zs.length) (h₁ : lexGe (List.zipWith ofLess xs ys) = true)
    (h₂ : lexGe (List.zipWith ofLess ys zs) = true) : lexGe (List.zipWith ofLess xs zs) = true := by
  induction xs generalizing ys zs with
  | nil => rfl
  | cons x xs ih =>
    -- all three lists are nonempty, since they have one length
    obtain ⟨y, ys, rfl⟩ := List.exists_cons_of_length_eq_add_one hxy.symm
    obtain ⟨z, zs, rfl⟩ := List.exists_cons_of_length_eq_add_one (hyz.symm.trans (by simpa using hxy.symm))
    simp only [List.zipWith_cons_cons, lexGe_cons, ofLess_beq_better, ofLess_beq_same,
      Bool.or_eq_true, Bool.and_eq_true, decide_eq_true_eq] at h₁ h₂ ⊢
    rcases h₁ with hlt | ⟨rfl, h₁⟩
    · rcases h₂ with hlt' | ⟨rfl, -⟩
      · exact .inl (Int.lt_trans hlt hlt')
      · exact .inl hlt
    · rcases h₂ with hlt' | ⟨rfl, h₂⟩
      · exact .inl hlt'
      · exact .inr ⟨rfl, ih (by simpa using hxy) (by simpa using hyz) h₁ h₂⟩

end Verdict

open Verdict

/-- The attributes of a route that the decision process compares, as values: integers, the iBGP
flag, and the index of the OSPF type. `none` where the route's record does not carry the
attribute. -/
@[ext] structure Attributes where
  prefixLength : Int
  adminDist : Option Int
  localPref : Option Int
  metric : Int
  med : Option Int
  igpMetric : Option Int
  internal : Option Bool
  ospfType : Option Nat
  routerId : Option Int
  deriving DecidableEq, Repr

namespace Attributes

/-- Administrative distance of a route of the protocol that carries none: 200 for a route
learned over iBGP. -/
def defaultAdminDist (p : Protocol) (a : Attributes) : Int :=
  match a.internal, p with
  | some true, .bgp => 200
  | _, _ => match p with
    | .connected => 0
    | .static => 1
    | .ospf => 110
    | .bgp => 20

def rankVerdict (p : Protocol) (b v : Attributes) : BgpRank → Verdict
  | .localPref => ofOption false b.localPref v.localPref defaultLocalPref
  | .pathLength => ofLess b.metric v.metric
  | .med => ofOption true b.med v.med (defaultMed p)
  | .ebgpOverIbgp =>
    match b.internal, v.internal with
    | some bi, some vi => if !bi && vi then .better else if bi = vi then .same else .worse
    | _, _ => .same
  | .igpCost => ofOption true b.igpMetric v.igpMetric 0

def typeVerdict (b v : Attributes) : Verdict :=
  ofOption true (b.ospfType.map Int.ofNat) (v.ospfType.map Int.ofNat) 0

def tieVerdict (b v : Attributes) (tie : Int) : Verdict := ofOption true b.routerId v.routerId tie

def verdicts (ranking : List BgpRank) (p : Protocol) (b v : Attributes) (tie : Int) : List Verdict :=
  ofLess v.prefixLength b.prefixLength :: ofOption true b.adminDist v.adminDist (v.defaultAdminDist p) ::
    (ranking.map (rankVerdict p b v) ++ [typeVerdict b v, tieVerdict b v tie])

def prefers (ranking : List BgpRank) (p : Protocol) (b v : Attributes) (tie : Int) : Bool :=
  lexGe (verdicts ranking p b v tie)

def shape (a : Attributes) : List Bool :=
  [a.adminDist.isSome, a.localPref.isSome, a.med.isSome, a.igpMetric.isSome, a.internal.isSome,
    a.ospfType.isSome, a.routerId.isSome]

def rankKey (a : Attributes) : BgpRank → Int
  | .localPref => -a.localPref.getD 0
  | .pathLength => a.metric
  | .med => a.med.getD 0
  | .ebgpOverIbgp => if a.internal = some true then 1 else 0
  | .igpCost => a.igpMetric.getD 0

def keys (ranking : List BgpRank) (a : Attributes) : List Int :=
  -a.prefixLength :: a.adminDist.getD 0 ::
    (ranking.map a.rankKey ++ [(a.ospfType.map Int.ofNat).getD 0, a.routerId.getD 0])

@[simp] theorem length_keys (ranking : List BgpRank) (a : Attributes) :
    (a.keys ranking).length = ranking.length + 4 := by
  simp [keys]

theorem ofOption_true_of_isSome {b v : Option Int} (h : b.isSome = v.isSome) (d : Int) :
    ofOption true b v d = ofLess (b.getD 0) (v.getD 0) := by
  cases b <;> cases v <;> simp_all [ofOption, ofLess]

theorem ofOption_false_of_isSome {b v : Option Int} (h : b.isSome = v.isSome) (d : Int) :
    ofOption false b v d = ofLess (-b.getD 0) (-v.getD 0) := by
  rw [ofLess_neg]
  cases b <;> cases v <;> simp_all [ofOption, ofLess]

section SameShape

variable {b v : Attributes}

theorem rankVerdict_of_shape (h : b.shape = v.shape) (p : Protocol) (rank : BgpRank) :
    rankVerdict p b v rank = ofLess (b.rankKey rank) (v.rankKey rank) := by
  simp only [shape, List.cons.injEq] at h
  obtain ⟨-, hl, hm, hi, hn, -, -⟩ := h
  cases rank with
  | localPref => exact ofOption_false_of_isSome hl _
  | pathLength => rfl
  | med => exact ofOption_true_of_isSome hm _
  | igpCost => exact ofOption_true_of_isSome hi _
  | ebgpOverIbgp =>
    simp only [rankVerdict, rankKey]
    cases hb : b.internal with
    | none =>
      have hv : v.internal = none := by simpa [hb] using hn.symm
      simp [hv, ofLess]
    | some x =>
      obtain ⟨y, hv⟩ := Option.isSome_iff_exists.1 (hn ▸ (by simp [hb] : b.internal.isSome = true))
      cases x <;> cases y <;> simp [hv, ofLess]

theorem verdicts_of_shape (h : b.shape = v.shape) (ranking : List BgpRank) (p : Protocol) (tie : Int) :
    verdicts ranking p b v tie = List.zipWith ofLess (b.keys ranking) (v.keys ranking) := by
  have h' := h
  simp only [shape, List.cons.injEq] at h'
  obtain ⟨ha, -, -, -, -, ht, hr, -⟩ := h'
  have hrank : ranking.map (rankVerdict p b v) = List.zipWith ofLess (ranking.map b.rankKey) (ranking.map v.rankKey) := by
    simp [List.zipWith_map, List.zipWith_self, rankVerdict_of_shape h]
  simp only [verdicts, keys, List.zipWith_cons_cons, hrank,
    List.zipWith_append (by simp : (ranking.map b.rankKey).length = (ranking.map v.rankKey).length)]
  rw [ofLess_neg, ofOption_true_of_isSome ha, typeVerdict, tieVerdict, ofOption_true_of_isSome hr,
    ofOption_true_of_isSome (by simpa using ht)]
  rfl

theorem prefers_self (ranking : List BgpRank) (p : Protocol) (a : Attributes) (tie : Int) :
    a.prefers ranking p a tie = true := by
  rw [prefers, verdicts_of_shape rfl]
  exact lexGe_zipWith_self _

theorem prefers_total (h : b.shape = v.shape) (ranking : List BgpRank) (p : Protocol) (t t' : Int) :
    b.prefers ranking p v t = true ∨ v.prefers ranking p b t' = true := by
  rw [prefers, prefers, verdicts_of_shape h, verdicts_of_shape h.symm]
  exact lexGe_zipWith_total _ _

theorem prefers_trans {c : Attributes} (hbv : b.shape = v.shape) (hvc : v.shape = c.shape)
    {ranking : List BgpRank} {p : Protocol} {t t' : Int} (h₁ : b.prefers ranking p v t = true)
    (h₂ : v.prefers ranking p c t' = true) (t'' : Int) : b.prefers ranking p c t'' = true := by
  rw [prefers, verdicts_of_shape hbv] at h₁
  rw [prefers, verdicts_of_shape hvc] at h₂
  rw [prefers, verdicts_of_shape (hbv.trans hvc)]
  exact lexGe_zipWith_trans (by simp) (by simp) h₁ h₂

end SameShape

end Attributes

def Model.Reads (m : Model) (t : Term) (s : TermSort) (x : Value) : Prop := t.sort = s ∧ m.eval t = .ok x

def Model.ReadsInt (m : Model) (t : Option Term) (x : Option Int) : Prop :=
  Option.Rel (fun t x => m.Reads t .int (.int x)) t x

def Model.ReadsType (m : Model) (t : SymEnum OspfType) (i : Nat) : Prop :=
  t.domain = OspfType.all ∧ t.width = 2 ∧ m.Reads t.bits (.bitVec 2) (.bv i)

def Model.Judges (m : Model) (v : Verdict) (r : Term × Term) : Prop :=
  m.eval r.1 = .ok (.bool (v == .better)) ∧ m.eval r.2 = .ok (.bool (v == .same))

/-- Under `m` the record `r` has the attributes `a`: every attribute it carries is a term of the
attribute's sort with that value, and its OSPF type is an index over the four types. -/
structure Route.Reads (m : Model) (r : Route) (a : Attributes) : Prop where
  prefixLength : m.Reads r.prefixLength .int (.int a.prefixLength)
  adminDist : m.ReadsInt r.adminDist a.adminDist
  localPref : m.ReadsInt r.localPref a.localPref
  metric : m.Reads r.metric .int (.int a.metric)
  med : m.ReadsInt r.med a.med
  igpMetric : m.ReadsInt r.igpMetric a.igpMetric
  internal : Option.Rel (fun t x => m.Reads t .bool (.bool x)) r.bgpInternal a.internal
  ospfType : Option.Rel m.ReadsType r.ospfType a.ospfType
  routerId : m.ReadsInt r.routerId a.routerId

namespace Slice

/-- The router id a candidate without one counts with in the tie-break: the id across the
edge it was imported on, or 0 without an edge. -/
def tieBreakId? (s : Slice) (p : Protocol) : Option LogicalEdge → Option Int
  | none => some 0
  | some e => (s.graph.routerId? e.edge p).map Int.ofNat

end Slice

section Steps

variable {m : Model}

open Build Attributes

theorem sort_mkIte_int {c t e : Term} (n : Nat) (ht : t.sort = .int) (he : e.sort = .int) :
    (Term.mkIte n c t e).sort = .int := by
  have hbt : t.asBool? = none := by cases t <;> simp_all [Term.asBool?]
  have hbe : e.asBool? = none := by cases e <;> simp_all [Term.asBool?]
  unfold Term.mkIte
  split
  · exact ht
  · exact he
  · split
    · exact ht
    · simp [hbt, hbe, ht]

theorem builds_lexStep {better same rest : Term} {v : Verdict} {x : Bool}
    (hb : m.eval better = .ok (.bool (v == .better))) (hs : m.eval same = .ok (.bool (v == .same)))
    (hr : m.eval rest = .ok (.bool x)) :
    Builds (lexStep better same rest) fun t =>
      m.eval t = .ok (.bool ((v == .better) || ((v == .same) && x))) := by
  unfold lexStep
  exact Builds.bind (builds_both hs hr) fun _ ht => builds_either hb ht

theorem builds_bvUle {a b : Term} {x y : Nat} (ha : m.eval a = .ok (.bv x)) (hb : m.eval b = .ok (.bv y)) :
    Builds (bvUle a b) fun t => m.eval t = .ok (.bool (decide (x ≤ y))) :=
  fun c => Term.eval_mkBvUle c.nextNode ha hb

/-- An attribute compared by `betterHelper` and `eqHelper`: the two terms say whether the
verdict is `better` and whether it is `same`. -/
theorem builds_compare {b v : Option Term} {d : Term} {bx vx : Option Int} {dx : Int} (less : Bool)
    (hb : m.ReadsInt b bx) (hv : m.ReadsInt v vx) (hd : m.Reads d .int (.int dx)) :
    Builds (betterHelper b v d less) (fun t => m.eval t = .ok (.bool (ofOption less bx vx dx == .better))) ∧
    Builds (eqHelper b v d) (fun t => m.eval t = .ok (.bool (ofOption less bx vx dx == .same))) := by
  cases hb with
  | none => exact ⟨Builds.pure (by simp [ofOption]), Builds.pure (by simp [ofOption])⟩
  | @some t x ht =>
    -- `best`'s value is compared with that of `vars`, or with the default
    have ho : m.Reads (v.getD d) .int (.int (vx.getD dx)) := by
      cases hv with
      | none => exact hd
      | some hw => exact hw
    have heq : Builds (eqHelper (some t) v d) fun r => m.eval r = .ok (.bool (decide (x = vx.getD dx))) := by
      have h := builds_equals ht.2 ho.2 (ht.1.trans ho.1.symm) (by simp [ht.1]) (by simp [ho.1])
      cases hv <;> simpa [eqHelper, Bool.beq_eq_decide_eq] using h
    cases less
    · refine ⟨?_, ?_⟩
      · simpa [betterHelper, ofOption, Build.gt] using builds_lt ho.2 ht.2
      · simpa [ofOption, eq_comm] using heq
    · refine ⟨?_, ?_⟩
      · simpa [betterHelper, ofOption] using builds_lt ht.2 ho.2
      · simpa [ofOption] using heq

theorem builds_comparePair {b v : Option Term} {d : Term} {bx vx : Option Int} {dx : Int} (less : Bool)
    (hb : m.ReadsInt b bx) (hv : m.ReadsInt v vx) (hd : m.Reads d .int (.int dx)) :
    Builds (do pure (← betterHelper b v d less, ← eqHelper b v d)) (m.Judges (ofOption less bx vx dx)) :=
  have h := builds_compare less hb hv hd
  h.1.bind fun _ h1 => h.2.bind fun _ h2 => Builds.pure ⟨h1, h2⟩

theorem SymEnum.mkEq_of_domain {α : Type} [BEq α] [ToString α] {e o : SymEnum α} (h : (e.domain == o.domain) = true) :
    e.mkEq o = equals e.bits o.bits := by
  simp [SymEnum.mkEq, h]

/-- The OSPF type comparison: a lower index is better, and a candidate without a type counts as
type `O`, the index 0. -/
theorem builds_typeComparison {best vars : Route} {b v : Attributes}
    (hb : Option.Rel m.ReadsType best.ospfType b.ospfType)
    (hv : Option.Rel m.ReadsType vars.ospfType v.ospfType) :
    Builds (typeComparison best vars) (m.Judges (typeVerdict b v)) := by
  unfold typeComparison typeVerdict
  generalize best.ospfType = tb, b.ospfType = ib at hb ⊢
  generalize vars.ospfType = tv, v.ospfType = iv at hv ⊢
  cases hb with
  | none => exact Builds.pure ⟨by simp [ofOption], by simp [ofOption]⟩
  | @some tb ib hb =>
    obtain ⟨hdb, hwb, hsb, heb⟩ := hb
    cases hv with
    | none =>
      -- the candidate counts as type `O`: the best route is the same exactly at index 0
      have hz : (Term.mkBv 0 tb.width).sort = .bitVec 2 := by simp [Term.mkBv, Term.sort, hwb]
      have h := builds_equals heb (m := m) (b := Term.mkBv 0 tb.width) rfl (hsb.trans hz.symm)
        (by simp [hsb]) (by simp [hz])
      refine Builds.bind h fun t ht => Builds.pure ⟨by simp [ofOption], ?_⟩
      simp only [Bool.beq_eq_decide_eq] at ht
      simpa [ofOption, Term.mkBv] using ht
    | @some tv iv hv =>
      obtain ⟨hdv, hwv, hsv, hev⟩ := hv
      have hdom : (tb.domain == tv.domain) = true := by simp [hdb, hdv]
      refine Builds.bind (builds_bvUle hev heb) fun u hu => Builds.bind (builds_neg hu) fun w hw => ?_
      rw [SymEnum.mkEq_of_domain hdom]
      refine Builds.bind (builds_equals heb hev (hsb.trans hsv.symm) (by simp [hsb]) (by simp [hsv]))
        fun z hz => Builds.pure ⟨?_, ?_⟩
      · have hlt : (!decide (iv ≤ ib)) = decide (ib < iv) := by
          rw [Bool.eq_iff_iff]
          simp
        simpa [ofOption, hlt] using hw
      · simp only [Bool.beq_eq_decide_eq] at hz
        simpa [ofOption, Int.natCast_inj] using hz

theorem builds_rankComparison {p : Protocol} {best vars : Route} {b v : Attributes}
    (hb : best.Reads m b) (hv : vars.Reads m v) (rank : BgpRank) :
    Builds (rankComparison p best vars rank) (m.Judges (rankVerdict p b v rank)) := by
  cases rank with
  | localPref => exact builds_comparePair false hb.localPref hv.localPref ⟨rfl, rfl⟩
  | pathLength => exact builds_comparePair true (.some hb.metric) (.some hv.metric) ⟨rfl, rfl⟩
  | med => exact builds_comparePair true hb.med hv.med ⟨rfl, rfl⟩
  | igpCost => exact builds_comparePair true hb.igpMetric hv.igpMetric ⟨rfl, rfl⟩
  | ebgpOverIbgp =>
    -- eBGP wins over iBGP where both records carry the flag; otherwise the two are the same
    simp only [rankComparison, rankVerdict]
    have hbi := hb.internal
    have hvi := hv.internal
    generalize best.bgpInternal = tb, b.internal = xb at hbi ⊢
    generalize vars.bgpInternal = tv, v.internal = xv at hvi ⊢
    cases hbi with
    | none => exact Builds.pure ⟨by simp, by simp⟩
    | @some ti xi hi =>
      cases hvi with
      | none => exact Builds.pure ⟨by simp, by simp⟩
      | @some tj xj hj =>
        refine Builds.bind (builds_neg hi.2) fun u hu => Builds.bind (builds_both hu hj.2) fun w hw =>
          Builds.bind (builds_equals hi.2 hj.2 (hi.1.trans hj.1.symm) (by simp [hi.1]) (by simp [hj.1]))
            fun z hz => Builds.pure ⟨?_, ?_⟩
        · cases xi <;> cases xj <;> simpa [Bool.beq_eq_decide_eq] using hw
        · cases xi <;> cases xj <;> simpa [Bool.beq_eq_decide_eq] using hz

theorem builds_cond_int {c t e : Term} {x : Bool} {y z : Int} (hc : m.eval c = .ok (.bool x))
    (ht : m.Reads t .int (.int y)) (he : m.Reads e .int (.int z)) :
    Builds (cond c t e) fun r => m.Reads r .int (.int (if x then y else z)) := fun ctx => by
  refine ⟨sort_mkIte_int _ ht.1 he.1, ?_⟩
  have h := Term.eval_mkIte ctx.nextNode hc ht.2 he.2 (ht.1.trans he.1.symm) (by simp [ht.1]) (by simp [he.1])
  cases x <;> exact h

theorem builds_defaultAdminDistance {p : Protocol} {vars : Route} {v : Attributes}
    (hv : Option.Rel (fun t x => m.Reads t .bool (.bool x)) vars.bgpInternal v.internal) :
    Builds (defaultAdminDistance p vars) fun t => m.Reads t .int (.int (v.defaultAdminDist p)) := by
  unfold defaultAdminDistance defaultAdminDist
  generalize vars.bgpInternal = tv, v.internal = xv at hv ⊢
  cases hv with
  | none => exact Builds.pure (by cases p <;> exact ⟨rfl, rfl⟩)
  | @some t x ht =>
    cases p with
    | bgp =>
      -- an iBGP route counts with 200, an eBGP one with 20
      dsimp only
      exact Builds.mono (builds_cond_int ht.2 ⟨rfl, rfl⟩ ⟨rfl, rfl⟩) fun r hr => by cases x <;> exact hr
    | connected | static | ospf => exact Builds.pure (by cases x <;> exact ⟨rfl, rfl⟩)

namespace Slice

/-- The tie-break on router ids: the best route wins a tie where its id is at most that of the
candidate, or at most the id the candidate counts with. The step fails only where that id is
unknown. -/
theorem tiebreak_reads {s : Slice} {p : Protocol} {best vars : Route} {e : Option LogicalEdge}
    {bx vx : Option Int} {tie : Int} (hb : m.ReadsInt best.routerId bx) (hv : m.ReadsInt vars.routerId vx)
    (htie : bx.isSome → vx = none → s.tieBreakId? p e = some tie) :
    Encode.Succeeds (s.tiebreak p best vars e) fun t => m.eval t = .ok (.bool (lexGe [ofOption true bx vx tie])) := by
  unfold tiebreak
  generalize best.routerId = tb at hb ⊢
  generalize vars.routerId = tv at hv ⊢
  cases hb with
  | none => exact Encode.Succeeds.pure (by simp [ofOption])
  | @some tb x hx =>
    cases hv with
    | @some tv y hy =>
      exact Encode.Succeeds.lift (Builds.mono (builds_le hx.2 hy.2) fun t ht => by simpa [ofOption, lexGe_ofLess, -lexGe_cons] using ht)
    | none =>
      have h := htie rfl rfl
      cases e with
      | none =>
        -- without an import edge the candidate counts with id 0
        simp only [tieBreakId?, Option.some.injEq] at h
        subst h
        exact Encode.Succeeds.lift (Builds.mono (builds_le hx.2 rfl) fun t ht => by simpa [ofOption, lexGe_ofLess, -lexGe_cons] using ht)
      | some e =>
        -- with one, it counts with the router id across the edge
        simp only [tieBreakId?, Option.map_eq_some_iff] at h
        obtain ⟨i, hi, rfl⟩ := h
        have hr : LogicalGraph.routerIdTerm s.graph e.edge p = .ok (.int i) := by
          simp [LogicalGraph.routerIdTerm, hi]
        dsimp only
        rw [hr]
        refine Encode.Succeeds.bind (Encode.Succeeds.pure rfl) fun a ha => ?_
        subst ha
        exact Encode.Succeeds.lift (Builds.mono (builds_le hx.2 rfl) fun t ht => by simpa [ofOption, lexGe_ofLess, -lexGe_cons] using ht)

theorem greaterOrEqual_reads {s : Slice} {env : SliceEnv} {p : Protocol} {best vars : Route}
    {e : Option LogicalEdge} {b v : Attributes} {tie : Int} (hb : best.Reads m b) (hv : vars.Reads m v)
    (htie : b.routerId.isSome → v.routerId = none → s.tieBreakId? p e = some tie) :
    Encode.Succeeds (s.greaterOrEqual env p best vars e) fun t =>
      m.eval t = .ok (.bool (b.prefers env.question.bgpRanking p v tie)) := by
  unfold greaterOrEqual
  refine (tiebreak_reads hb.routerId hv.routerId htie).bind fun tb htb => ?_
  refine (Encode.Succeeds.lift (builds_typeComparison hb.ospfType hv.ospfType)).bind fun ty hty => ?_
  obtain ⟨tyb, tys⟩ := ty
  refine (Encode.Succeeds.lift (builds_lexStep hty.1 hty.2 htb)).bind fun acc hacc => ?_
  -- the ranked attributes: the loop runs over the ranking reversed, so each pass puts the
  -- attribute it compares in front of those compared so far
  refine (Encode.Succeeds.forIn (fun pre acc => m.eval acc = .ok (.bool (lexGe
    (pre.reverse.map (rankVerdict p b v) ++ [typeVerdict b v, tieVerdict b v tie])))) ?_ ?_).bind
    fun acc hacc => ?_
  · simpa [tieVerdict] using hacc
  · intro pre rank post acc _ hacc
    refine (Encode.Succeeds.lift (builds_rankComparison hb hv rank)).bind fun r hr => ?_
    refine (Encode.Succeeds.lift (builds_lexStep hr.1 hr.2 hacc)).bind fun a ha =>
      Encode.Succeeds.pure ⟨a, rfl, ?_⟩
    simpa using ha
  refine (Encode.Succeeds.lift (builds_defaultAdminDistance (p := p) hv.internal)).bind fun d hd => ?_
  have hc := builds_compare true hb.adminDist hv.adminDist hd
  refine (Encode.Succeeds.lift hc.1).bind fun x1 h1 => (Encode.Succeeds.lift hc.2).bind fun x2 h2 => ?_
  refine (Encode.Succeeds.lift (builds_lexStep h1 h2 hacc)).bind fun a ha => ?_
  have hc' := builds_compare false (.some hb.prefixLength) (.some hv.prefixLength)
    (⟨rfl, rfl⟩ : m.Reads (.int 0) .int (.int 0))
  refine (Encode.Succeeds.lift hc'.1).bind fun y1 g1 => (Encode.Succeeds.lift hc'.2).bind fun y2 g2 => ?_
  refine Encode.Succeeds.lift (Builds.mono (builds_lexStep g1 g2 ha) fun t ht => ?_)
  rw [ht]
  simp [prefers, verdicts, ofOption]

end Slice

end Steps

def Model.AllHold (m : Model) (ts : List Term) : Prop := ∀ t ∈ ts, m.eval t = .ok (.bool true)

@[simp] theorem Model.allHold_append {m : Model} {xs ys : List Term} :
    m.AllHold (xs ++ ys) ↔ m.AllHold xs ∧ m.AllHold ys := List.forall_mem_append

section Equal

variable {m : Model} {best vars : Route} {b v : Attributes}

open Build Attributes

theorem true_of_holds {t : Term} {x : Bool} (h : m.eval t = .ok (.bool x))
    (ht : m.eval t = .ok (.bool true)) : x = true := by
  rw [h] at ht
  simpa using ht

theorem eq_of_ofOption_same {bx vx : Option Int} (h : bx.isSome = vx.isSome) (less : Bool) (d : Int)
    (hs : (ofOption less bx vx d == .same) = true) : bx = vx := by
  cases bx with
  | none => cases vx with
    | none => rfl
    | some => simp at h
  | some x => cases vx with
    | none => simp at h
    | some y =>
      cases less
      · have hyx : (ofLess y x == .same) = true := hs
        rw [ofLess_beq_same, decide_eq_true_eq] at hyx
        rw [hyx]
      · have hxy : (ofLess x y == .same) = true := hs
        rw [ofLess_beq_same, decide_eq_true_eq] at hxy
        rw [hxy]

theorem builds_eqHelper_holds {bt vt : Option Term} {d : Term} {bx vx : Option Int} {dx : Int}
    (hb : m.ReadsInt bt bx) (hv : m.ReadsInt vt vx) (hd : m.Reads d .int (.int dx))
    (hs : bx.isSome = vx.isSome) :
    Builds (eqHelper bt vt d) fun t => m.eval t = .ok (.bool true) → bx = vx :=
  (builds_compare true hb hv hd).2.mono fun _ ht hh =>
    eq_of_ofOption_same hs true dx (true_of_holds ht hh)

theorem builds_valueEqualities (p : Protocol) (hb : best.Reads m b) (hv : vars.Reads m v)
    (hs : b.shape = v.shape) :
    Builds (valueEqualities p best (some vars)) fun l => m.AllHold l →
      b.prefixLength = v.prefixLength ∧ b.adminDist = v.adminDist ∧ b.localPref = v.localPref ∧
        b.metric = v.metric ∧ b.med = v.med ∧ b.igpMetric = v.igpMetric := by
  simp only [shape, List.cons.injEq] at hs
  obtain ⟨ha, hl, hm, hi, -⟩ := hs
  unfold valueEqualities
  refine Builds.bind (builds_defaultAdminDistance (p := p) hv.internal) fun d hd => ?_
  refine (builds_eqHelper_holds (.some hb.prefixLength) (.some hv.prefixLength) ⟨rfl, rfl⟩ rfl).bind
    fun t₁ h₁ => ?_
  refine (builds_eqHelper_holds hb.adminDist hv.adminDist hd ha).bind fun t₂ h₂ => ?_
  refine (builds_eqHelper_holds hb.localPref hv.localPref ⟨rfl, rfl⟩ hl).bind fun t₃ h₃ => ?_
  refine (builds_eqHelper_holds (.some hb.metric) (.some hv.metric) ⟨rfl, rfl⟩ rfl).bind
    fun t₄ h₄ => ?_
  refine (builds_eqHelper_holds hb.med hv.med ⟨rfl, rfl⟩ hm).bind fun t₅ h₅ => ?_
  refine (builds_eqHelper_holds hb.igpMetric hv.igpMetric ⟨rfl, rfl⟩ hi).bind fun t₆ h₆ => ?_
  refine Builds.pure fun hall => ?_
  simp only [Model.AllHold, List.mem_cons, List.not_mem_nil, forall_eq_or_imp] at hall
  obtain ⟨g₁, g₂, g₃, g₄, g₅, g₆, -⟩ := hall
  exact ⟨Option.some.inj (h₁ g₁), h₂ g₂, h₃ g₃, Option.some.inj (h₄ g₄), h₅ g₅, h₆ g₆⟩

theorem builds_typeEquality (hb : best.Reads m b) (hv : vars.Reads m v)
    (hs : b.ospfType.isSome = v.ospfType.isSome) :
    Builds (typeEquality best (some vars)) fun l => m.AllHold l → b.ospfType = v.ospfType := by
  have hbt := hb.ospfType
  have hvt := hv.ospfType
  unfold typeEquality
  simp only [Option.bind_some]
  generalize best.ospfType = tb, b.ospfType = ib at hbt hs ⊢
  generalize vars.ospfType = tv, v.ospfType = iv at hvt hs ⊢
  cases hbt with
  | none =>
    cases hvt with
    | none => exact Builds.pure fun _ => rfl
    | some => simp at hs
  | @some tb ib hbt =>
    cases hvt with
    | none => simp at hs
    | @some tv iv hvt =>
      obtain ⟨hdb, -, hsb, heb⟩ := hbt
      obtain ⟨hdv, -, hsv, hev⟩ := hvt
      have hdom : (tb.domain == tv.domain) = true := by simp [hdb, hdv]
      dsimp only
      rw [SymEnum.mkEq_of_domain hdom]
      refine (builds_equals heb hev (hsb.trans hsv.symm) (by simp [hsb]) (by simp [hsv])).bind
        fun t ht => Builds.pure fun hall => ?_
      have h := true_of_holds ht (hall t (by simp))
      simp only [Bool.beq_eq_decide_eq, decide_eq_true_eq, Value.bv.injEq] at h
      rw [h]

theorem routerIdEquality_holds (s : Slice) (p : Protocol) (e : Option LogicalEdge)
    (hb : best.Reads m b) (hv : vars.Reads m v) (hs : b.routerId.isSome = v.routerId.isSome) :
    Encode.Returns (s.routerIdEquality p best (some vars) e) fun l =>
      m.AllHold l → b.routerId = v.routerId := by
  have hbr := hb.routerId
  have hvr := hv.routerId
  unfold Slice.routerIdEquality
  simp only [Option.bind_some]
  generalize best.routerId = tb, b.routerId = xb at hbr hs ⊢
  generalize vars.routerId = tv, v.routerId = xv at hvr hs ⊢
  cases hbr with
  | none =>
    cases hvr with
    | none => exact Encode.Returns.pure fun _ => rfl
    | some => simp at hs
  | @some tb x hx =>
    cases hvr with
    | none => simp at hs
    | @some tv y hy =>
      refine (Encode.Returns.build (builds_equals hx.2 hy.2 (hx.1.trans hy.1.symm) (by simp [hx.1])
        (by simp [hy.1]))).bind fun t ht => Encode.Returns.pure fun hall => ?_
      have h := true_of_holds ht (hall t (by simp))
      simp only [Bool.beq_eq_decide_eq, decide_eq_true_eq, Value.int.injEq] at h
      rw [h]

theorem sessionEqualities_holds (hb : best.Reads m b) (hv : vars.Reads m v)
    (hs : b.internal.isSome = v.internal.isSome) :
    Encode.Returns (sessionEqualities best (some vars)) fun l => m.AllHold l → b.internal = v.internal := by
  have hbi := hb.internal
  have hvi := hv.internal
  simp only [sessionEqualities]
  refine Encode.Returns.bind (fun _ _ _ => trivial : Encode.Returns (equalHistories best vars) fun _ => True)
    fun h _ => ?_
  generalize best.bgpInternal = tb, b.internal = xb at hbi hs ⊢
  generalize vars.bgpInternal = tv, v.internal = xv at hvi hs ⊢
  cases hbi with
  | none =>
    cases hvi with
    | none => exact Encode.Returns.pure fun _ => rfl
    | some => simp at hs
  | @some tb x hx =>
    cases hvi with
    | none => simp at hs
    | @some tv y hy =>
      refine (Encode.Returns.build (builds_equals hx.2 hy.2 (hx.1.trans hy.1.symm) (by simp [hx.1])
        (by simp [hy.1]))).bind fun t ht => Encode.Returns.pure fun hall => ?_
      have h := true_of_holds ht (hall t (by simp))
      simp only [Bool.beq_eq_decide_eq, decide_eq_true_eq, Value.bool.injEq] at h
      rw [h]

theorem Slice.equal_holds_same (s : Slice) (c : Configuration) (p : Protocol) (e : Option LogicalEdge)
    (compareCommunities : Bool) (hb : best.Reads m b) (hv : vars.Reads m v) (hs : b.shape = v.shape) :
    Encode.Returns (s.equal c p best (some vars) e compareCommunities) fun t =>
      m.eval t = .ok (.bool true) → b = v := by
  have hs' := hs
  simp only [shape, List.cons.injEq] at hs'
  obtain ⟨-, -, -, -, hi, ht, hr, -⟩ := hs'
  unfold Slice.equal
  refine (Encode.Returns.build (builds_valueEqualities p hb hv hs)).bind fun l₁ h₁ => ?_
  refine (Encode.Returns.build (builds_typeEquality hb hv ht)).bind fun l₂ h₂ => ?_
  -- the areas, client ids and communities are compared too, but no key reads them
  refine Encode.Returns.bind (fun _ _ _ => trivial) fun l₃ (_ : True) => ?_
  refine (routerIdEquality_holds s p e hb hv hr).bind fun l₄ h₄ => ?_
  refine (sessionEqualities_holds hb hv hi).bind fun l₅ h₅ => ?_
  refine Encode.Returns.bind (fun _ _ _ => trivial) fun l₆ (_ : True) => ?_
  have hall : ∀ l₇, Encode.Returns (liftM (allOf (l₁ ++ l₂ ++ l₃ ++ l₄ ++ l₅ ++ l₆ ++ l₇)) : Encode Term)
      fun t => m.eval t = .ok (.bool true) → b = v := fun l₇ =>
    Encode.Returns.build ((builds_allOf_holds _).mono fun t hall hh => by
      have hall' : m.AllHold (l₁ ++ l₂ ++ l₃ ++ l₄ ++ l₅ ++ l₆ ++ l₇) := hall m hh
      simp only [Model.allHold_append] at hall'
      obtain ⟨⟨⟨⟨⟨⟨g₁, g₂⟩, -⟩, g₄⟩, g₅⟩, -⟩, -⟩ := hall'
      obtain ⟨e₁, e₂, e₃, e₄, e₅, e₆⟩ := h₁ g₁
      exact Attributes.ext e₁ e₂ e₃ e₄ e₅ e₆ (h₅ g₅) (h₂ g₂) (h₄ g₄))
  dsimp only
  split <;> exact Encode.Returns.bind (fun _ _ _ => trivial) fun l₇ (_ : True) => hall l₇

end Equal

/-- Route preference is the lexicographic order of the decision process. Among routes that
carry the same attributes it is reflexive, total and transitive, and routes whose equality holds
are each at least as good as the other. -/
theorem route_preference_is_lexicographic :
    (∀ (m : Model) (s : Slice) (env : SliceEnv) (p : Protocol) (best vars : Route)
      (e : Option LogicalEdge) (b v : Attributes) (tie : Int), best.Reads m b → vars.Reads m v →
      (b.routerId.isSome → v.routerId = none → s.tieBreakId? p e = some tie) →
      Encode.Succeeds (s.greaterOrEqual env p best vars e) fun t =>
        m.eval t = .ok (.bool (b.prefers env.question.bgpRanking p v tie))) ∧
    (∀ (ranking : List BgpRank) (p : Protocol) (a b c : Attributes) (t t' t'' : Int),
      a.shape = b.shape → b.shape = c.shape →
      a.prefers ranking p a t = true ∧
      (a.prefers ranking p b t = true ∨ b.prefers ranking p a t' = true) ∧
      (a.prefers ranking p b t = true → b.prefers ranking p c t' = true →
        a.prefers ranking p c t'' = true)) ∧
    (∀ (m : Model) (s : Slice) (c : Configuration) (p : Protocol) (best vars : Route)
      (e : Option LogicalEdge) (compareCommunities : Bool) (b v : Attributes),
      best.Reads m b → vars.Reads m v → b.shape = v.shape →
      Encode.Returns (s.equal c p best (some vars) e compareCommunities) fun t =>
        m.eval t = .ok (.bool true) → ∀ (ranking : List BgpRank) (tie tie' : Int),
          b.prefers ranking p v tie = true ∧ v.prefers ranking p b tie' = true) := by
  refine ⟨fun _ _ _ _ _ _ _ _ _ _ hb hv htie => Slice.greaterOrEqual_reads hb hv htie,
    fun _ _ a _ _ _ _ t'' hab hbc =>
      ⟨Attributes.prefers_self _ _ a _, Attributes.prefers_total hab _ _ _ _,
        fun h₁ h₂ => Attributes.prefers_trans hab hbc h₁ h₂ t''⟩, ?_⟩
  -- equal records carry the same attributes, and a route is at least as good as itself
  intro m s c p best vars e cc b v hb hv hs ctx t ht hholds ranking tie tie'
  obtain rfl := Slice.equal_holds_same s c p e cc hb hv hs ctx t ht hholds
  exact ⟨Attributes.prefers_self _ _ b _, Attributes.prefers_self _ _ b _⟩

/-- Two BGP routes of one prefix length that differ in path length: the shorter is preferred;
of three attribute sets that differ only in path length the order is transitive; and a record
whose equality with itself holds is at least as good as itself. -/
theorem shorter_path_preferred :
    let best : Route := { (default : Route) with prefixLength := .int 24, metric := .int 2 }
    let vars : Route := { (default : Route) with prefixLength := .int 24, metric := .int 3 }
    let env : SliceEnv := { (default : SliceEnv) with
      question := { (default : HeaderQuestion) with bgpRanking := [.pathLength] } }
    let attrs (n : Int) : Attributes := ⟨24, none, none, n, none, none, none, none, none⟩
    best.Reads {} (attrs 2) ∧ vars.Reads {} (attrs 3) ∧
    Encode.Succeeds ((default : Slice).greaterOrEqual env .bgp best vars none)
      (fun t => ({} : Model).eval t = .ok (.bool true)) ∧
    (attrs 1).prefers [.pathLength] .bgp (attrs 3) 0 = true ∧
    Encode.Returns ((default : Slice).equal default .bgp best (some best) none true) (fun t =>
      ({} : Model).eval t = .ok (.bool true) → (attrs 2).prefers [.pathLength] .bgp (attrs 2) 0 = true) := by
  intro best vars env attrs
  have hb : best.Reads {} (attrs 2) := ⟨⟨rfl, rfl⟩, .none, .none, ⟨rfl, rfl⟩, .none, .none, .none, .none, .none⟩
  have hv : vars.Reads {} (attrs 3) := ⟨⟨rfl, rfl⟩, .none, .none, ⟨rfl, rfl⟩, .none, .none, .none, .none, .none⟩
  have hge := route_preference_is_lexicographic.1 {} default env .bgp best vars none (attrs 2) (attrs 3) 0
    hb hv (by simp [attrs])
  have htrans := route_preference_is_lexicographic.2.1 [.pathLength] .bgp (attrs 1) (attrs 2) (attrs 3) 0 0 0
    rfl rfl
  have heq := route_preference_is_lexicographic.2.2 {} default default .bgp best best none true
    (attrs 2) (attrs 2) hb hb rfl
  exact ⟨hb, hv, hge, htrans.2.2 (by decide) (by decide),
    fun c t hrun hholds => (heq c t hrun hholds [.pathLength] 0 0).1⟩

end ControlPlane
