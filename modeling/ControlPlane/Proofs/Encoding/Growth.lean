import ControlPlane.Proofs.Encoding.Steps
import ControlPlane.Encoding.Encoder

/-!
# Steps that only extend the context

Every step of the encoder keeps the assertions of its context, in order, and adds new ones after
them; and a context whose registered terms are all variables stays so (`Context.Extends`). So a
model of the assertions at the end of an encoding is a model of the assertions at every point
before.

`Closed M G` says that a property `G` of the steps of a monad holds of `pure` and is kept by
`bind`; loops over lists (`for`, `mapM`, `filterMapM`, `foldlM`) then keep it too. A step of the
encoder gets its lemma from its body: binds, branches and loops are taken apart down to the
primitive steps of a context and to steps proved before, which are tagged `@[simp]`.
-/

namespace ControlPlane

namespace Context

/-- Every registered term is the variable of its name, as in every context built from the
empty one. -/
def VarsOnly (c : Context) : Prop := ∀ p ∈ c.vars.toList, ∃ s, p.2 = .var p.1 s

/-- `c'` continues `c`: the assertions of `c` stay in front, and registered terms stay
variables. -/
def Extends (c c' : Context) : Prop :=
  c.assertions.toList <+: c'.assertions.toList ∧ (c.VarsOnly → c'.VarsOnly)

theorem Extends.refl (c : Context) : c.Extends c := ⟨List.prefix_refl _, id⟩

theorem Extends.trans {c c' c'' : Context} (h : c.Extends c') (h' : c'.Extends c'') :
    c.Extends c'' := ⟨h.1.trans h'.1, fun hv => h'.2 (h.2 hv)⟩

theorem Extends.satisfies {c c' : Context} {m : Model} (h : c.Extends c')
    (hm : m.Satisfies c'.assertions.toList) : m.Satisfies c.assertions.toList := by
  obtain ⟨t, ht⟩ := h.1
  rw [← ht] at hm
  exact (Model.satisfies_append.1 hm).1

@[simp] theorem varsOnly_empty : ({} : Context).VarsOnly := by simp [VarsOnly]

theorem VarsOnly.lookupVar {c : Context} (h : c.VarsOnly) {n : String} {t : Term}
    (ht : c.lookupVar n = some t) : ∃ n' s, t = .var n' s := by
  simp only [Context.lookupVar, Option.bind_eq_some_iff, Option.map_eq_some_iff] at ht
  obtain ⟨i, -, p, hp, rfl⟩ := ht
  obtain ⟨s, hs⟩ := h p (Array.mem_toList_iff.2 (Array.mem_of_getElem? hp))
  exact ⟨p.1, s, hs⟩

end Context

/-- A property of the steps of a monad that `pure` has and `bind` keeps. -/
structure Closed (M : Type → Type) [Monad M] (G : (α : Type) → M α → Prop) : Prop where
  pure : ∀ {α : Type} (a : α), G α (Pure.pure a)
  bind : ∀ {α β : Type} {x : M α} {f : α → M β}, G α x → (∀ a, G β (f a)) → G β (x >>= f)

namespace Closed

variable {M : Type → Type} [Monad M] {G : (α : Type) → M α → Prop} {α β : Type}

theorem forIn (h : Closed M G) {xs : List α} {init : β} {f : α → β → M (ForInStep β)}
    (hf : ∀ x b, G _ (f x b)) : G _ (ForIn.forIn xs init f) := by
  induction xs generalizing init with
  | nil => exact h.pure init
  | cons x xs ih =>
    rw [List.forIn_cons]
    refine h.bind (hf x init) fun r => ?_
    cases r with
    | done b => exact h.pure b
    | yield b => exact ih

theorem foldlM (h : Closed M G) {xs : List α} {f : β → α → M β} {init : β}
    (hf : ∀ b x, G _ (f b x)) : G _ (xs.foldlM f init) := by
  induction xs generalizing init with
  | nil => exact h.pure init
  | cons x xs ih =>
    rw [List.foldlM_cons]
    exact h.bind (hf init x) fun _ => ih

theorem mapM [LawfulMonad M] (h : Closed M G) {xs : List α} {f : α → M β} (hf : ∀ x, G _ (f x)) :
    G _ (xs.mapM f) := by
  induction xs with
  | nil => exact h.pure []
  | cons x xs ih =>
    rw [List.mapM_cons]
    exact h.bind (hf x) fun _ => h.bind ih fun _ => h.pure _

theorem filterMapM [LawfulMonad M] (h : Closed M G) {xs : List α} {f : α → M (Option β)}
    (hf : ∀ x, G _ (f x)) : G _ (xs.filterMapM f) := by
  induction xs with
  | nil => exact h.pure []
  | cons x xs ih =>
    rw [List.filterMapM_cons]
    refine h.bind (hf x) fun o => ?_
    cases o with
    | none => exact ih
    | some b => exact h.bind ih fun _ => h.pure _

end Closed

namespace Build

variable {α β : Type}

def Grows (x : Build α) : Prop := ∀ c : Context, c.Extends (x.run c).2

theorem Grows.bind {x : Build α} {f : α → Build β} (hx : Grows x) (hf : ∀ a, Grows (f a)) :
    Grows (x >>= f) := fun c => (hx c).trans (hf _ _)

theorem growsClosed : Closed Build fun _ x => Grows x :=
  ⟨fun _ c => Context.Extends.refl c, Grows.bind⟩

@[simp] theorem Grows.pure {a : α} : Grows (Pure.pure a) := growsClosed.pure a

theorem Grows.map {x : Build α} {f : α → β} (hx : Grows x) : Grows (f <$> x) := by
  rw [map_eq_pure_bind]
  exact hx.bind fun _ => Grows.pure

theorem Grows.ite_some {b : Bool} {x : Build α} (hx : Grows x) :
    Grows (if b then some <$> x else Pure.pure none) := by
  cases b
  · exact Grows.pure
  · exact hx.map

theorem Grows.join {γ : Type} {c : Bool} {x y : Build γ} {k : γ → Build α} (hx : Grows x) (hy : Grows y)
    (hk : ∀ v, Grows (k v)) : Grows (if c = true then x >>= k else y >>= k) := by
  cases c
  · exact hy.bind hk
  · exact hx.bind hk

theorem Grows.of_keeps {x : Build α} (h : Keeps x) : Grows x := fun c => by
  obtain ⟨hv, -, ha⟩ := h c
  refine ⟨ha ▸ List.prefix_refl _, fun hc => ?_⟩
  simpa [Context.VarsOnly, hv] using hc

@[simp] theorem grows_mkVar (n : String) (s : TermSort) : Grows (mkVar n s) := fun c => by
  refine ⟨assertions_mkVar n s c ▸ List.prefix_refl _, fun hc => ?_⟩
  cases h : c.lookupVar n with
  | none =>
    rw [mkVar_run_new h]
    intro p hp
    simp only [Array.toList_push, List.mem_append, List.mem_singleton] at hp
    rcases hp with hp | rfl
    · exact hc p hp
    · exact ⟨s, rfl⟩
  | some v =>
    have hr : ((mkVar n s).run c).2 = c := by simp [mkVar, h]; rfl
    rwa [hr]

@[simp] theorem grows_boolVar (n : String) : Grows (boolVar n) := grows_mkVar n _
@[simp] theorem grows_intVar (n : String) : Grows (intVar n) := grows_mkVar n _
@[simp] theorem grows_bvVar (n : String) (w : Nat) : Grows (bvVar n w) := grows_mkVar n _

@[simp] theorem grows_assert (t : Term) : Grows (assert t) := fun c => by
  refine ⟨by rw [assertions_assert]; exact List.prefix_append _ _, fun hc => ?_⟩
  rw [assert_run]
  split
  · exact hc
  · exact hc

@[simp] theorem grows_freshVar (n : String) (s : TermSort) : Grows (freshVar n s) := by
  unfold freshVar
  refine Grows.bind (fun c => Context.Extends.refl c) fun _ => ?_
  split
  · exact Grows.pure
  · exact Grows.bind (grows_mkVar n s) fun _ => Grows.pure

@[simp] theorem grows_generateId : Grows generateId := fun _ => ⟨List.prefix_refl _, id⟩
@[simp] theorem grows_simplify (t : Term) : Grows (simplify t) := fun _ => ⟨List.prefix_refl _, id⟩

@[simp] theorem grows_neg (a : Term) : Grows (neg a) := .of_keeps (keeps_neg a)
@[simp] theorem grows_allOf (ts : List Term) : Grows (allOf ts) := .of_keeps (keeps_allOf ts)
@[simp] theorem grows_anyOf (ts : List Term) : Grows (anyOf ts) := .of_keeps (keeps_anyOf ts)
@[simp] theorem grows_both (a b : Term) : Grows (both a b) := .of_keeps (keeps_both a b)
@[simp] theorem grows_either (a b : Term) : Grows (either a b) := .of_keeps (keeps_either a b)
@[simp] theorem grows_implies (a b : Term) : Grows (implies a b) := .of_keeps (keeps_implies a b)
@[simp] theorem grows_cond (c a b : Term) : Grows (cond c a b) := .of_keeps (keeps_cond c a b)
@[simp] theorem grows_equals (a b : Term) : Grows (equals a b) := .of_keeps (keeps_equals a b)
@[simp] theorem grows_lt (a b : Term) : Grows (lt a b) := .of_keeps (keeps_lt a b)
@[simp] theorem grows_gt (a b : Term) : Grows (gt a b) := .of_keeps (keeps_gt a b)
@[simp] theorem grows_le (a b : Term) : Grows (le a b) := .of_keeps (keeps_le a b)
@[simp] theorem grows_ge (a b : Term) : Grows (ge a b) := .of_keeps (keeps_ge a b)
@[simp] theorem grows_plus (a b : Term) : Grows (plus a b) := .of_keeps (keeps_node _)
@[simp] theorem grows_minus (a b : Term) : Grows (minus a b) := .of_keeps (keeps_node _)
@[simp] theorem grows_bvAnd (a b : Term) : Grows (bvAnd a b) := .of_keeps (keeps_node _)
@[simp] theorem grows_bvUle (a b : Term) : Grows (bvUle a b) := .of_keeps (keeps_node _)

end Build

namespace Encode

variable {α β : Type}

def Grows (x : Encode α) : Prop := ∀ c : Context, c.Extends (x.runOn c).2

theorem Grows.bind {x : Encode α} {f : α → Encode β} (hx : Grows x) (hf : ∀ a, Grows (f a)) :
    Grows (x >>= f) := by
  intro c
  rw [runOn_bind]
  rcases hrun : x.runOn c with ⟨_ | a, c'⟩
  · simpa [hrun] using hx c
  · exact (by simpa [hrun] using hx c : c.Extends c').trans (hf a c')

theorem growsClosed : Closed Encode fun _ x => Grows x :=
  ⟨fun _ c => Context.Extends.refl c, Grows.bind⟩

@[simp] theorem Grows.pure {a : α} : Grows (Pure.pure a : Encode α) := growsClosed.pure a

@[simp] theorem grows_liftM {x : Build α} : Grows (liftM x : Encode α) ↔ Build.Grows x := Iff.rfl

@[simp] theorem Grows.throw {e : EncodingError} : Grows (MonadExcept.throw e : Encode α) :=
  fun c => Context.Extends.refl c

@[simp] theorem Grows.need {e : EncodingError} {o : Option α} : Grows (Encode.need e o) := by
  cases o <;> exact fun c => Context.Extends.refl c

@[simp] theorem Grows.liftNetwork {x : Except NetworkError α} : Grows (liftM x : Encode α) := by
  cases x <;> exact fun c => Context.Extends.refl c

@[simp] theorem Grows.liftSmt {x : Except SmtError α} : Grows (liftM x : Encode α) := by
  cases x <;> exact fun c => Context.Extends.refl c

@[simp] theorem Grows.liftError {x : Except EncodingError α} : Grows (liftM x : Encode α) := by
  cases x <;> exact fun c => Context.Extends.refl c

end Encode

namespace SymEnum

variable {α : Type}

@[simp] theorem grows_new (n : String) (d : List α) : Build.Grows (SymEnum.new n d) := by
  unfold SymEnum.new
  repeat' first
    | with_reducible apply Build.Grows.bind | split | with_reducible intro _ | simp

@[simp] theorem grows_isDefault (e : SymEnum α) : Build.Grows e.isDefault := Build.grows_equals _ _

variable [BEq α] [ToString α]

@[simp] theorem grows_isValue (e : SymEnum α) (v : α) : Encode.Grows (e.isValue v) :=
  Encode.Grows.bind Encode.Grows.liftError fun _ => Encode.grows_liftM.2 (Build.grows_equals _ _)

@[simp] theorem grows_mkEq (e o : SymEnum α) : Build.Grows (e.mkEq o) := by
  unfold SymEnum.mkEq
  repeat' first
    | with_reducible apply Build.Grows.bind | with_reducible apply Build.growsClosed.filterMapM
    | split | with_reducible intro _ | simp

end SymEnum

@[simp] theorem OspfKind.grows_new (n : String) : Build.Grows (OspfKind.new n) := SymEnum.grows_new _ _

@[simp] theorem OspfKind.grows_isInternal (e : SymEnum OspfType) : Build.Grows (OspfKind.isInternal e) :=
  Build.grows_bvUle _ _

@[simp] theorem Packet.grows_new (pre : String) : Build.Grows (Packet.new pre) := by
  unfold Packet.new
  repeat' first | with_reducible apply Build.Grows.bind | with_reducible intro _ | simp

@[simp] theorem Packet.grows_mkEq (p q : Packet) : Build.Grows (p.mkEq q) := by
  unfold Packet.mkEq
  repeat' first
    | with_reducible apply Build.Grows.bind | with_reducible apply Build.growsClosed.mapM
    | with_reducible intro _ | simp

@[simp] theorem Route.grows_new (name router : String) (p : Option Protocol) (s : Scope) (g : Graph)
    (modelIgp isEnv : Bool) : Build.Grows (Route.new name router p s g modelIgp isEnv) := by
  have hint (suffix : String) := Build.grows_intVar (name ++ "_" ++ suffix)
  unfold Route.new
  extract_lets routerProtos covers hasBgp hasOspf multiple var optVar areas
  have hopt (keep : Bool) (suffix : String) : Build.Grows (optVar keep suffix) :=
    Build.Grows.ite_some (hint suffix)
  refine (Build.grows_boolVar _).bind fun _ => (hint _).bind fun _ => (hint _).bind fun _ => ?_
  refine (hopt _ _).bind fun _ => (hopt _ _).bind fun _ => (hopt _ _).bind fun _ => ?_
  refine (hopt _ _).bind fun _ => ?_
  -- the optional records meet in join points, one after the other
  extract_lets jp
  refine Build.Grows.join (SymEnum.grows_new _ _).map Build.Grows.pure fun _ => ?_
  simp -zeta only [jp]
  extract_lets jp
  refine Build.Grows.join (OspfKind.grows_new _).map Build.Grows.pure fun _ => ?_
  simp -zeta only [jp]
  extract_lets jp
  refine Build.Grows.join (Build.grows_boolVar _).map Build.Grows.pure fun _ => ?_
  simp -zeta only [jp]
  extract_lets jp
  refine Build.Grows.join (SymEnum.grows_new _ _).map Build.Grows.pure fun _ => ?_
  simp -zeta only [jp]
  refine (hopt _ _).bind fun _ => ?_
  extract_lets jp
  refine Build.Grows.join (SymEnum.grows_new _ _).map Build.Grows.pure fun _ => ?_
  simp -zeta only [jp]
  extract_lets jp
  refine Build.Grows.join (Build.growsClosed.mapM fun _ => (Build.grows_boolVar _).bind fun _ => Build.Grows.pure)
    Build.Grows.pure fun _ => ?_
  exact Build.Grows.pure

@[simp] theorem Failures.grows_new (g : Graph) (pre : String) : Build.Grows (Failures.new g pre) := by
  unfold Failures.new
  refine Build.Grows.bind (Build.growsClosed.foldlM fun f e => ?_) fun _ =>
    Build.Grows.bind (Build.growsClosed.mapM fun _ => (Build.grows_intVar _).bind fun _ => Build.Grows.pure)
      fun _ => Build.Grows.pure
  -- an edge adds at most one link variable
  split
  · exact Build.Grows.pure
  · split
    · simp only []
      split
      · exact Build.Grows.pure
      · exact (Build.grows_intVar _).bind fun _ => Build.Grows.pure
    · exact (Build.grows_intVar _).bind fun _ => Build.Grows.pure

@[simp] theorem Failures.grows_mkEq (f o : Failures) : Build.Grows (f.mkEq o) := by
  unfold Failures.mkEq
  refine Build.Grows.bind (Build.growsClosed.filterMapM fun kv => ?_) fun _ =>
    Build.Grows.bind (Build.growsClosed.filterMapM fun kv => ?_) fun _ =>
      Build.Grows.bind (Build.growsClosed.filterMapM fun kv => ?_) fun _ => Build.grows_allOf _
  -- each kind of variable: an equation where the other copy has the same key
  all_goals
    obtain ⟨k, v⟩ := kv
    dsimp only
    split
    · exact (Build.grows_equals _ _).map
    · exact Build.Grows.pure

namespace PacketFormula

@[simp] theorem grows_firstBitsEqual (x : Term) (p : Prefix) : Build.Grows (firstBitsEqual x p) := by
  unfold firstBitsEqual
  repeat' first | with_reducible apply Build.Grows.bind | split | with_reducible intro _ | simp

@[simp] theorem grows_inRange (x : Term) (r : SubRange) : Build.Grows (inRange x r) := by
  unfold inRange
  repeat' first | with_reducible apply Build.Grows.bind | split | with_reducible intro _ | simp

@[simp] theorem grows_constrain {β : Type} (pos neg : List β) (f : β → Build Term)
    (hf : ∀ b, Build.Grows (f b)) : Build.Grows (constrain pos neg f) := by
  unfold constrain
  repeat' first
    | with_reducible apply Build.Grows.bind | with_reducible apply Build.growsClosed.mapM
    | split | with_reducible intro _ | exact hf _ | simp

@[simp] theorem grows_headerSpace (pkt : Packet) (hs : HeaderSpace) : Build.Grows (headerSpace pkt hs) := by
  unfold headerSpace
  extract_lets jp
  have hjp (tcp : Term) : Build.Grows (jp tcp) := by
    simp -zeta only [jp]
    refine (grows_constrain _ _ _ fun _ => grows_firstBitsEqual _ _).bind fun _ => ?_
    refine (grows_constrain _ _ _ fun _ => grows_firstBitsEqual _ _).bind fun _ => ?_
    refine (grows_constrain _ _ _ fun _ => grows_inRange _ _).bind fun _ => ?_
    refine (grows_constrain _ _ _ fun _ => grows_inRange _ _).bind fun _ => ?_
    refine (grows_constrain _ _ _ fun _ => Build.grows_equals _ _).bind fun _ => ?_
    refine (grows_constrain _ _ _ fun _ => grows_inRange _ _).bind fun _ => ?_
    exact (grows_constrain _ _ _ fun _ => grows_inRange _ _).bind fun _ => Build.grows_allOf _
  split
  · exact Build.Grows.pure.bind hjp
  · -- the TCP flag condition: one conjunction per flag matcher
    refine (Build.growsClosed.mapM fun _ => (Build.growsClosed.filterMapM fun x => ?_).bind
      fun _ => Build.grows_allOf _).bind fun _ => (Build.grows_anyOf _).bind hjp
    obtain ⟨⟨_, want⟩, _⟩ := x
    cases want
    · exact Build.Grows.pure
    · exact (Build.grows_equals _ _).map

mutual
theorem grows_matchExpr (pkt : Packet) (acl : String) :
    ∀ x : AclLineMatchExpr, Encode.Grows (matchExpr pkt acl x)
  | .always | .never | .permittedByAcl _ | .matchSrcInterface _ => by simp [matchExpr]
  | .matchHeaderSpace hs => by simp [matchExpr]
  | .conj xs | .disj xs => by
    simp only [matchExpr]
    exact Encode.Grows.bind (grows_matchEach pkt acl xs) fun _ => by simp
  | .negation x => by
    simp only [matchExpr]
    exact Encode.Grows.bind (grows_matchExpr pkt acl x) fun _ => by simp
theorem grows_matchEach (pkt : Packet) (acl : String) :
    ∀ xs : List AclLineMatchExpr, Encode.Grows (matchEach pkt acl xs)
  | [] => by simp [matchEach]
  | x :: xs => by
    simp only [matchEach]
    exact Encode.Grows.bind (grows_matchExpr pkt acl x) fun _ =>
      Encode.Grows.bind (grows_matchEach pkt acl xs) fun _ => Encode.Grows.pure
end

@[simp] theorem grows_compileAcl (pkt : Packet) (acl : IpAccessList) :
    Encode.Grows (compileAcl pkt acl) :=
  Encode.growsClosed.foldlM fun _ line =>
    Encode.Grows.bind (grows_matchExpr pkt acl.name line.matcher) fun _ => by simp

end PacketFormula

@[simp] theorem grows_defaultAdminDistance (p : Protocol) (r : Route) :
    Build.Grows (defaultAdminDistance p r) := by
  unfold defaultAdminDistance
  repeat' first | with_reducible apply Build.Grows.bind | split | with_reducible intro _ | simp

@[simp] theorem grows_equalHistories (best vars : Route) : Encode.Grows (equalHistories best vars) := by
  unfold equalHistories
  repeat' first | split | simp

@[simp] theorem grows_safeEq (x : Option Term) (v : Term) : Build.Grows (safeEq x v) := by
  unfold safeEq
  repeat' first | split | simp

@[simp] theorem grows_eqHelper (b v : Option Term) (d : Term) : Build.Grows (eqHelper b v d) := by
  unfold eqHelper
  repeat' first | split | simp

@[simp] theorem grows_betterHelper (b v : Option Term) (d : Term) (less : Bool) :
    Build.Grows (betterHelper b v d less) := by
  unfold betterHelper
  repeat' first | split | simp

@[simp] theorem grows_lexStep (better same rest : Term) : Build.Grows (lexStep better same rest) := by
  unfold lexStep
  exact Build.Grows.bind (by simp) fun _ => by simp

@[simp] theorem grows_typeComparison (best vars : Route) : Build.Grows (typeComparison best vars) := by
  unfold typeComparison
  repeat' first | with_reducible apply Build.Grows.bind | split | with_reducible intro _ | simp

@[simp] theorem grows_rankComparison (p : Protocol) (best vars : Route) (rank : BgpRank) :
    Build.Grows (rankComparison p best vars rank) := by
  unfold rankComparison
  repeat' first | with_reducible apply Build.Grows.bind | split | with_reducible intro _ | simp

namespace Slice

@[simp] theorem grows_tiebreak (s : Slice) (p : Protocol) (best vars : Route) (e : Option LogicalEdge) :
    Encode.Grows (s.tiebreak p best vars e) := by
  unfold tiebreak
  repeat' first | with_reducible apply Encode.Grows.bind | split | with_reducible intro _ | simp

@[simp] theorem grows_greaterOrEqual (s : Slice) (env : SliceEnv) (p : Protocol) (best vars : Route)
    (e : Option LogicalEdge) : Encode.Grows (s.greaterOrEqual env p best vars e) := by
  unfold greaterOrEqual
  repeat' first
    | with_reducible apply Encode.Grows.bind | with_reducible apply Encode.growsClosed.forIn
    | with_reducible apply Build.Grows.bind | split | with_reducible intro _ | simp

end Slice

end ControlPlane
