import ControlPlane.Proofs.Network.PolicyWalk

/-!
# The walk of a policy lists what it reaches, entering each policy once

`walkPolicy c name` lists the statements and expressions of the named policy and of every policy
they call or make the default; `walkStatements c ss` does the same from a list of statements. The
walk keeps the names of the policies it has entered, the last first. It records a name just before
it walks the body of the policy of that name, and skips a name it holds already, so calls in a
cycle end.

The walk is exact: every node it lists can be reached from its start (`walk_reaches`), and every
node that can be reached is listed (`Covers.mem_of_reaches`), although a policy reached a second
time is skipped, since its body was listed when it was first entered. The fuel of the walk never
runs out: it is one more than the number of defined policies, and every policy a chain of calls
enters is a defined one not entered before (`Ready`).
-/

namespace ControlPlane

namespace PolicyWalk

variable (c : Configuration)

theorem named_run_of_mem {fuel : Nat} {name : String} {st : List String} (h : name ∈ st) :
    (named c (fuel + 1) name).run st = ([], st) := by
  rw [named]
  simp [h]
  rfl

theorem named_run_of_get? {fuel : Nat} {name : String} {st : List String} {p : RoutingPolicy}
    (h : name ∉ st) (hp : c.routingPolicies.get? name = some p) :
    (named c (fuel + 1) name).run st = (stmts c fuel p.statements).run (name :: st) := by
  rw [named]
  simp [h, hp]

theorem named_run_of_get?_none {fuel : Nat} {name : String} {st : List String} (h : name ∉ st)
    (hp : c.routingPolicies.get? name = none) :
    (named c (fuel + 1) name).run st = ([], name :: st) := by
  rw [named]
  simp [h, hp]
  rfl

def definedCount (st : List String) : Nat := (st.filter c.routingPolicies.contains).length

/-- A walk step may start from the entered names `st` with `fuel`: the names are distinct, and
the fuel is more than the number of defined policies not entered yet. -/
def Ready (fuel : Nat) (st : List String) : Prop :=
  st.Nodup ∧ c.routingPolicies.size + 1 ≤ fuel + definedCount c st

/-- What a run of a walk step did between the entered names `st` and `st'` with output `out`:
the policies `roots` it set out to enter are entered; it added new names only, each once; every
policy a listed node calls is entered; the body of every policy it entered is listed; and it
entered a policy only when it is one of `roots` or a listed node calls it. -/
structure Covers (roots st : List String) (out : List PolicyNode) (st' : List String) : Prop where
  roots_mem : ∀ k ∈ roots, k ∈ st'
  suffix : st <:+ st'
  nodup : st'.Nodup
  calls : ∀ n ∈ out, ∀ k, n.callee? = some k → k ∈ st'
  bodies : ∀ k ∈ st', k ∉ st → ∀ p, c.routingPolicies.get? k = some p →
    ∀ s ∈ p.statements, PolicyNode.stmt s ∈ out
  entered : ∀ k ∈ st', k ∉ st → k ∈ roots ∨ ∃ n ∈ out, n.callee? = some k

variable {c}

theorem definedCount_le {st : List String} (h : st.Nodup) :
    definedCount c st ≤ c.routingPolicies.size := by
  -- the defined names of `st` are distinct keys of the map
  have hsub : st.filter c.routingPolicies.contains ⊆ c.routingPolicies.keys := by
    intro k hk
    have hsome : (c.routingPolicies.entries.lookup k).isSome := (List.mem_filter.1 hk).2
    obtain ⟨e, he, hke⟩ := List.lookup_isSome_iff.1 hsome
    exact List.mem_map.2 ⟨e, he, (beq_iff_eq.1 hke).symm⟩
  calc definedCount c st ≤ c.routingPolicies.keys.length :=
        List.Nodup.length_le_of_subset (h.filter _) hsub
    _ = c.routingPolicies.size := List.length_map _

theorem Ready.enter {fuel : Nat} {name : String} {st : List String} {p : RoutingPolicy}
    (h : Ready c (fuel + 1) st) (hname : name ∉ st) (hp : c.routingPolicies.get? name = some p) :
    Ready c fuel (name :: st) := by
  have hcount : definedCount c (name :: st) = definedCount c st + 1 := by
    have hdef : c.routingPolicies.contains name = true :=
      (Option.isSome_iff_exists.2 ⟨p, hp⟩ : (c.routingPolicies.get? name).isSome = true)
    simp only [definedCount, List.filter_cons_of_pos hdef, List.length_cons]
  refine ⟨List.nodup_cons.2 ⟨hname, h.1⟩, ?_⟩
  have := h.2
  omega

theorem Ready.fuel_pos {fuel : Nat} {st : List String} (h : Ready c fuel st) : 0 < fuel := by
  have := definedCount_le (c := c) h.1
  have := h.2
  omega

namespace Covers

variable {roots st st₁ st' : List String} {out out' : List PolicyNode}

theorem idle (h : st.Nodup) (hr : ∀ k ∈ roots, k ∈ st) : Covers c roots st [] st where
  roots_mem := hr
  suffix := List.suffix_refl st
  nodup := h
  calls := by simp
  bodies k hk hst := absurd hk hst
  entered k hk hst := absurd hk hst

theorem ready {fuel : Nat} (h : Covers c roots st out st') (hr : Ready c fuel st) :
    Ready c fuel st' := by
  refine ⟨h.nodup, ?_⟩
  have : definedCount c st ≤ definedCount c st' := (h.suffix.filter _).length_le
  have := hr.2
  omega

theorem append (h₁ : Covers c roots st out st₁) (h₂ : Covers c roots st₁ out' st') :
    Covers c roots st (out ++ out') st' where
  roots_mem k hk := h₂.roots_mem k hk
  suffix := h₁.suffix.trans h₂.suffix
  nodup := h₂.nodup
  calls n hn k hk := by
    rcases List.mem_append.1 hn with hn | hn
    · exact h₂.suffix.subset (h₁.calls n hn k hk)
    · exact h₂.calls n hn k hk
  bodies k hk hst p hp s hs := by
    by_cases hk₁ : k ∈ st₁
    · exact List.mem_append_left _ (h₁.bodies k hk₁ hst p hp s hs)
    · exact List.mem_append_right _ (h₂.bodies k hk hk₁ p hp s hs)
  entered k hk hst := by
    by_cases hk₁ : k ∈ st₁
    · rcases h₁.entered k hk₁ hst with hr | ⟨n, hn, hc⟩
      · exact .inl hr
      · exact .inr ⟨n, List.mem_append_left _ hn, hc⟩
    · rcases h₂.entered k hk hk₁ with hr | ⟨n, hn, hc⟩
      · exact .inl hr
      · exact .inr ⟨n, List.mem_append_right _ hn, hc⟩

theorem cons {n : PolicyNode} (h : Covers c [] st out st')
    (hn : ∀ k, n.callee? = some k → k ∈ st') : Covers c [] st (n :: out) st' where
  roots_mem := by simp
  suffix := h.suffix
  nodup := h.nodup
  calls m hm k hk := by
    rcases List.mem_cons.1 hm with rfl | hm
    · exact hn k hk
    · exact h.calls m hm k hk
  bodies k hk hst p hp s hs := List.mem_cons_of_mem _ (h.bodies k hk hst p hp s hs)
  entered k hk hst := by
    rcases h.entered k hk hst with hr | ⟨m, hm, hc⟩
    · simp at hr
    · exact .inr ⟨m, List.mem_cons_of_mem _ hm, hc⟩

theorem call {n : PolicyNode} {k : String} (h : Covers c [k] st out st')
    (hn : n.callee? = some k) : Covers c [] st (n :: out) st' where
  roots_mem := by simp
  suffix := h.suffix
  nodup := h.nodup
  calls m hm k' hk' := by
    rcases List.mem_cons.1 hm with rfl | hm
    · rw [hn] at hk'
      cases hk'
      exact h.roots_mem _ List.mem_cons_self
    · exact h.calls m hm k' hk'
  bodies k' hk' hst p hp s hs := List.mem_cons_of_mem _ (h.bodies k' hk' hst p hp s hs)
  entered k' hk' hst := by
    rcases h.entered k' hk' hst with hr | ⟨m, hm, hc⟩
    · rw [List.mem_singleton.1 hr]
      exact .inr ⟨n, List.mem_cons_self, hn⟩
    · exact .inr ⟨m, List.mem_cons_of_mem _ hm, hc⟩

theorem enter {name : String} (h : Covers c [] (name :: st) out st')
    (hbody : ∀ p, c.routingPolicies.get? name = some p → ∀ s ∈ p.statements, PolicyNode.stmt s ∈ out) :
    Covers c [name] st out st' where
  roots_mem k hk := by
    rw [List.mem_singleton.1 hk]
    exact h.suffix.subset List.mem_cons_self
  suffix := (List.suffix_cons name st).trans h.suffix
  nodup := h.nodup
  calls := h.calls
  bodies k hk hst p hp s hs := by
    by_cases hkn : k = name
    · subst hkn
      exact hbody p hp s hs
    · exact h.bodies k hk (by simp [hkn, hst]) p hp s hs
  entered k hk hst := by
    by_cases hkn : k = name
    · exact .inl (List.mem_singleton.2 hkn)
    · rcases h.entered k hk (by simp [hkn, hst]) with hr | hr
      · simp at hr
      · exact .inr hr

theorem undefined {name : String} (hname : name ∉ st) (hnd : st.Nodup)
    (hp : c.routingPolicies.get? name = none) : Covers c [name] st [] (name :: st) where
  roots_mem k hk := by simp [List.mem_singleton.1 hk]
  suffix := List.suffix_cons name st
  nodup := List.nodup_cons.2 ⟨hname, hnd⟩
  calls := by simp
  bodies k hk hst p hkp := by
    have : k = name := by simpa [hst] using hk
    subst this
    simp [hp] at hkp
  entered k hk hst := .inl (by simpa [hst] using hk)

end Covers

variable (c)

def Walks (roots : List String) (fuel : Nat) (x : StateM (List String) (List PolicyNode)) : Prop :=
  ∀ st, Ready c fuel st → Covers c roots st (x.run st).1 (x.run st).2

/-- Each walk step, run from a ready list of entered names, covers what it set out to enter:
a named policy its name, the other steps nothing. By the induction of the four walk functions
together. The run of a step is, by the definition of the state monad, the runs of its pieces one
after the other; they are chained by `Covers.append`, each ready because the one before it was
(`Covers.ready`). -/
theorem walk_covers :
    (∀ fuel name, Walks c [name] fuel (named c fuel name)) ∧
    (∀ fuel ss, Walks c [] fuel (stmts c fuel ss)) ∧
    (∀ fuel e, Walks c [] fuel (expr c fuel e)) ∧
    (∀ fuel xs, Walks c [] fuel (exprs c fuel xs)) := by
  refine named.mutual_induct c _ _ _ _ ?zero ?enter ?nil ?ite ?default ?plain ?conj ?disj
    ?conjChain ?firstChain ?neg ?env ?call ?leaf ?exprsNil ?exprsCons
  case zero =>
    intro name st hst
    exact absurd hst.fuel_pos (Nat.lt_irrefl 0)
  case enter =>
    intro name fuel hbody st hst
    by_cases hmem : name ∈ st
    · rw [named_run_of_mem c hmem]
      exact Covers.idle hst.1 (by simpa using hmem)
    · cases hp : c.routingPolicies.get? name with
      | none =>
        rw [named_run_of_get?_none c hmem hp]
        exact Covers.undefined hmem hst.1 hp
      | some p =>
        rw [named_run_of_get? c hmem hp]
        refine (hbody p _ (hst.enter hmem hp)).enter fun p' hp' s hs => ?_
        rw [hp] at hp'
        cases hp'
        exact ((walk_partsClosed c).2.1 fuel p.statements (name :: st)).1 s hs
  case nil =>
    intro fuel st hst
    rw [stmts]
    exact Covers.idle hst.1 (List.forall_mem_nil _)
  case ite =>
    intro fuel rest g t e hrest hg ht he st hst
    rw [stmts]
    have h₁ := hg st hst
    have h₂ := ht _ (h₁.ready hst)
    have h₃ := he _ (h₂.ready (h₁.ready hst))
    have h₄ := hrest _ (h₃.ready (h₂.ready (h₁.ready hst)))
    exact (((h₁.append h₂).append h₃).cons (by simp)).append h₄
  case default =>
    intro fuel rest name hrest hname st hst
    rw [stmts]
    have h₁ := hname st hst
    exact (h₁.call rfl).append (hrest _ (h₁.ready hst))
  case plain =>
    intro fuel s rest hite hdef hrest st hst
    rw [stmts.eq_4 c fuel s rest hite hdef]
    have hleaf : (PolicyNode.stmt s).callee? = none := by
      cases s <;> simp_all
    have hidle := (Covers.idle (c := c) hst.1 (List.forall_mem_nil _)).cons fun _ hk => by
      rw [hleaf] at hk
      cases hk
    exact hidle.append (hrest st hst)
  case conj | disj | conjChain | firstChain =>
    intro fuel xs hxs st hst
    rw [expr]
    exact (hxs st hst).cons (by simp)
  case neg | env =>
    intro fuel x hx st hst
    rw [expr]
    exact (hx st hst).cons (by simp)
  case call =>
    intro fuel name hname st hst
    rw [expr]
    exact (hname st hst).call rfl
  case leaf =>
    intro fuel e hconj hdisj hchain hfirst hneg henv hcall st hst
    rw [expr.eq_8 c fuel e hconj hdisj hchain hfirst hneg henv hcall]
    have hleaf : (PolicyNode.expr e).callee? = none := by
      cases e <;> simp_all
    exact (Covers.idle hst.1 (List.forall_mem_nil _)).cons fun _ hk => by
      rw [hleaf] at hk
      cases hk
  case exprsNil =>
    intro fuel st hst
    rw [exprs]
    exact Covers.idle hst.1 (List.forall_mem_nil _)
  case exprsCons =>
    intro fuel x rest hx hrest st hst
    rw [exprs]
    have h₁ := hx st hst
    exact h₁.append (hrest _ (h₁.ready hst))

/-- Every node a walk step lists can be reached from `ss₀`, when what the step walks can: the
statements of a named policy, the statements of a list, an expression, the expressions of a
list. -/
theorem walk_reaches (ss₀ : List Statement) :
    (∀ fuel name, (∀ p, c.routingPolicies.get? name = some p →
        ∀ s ∈ p.statements, PolicyReaches c ss₀ (.stmt s)) →
      Yields (named c fuel name) fun out => ∀ n ∈ out, PolicyReaches c ss₀ n) ∧
    (∀ fuel ss, (∀ s ∈ ss, PolicyReaches c ss₀ (.stmt s)) →
      Yields (stmts c fuel ss) fun out => ∀ n ∈ out, PolicyReaches c ss₀ n) ∧
    (∀ fuel e, PolicyReaches c ss₀ (.expr e) →
      Yields (expr c fuel e) fun out => ∀ n ∈ out, PolicyReaches c ss₀ n) ∧
    (∀ fuel xs, (∀ x ∈ xs, PolicyReaches c ss₀ (.expr x)) →
      Yields (exprs c fuel xs) fun out => ∀ n ∈ out, PolicyReaches c ss₀ n) := by
  refine named.mutual_induct c _ _ _ _ ?zero ?enter ?nil ?ite ?default ?plain ?conj ?disj
    ?conjChain ?firstChain ?neg ?env ?call ?leaf ?exprsNil ?exprsCons
  case zero =>
    intro name _
    rw [named]
    exact Yields.pure (List.forall_mem_nil _)
  case enter =>
    intro name fuel hbody hname
    rw [named]
    refine Yields.bind_any fun entered => ?_
    split
    · exact Yields.pure (List.forall_mem_nil _)
    · refine Yields.bind_any fun _ => ?_
      split
      · next p hp => exact hbody p (hname p hp)
      · exact Yields.pure (List.forall_mem_nil _)
  case nil =>
    intro fuel _
    rw [stmts]
    exact Yields.pure (List.forall_mem_nil _)
  case ite =>
    intro fuel rest g t e hrest hg ht he hss
    have hite := hss _ List.mem_cons_self
    rw [stmts]
    refine Yields.bind (hg (hite.part (by simp))) fun a ha =>
      Yields.bind (ht fun s hs => hite.part (by simp [hs])) fun b hb =>
      Yields.bind (he fun s hs => hite.part (by simp [hs])) fun d hd => ?_
    refine Yields.pure_bind (Yields.bind (hrest fun s hs => hss s (List.mem_cons_of_mem _ hs))
      fun more hmore => Yields.pure ?_)
    simp only [List.cons_append, List.mem_cons, List.mem_append]
    rintro n (rfl | ((hn | hn) | hn) | hn)
    · exact hite
    · exact ha n hn
    · exact hb n hn
    · exact hd n hn
    · exact hmore n hn
  case default =>
    intro fuel rest name hrest hname hss
    have hdef := hss _ List.mem_cons_self
    rw [stmts]
    refine Yields.bind (hname fun p hp s hs => hdef.call rfl hp hs) fun here hhere =>
      Yields.bind (hrest fun s hs => hss s (List.mem_cons_of_mem _ hs)) fun more hmore =>
      Yields.pure ?_
    simp only [List.cons_append, List.mem_cons, List.mem_append]
    rintro n (rfl | hn | hn)
    · exact hdef
    · exact hhere n hn
    · exact hmore n hn
  case plain =>
    intro fuel s rest hite hdef hrest hss
    rw [stmts.eq_4 c fuel s rest hite hdef]
    refine Yields.pure_bind (Yields.bind (hrest fun s hs => hss s (List.mem_cons_of_mem _ hs))
      fun more hmore => Yields.pure ?_)
    simp only [List.cons_append, List.nil_append, List.mem_cons]
    rintro n (rfl | hn)
    · exact hss _ List.mem_cons_self
    · exact hmore n hn
  case conj | disj | conjChain | firstChain =>
    intro fuel xs hxs he
    rw [expr]
    refine Yields.bind (hxs fun x hx => he.part (by simp [hx])) fun inner hinner =>
      Yields.pure ?_
    rintro n (_ | ⟨_, hn⟩)
    · exact he
    · exact hinner n hn
  case neg | env =>
    intro fuel x hx he
    rw [expr]
    refine Yields.bind (hx (he.part (by simp))) fun inner hinner => Yields.pure ?_
    rintro n (_ | ⟨_, hn⟩)
    · exact he
    · exact hinner n hn
  case call =>
    intro fuel name hname he
    rw [expr]
    refine Yields.bind (hname fun p hp s hs => he.call rfl hp hs) fun inner hinner =>
      Yields.pure ?_
    rintro n (_ | ⟨_, hn⟩)
    · exact he
    · exact hinner n hn
  case leaf =>
    intro fuel e hconj hdisj hchain hfirst hneg henv hcall he
    rw [expr.eq_8 c fuel e hconj hdisj hchain hfirst hneg henv hcall]
    refine Yields.pure_bind (Yields.pure ?_)
    rintro n (_ | ⟨_, hn⟩)
    · exact he
    · exact absurd hn List.not_mem_nil
  case exprsNil =>
    intro fuel _
    rw [exprs]
    exact Yields.pure (List.forall_mem_nil _)
  case exprsCons =>
    intro fuel x rest hx hrest hxs
    rw [exprs]
    refine Yields.bind (hx (hxs x List.mem_cons_self)) fun a ha =>
      Yields.bind (hrest fun y hy => hxs y (List.mem_cons_of_mem _ hy)) fun b hb =>
      Yields.pure fun n hn => ?_
    rcases List.mem_append.1 hn with hn | hn
    · exact ha n hn
    · exact hb n hn

variable {c}

/-- A run from no entered names lists every node that can be reached from `ss`, when it lists
each statement of `ss` and the parts of each node it lists. A policy the run skipped when it was
reached again was entered before, and its body is listed. -/
theorem Covers.mem_of_reaches {roots st' : List String} {out : List PolicyNode}
    {ss : List Statement} {n : PolicyNode} (h : Covers c roots [] out st')
    (hparts : PartsClosed out) (htop : ∀ s ∈ ss, PolicyNode.stmt s ∈ out)
    (hn : PolicyReaches c ss n) : n ∈ out := by
  induction hn with
  | top hs => exact htop _ hs
  | part _ hm ih => exact hparts _ ih _ hm
  | call _ hk hp hs ih => exact h.bodies _ (h.calls _ ih _ hk) List.not_mem_nil _ hp _ hs

theorem ready_start : Ready c (c.routingPolicies.size + 1) [] :=
  ⟨List.nodup_nil, Nat.le_add_right _ _⟩

end PolicyWalk

open PolicyWalk

/-- The names the walk of the named policy enters, the last first. The walk records a name just
before it walks the body of the policy of that name, so the list names each body walked. -/
def policyEntries (c : Configuration) (name : String) : List String :=
  ((named c (c.routingPolicies.size + 1) name).run []).2

def statementEntries (c : Configuration) (ss : List Statement) : List String :=
  ((stmts c (c.routingPolicies.size + 1) ss).run []).2

variable {c : Configuration}

theorem walkStatements_covers (ss : List Statement) :
    Covers c [] [] (walkStatements c ss) (statementEntries c ss) :=
  (walk_covers c).2.1 _ ss [] ready_start

theorem walkPolicy_covers (name : String) :
    Covers c [name] [] (walkPolicy c name) (policyEntries c name) :=
  (walk_covers c).1 _ name [] ready_start

theorem mem_walkStatements_iff {ss : List Statement} {n : PolicyNode} :
    n ∈ walkStatements c ss ↔ PolicyReaches c ss n := by
  constructor
  · intro hn
    exact (walk_reaches c ss).2.1 _ ss (fun _ hs => .top hs) [] n hn
  · intro hn
    have hwalk := walkStatements_partsClosed (c := c) ss
    exact (walkStatements_covers ss).mem_of_reaches hwalk.2 hwalk.1 hn

theorem walkPolicy_of_get?_none {name : String} (hp : c.routingPolicies.get? name = none) :
    walkPolicy c name = [] := by
  rw [walkPolicy, named_run_of_get?_none c List.not_mem_nil hp]

theorem mem_walkPolicy_iff {name : String} {n : PolicyNode} :
    n ∈ walkPolicy c name ↔
      ∃ p, c.routingPolicies.get? name = some p ∧ PolicyReaches c p.statements n := by
  constructor
  · intro hn
    cases hp : c.routingPolicies.get? name with
    | none => simp [walkPolicy_of_get?_none hp] at hn
    | some p =>
      refine ⟨p, rfl, (walk_reaches c p.statements).1 _ name ?_ [] n hn⟩
      intro p' hp' s hs
      rw [hp] at hp'
      cases hp'
      exact .top hs
  · rintro ⟨p, hp, hn⟩
    have hcov := walkPolicy_covers (c := c) name
    -- the body of the named policy is listed, since the walk entered its name
    have htop : ∀ s ∈ p.statements, PolicyNode.stmt s ∈ walkPolicy c name :=
      hcov.bodies name (hcov.roots_mem name List.mem_cons_self) List.not_mem_nil p hp
    exact hcov.mem_of_reaches ((walk_partsClosed c).1 _ name []) htop hn

/-- The policy walk is exact and enters each policy once: it lists exactly the nodes reachable
from the statements it starts at, and the names it enters are distinct, the start's and those
that listed nodes call. -/
theorem policy_walk_exact_and_enters_once (c : Configuration) :
    (∀ name n, n ∈ walkPolicy c name ↔
        ∃ p, c.routingPolicies.get? name = some p ∧ PolicyReaches c p.statements n) ∧
    (∀ name, (policyEntries c name).Nodup ∧ ∀ k, k ∈ policyEntries c name ↔
        k = name ∨ ∃ n ∈ walkPolicy c name, n.callee? = some k) ∧
    (∀ ss n, n ∈ walkStatements c ss ↔ PolicyReaches c ss n) ∧
    (∀ ss, (statementEntries c ss).Nodup ∧ ∀ k, k ∈ statementEntries c ss ↔
        ∃ n ∈ walkStatements c ss, n.callee? = some k) := by
  refine ⟨fun _ _ => mem_walkPolicy_iff, fun name => ?_, fun _ _ => mem_walkStatements_iff,
    fun ss => ?_⟩
  · have hcov := walkPolicy_covers (c := c) name
    refine ⟨hcov.nodup, fun k => ⟨fun hk => ?_, ?_⟩⟩
    · simpa using hcov.entered k hk List.not_mem_nil
    · rintro (rfl | ⟨n, hn, hk⟩)
      · exact hcov.roots_mem _ List.mem_cons_self
      · exact hcov.calls n hn k hk
  · have hcov := walkStatements_covers (c := c) ss
    refine ⟨hcov.nodup, fun k => ⟨fun hk => ?_, fun hcall => ?_⟩⟩
    · simpa using hcov.entered k hk List.not_mem_nil
    · obtain ⟨n, hn, hk⟩ := hcall
      exact hcov.calls n hn k hk

end ControlPlane
