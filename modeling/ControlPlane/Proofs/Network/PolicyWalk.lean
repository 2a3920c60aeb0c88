import ControlPlane.Network.Walk

/-!
# The walk of policies lists what the compiler can reach

The compiler of transfer functions enters a policy at its statements. From a node it moves to
the node's parts, the guard and branches of a conditional and the operands of an expression, and
from a call or a default policy to the statements of the policy named. `PolicyReaches c ss` is
the set of nodes it can visit from the statements `ss`.

Before any compilation the network decides, from a walk of each policy, which community variables
exist and which attributes routes keep. The walk enters a named policy at most once and only to
a bounded depth, so from one start it may miss the body of a called policy. It starts afresh at
every policy, though, and from every start it lists the parts of each node it lists
(`walk_partsClosed`). So every node the compiler can reach from a policy is listed by the walk of
some policy (`PolicyReaches.mem_walk`).
-/

namespace ControlPlane

namespace PolicyNode

/-- The nodes one step below a node, calls apart: the guard and the branches of a conditional,
the operands of an expression. -/
@[simp] def parts : PolicyNode → List PolicyNode
  | .stmt (.ite g t e) => .expr g :: t.map .stmt ++ e.map .stmt
  | .expr (.conjunction xs) | .expr (.disjunction xs) | .expr (.conjunctionChain xs)
  | .expr (.firstMatchChain xs) => xs.map .expr
  | .expr (.negation x) | .expr (.withEnvironment x) => [.expr x]
  | _ => []

@[simp] def callee? : PolicyNode → Option String
  | .expr (.callExpr name) | .stmt (.setDefaultPolicy name) => some name
  | _ => none

end PolicyNode

/-- The nodes that the compiler can visit from the statements `ss` of the configuration `c`. -/
inductive PolicyReaches (c : Configuration) (ss : List Statement) : PolicyNode → Prop
  | top {s : Statement} : s ∈ ss → PolicyReaches c ss (.stmt s)
  | part {n m : PolicyNode} : PolicyReaches c ss n → m ∈ n.parts → PolicyReaches c ss m
  | call {n : PolicyNode} {name : String} {p : RoutingPolicy} {s : Statement} :
      PolicyReaches c ss n → n.callee? = some name → c.routingPolicies.get? name = some p →
      s ∈ p.statements → PolicyReaches c ss (.stmt s)

def PartsClosed (ns : List PolicyNode) : Prop := ∀ n ∈ ns, ∀ m ∈ n.parts, m ∈ ns

namespace PartsClosed

theorem nil : PartsClosed [] := by
  simp [PartsClosed]

theorem append {ns ms : List PolicyNode} (hn : PartsClosed ns) (hm : PartsClosed ms) :
    PartsClosed (ns ++ ms) := by
  intro n hmem m hpart
  rcases List.mem_append.1 hmem with h | h
  · exact List.mem_append_left _ (hn n h m hpart)
  · exact List.mem_append_right _ (hm n h m hpart)

theorem cons {n : PolicyNode} {ns : List PolicyNode} (hparts : ∀ m ∈ n.parts, m ∈ ns)
    (hns : PartsClosed ns) : PartsClosed (n :: ns) := by
  intro k hk m hm
  rcases List.mem_cons.1 hk with rfl | hk
  · exact List.mem_cons_of_mem _ (hparts m hm)
  · exact List.mem_cons_of_mem _ (hns k hk m hm)

theorem cons_leaf {n : PolicyNode} {ns : List PolicyNode} (hleaf : n.parts = [])
    (hns : PartsClosed ns) : PartsClosed (n :: ns) :=
  cons (fun m hm => by rw [hleaf] at hm; cases hm) hns

end PartsClosed

namespace PolicyWalk

variable {α β : Type}

/-- Every run of a step of the walk, from every list of entered names, returns a value
satisfying `P`. -/
def Yields (x : StateM (List String) α) (P : α → Prop) : Prop := ∀ st, P (x.run st).1

theorem Yields.pure {a : α} {P : α → Prop} (h : P a) : Yields (Pure.pure a) P := fun _ => h

theorem Yields.bind {x : StateM (List String) α} {f : α → StateM (List String) β}
    {P : α → Prop} {Q : β → Prop} (hx : Yields x P) (hf : ∀ a, P a → Yields (f a) Q) :
    Yields (x >>= f) Q :=
  fun st => hf _ (hx st) _

theorem Yields.pure_bind {a : α} {f : α → StateM (List String) β} {Q : β → Prop}
    (h : Yields (f a) Q) : Yields (Pure.pure a >>= f) Q := h

theorem Yields.bind_any {x : StateM (List String) α} {f : α → StateM (List String) β}
    {Q : β → Prop} (hf : ∀ a, Yields (f a) Q) : Yields (x >>= f) Q :=
  fun _ => hf _ _

variable (c : Configuration)

/-- The walk lists every statement of the list it walks, every expression it walks, and with each
node its parts. The four walk functions are taken together, by their own induction: the body of
a named policy is a walk of statements one level down, and the pieces of a statement or an
expression are walked at the same level. -/
theorem walk_partsClosed :
    (∀ fuel name, Yields (named c fuel name) PartsClosed) ∧
    (∀ fuel ss, Yields (stmts c fuel ss) fun out =>
      (∀ s ∈ ss, .stmt s ∈ out) ∧ PartsClosed out) ∧
    (∀ fuel e, Yields (expr c fuel e) fun out => .expr e ∈ out ∧ PartsClosed out) ∧
    (∀ fuel xs, Yields (exprs c fuel xs) fun out =>
      (∀ x ∈ xs, .expr x ∈ out) ∧ PartsClosed out) := by
  refine named.mutual_induct c _ _ _ _ ?zero ?enter ?nil ?ite ?default ?plain ?conj ?disj
    ?conjChain ?firstChain ?neg ?env ?call ?leaf ?exprsNil ?exprsCons
  case zero =>
    intro name
    rw [named]
    exact Yields.pure PartsClosed.nil
  case enter =>
    intro name fuel hbody
    rw [named]
    refine Yields.bind_any fun entered => ?_
    split
    · exact Yields.pure PartsClosed.nil
    · refine Yields.bind_any fun _ => ?_
      split
      · next p _ => exact fun st => (hbody p st).2
      · exact Yields.pure PartsClosed.nil
  case nil =>
    intro fuel
    rw [stmts]
    exact Yields.pure ⟨by simp, PartsClosed.nil⟩
  case ite =>
    intro fuel rest g t e hrest hg ht he
    rw [stmts]
    refine Yields.bind hg fun a ha => Yields.bind ht fun b hb => Yields.bind he fun d hd => ?_
    refine Yields.pure_bind (Yields.bind hrest fun more hmore => Yields.pure ⟨?_, ?_⟩)
    · intro s hs
      rcases List.mem_cons.1 hs with rfl | hs
      · exact List.mem_cons_self
      · exact List.mem_cons_of_mem _ (List.mem_append_right _ (hmore.1 s hs))
    · refine PartsClosed.cons ?_ ((ha.2.append hb.2).append hd.2 |>.append hmore.2)
      -- the guard and both branches are listed by their own walks
      intro m hm
      simp only [PolicyNode.parts, List.mem_cons, List.mem_append, List.mem_map] at hm
      rcases hm with (rfl | ⟨s, hs, rfl⟩) | ⟨s, hs, rfl⟩
      · simp [ha.1]
      · simp [hb.1 s hs]
      · simp [hd.1 s hs]
  case default =>
    intro fuel rest name hrest hname
    rw [stmts]
    refine Yields.bind hname fun here hhere => Yields.bind hrest fun more hmore => ?_
    refine Yields.pure ⟨?_, PartsClosed.cons_leaf rfl (hhere.append hmore.2)⟩
    intro s hs
    rcases List.mem_cons.1 hs with rfl | hs
    · exact List.mem_cons_self
    · exact List.mem_cons_of_mem _ (List.mem_append_right _ (hmore.1 s hs))
  case plain =>
    intro fuel s rest hite hdef hrest
    rw [stmts.eq_4 c fuel s rest hite hdef]
    refine Yields.pure_bind (Yields.bind hrest fun more hmore => ?_)
    have hleaf : (PolicyNode.stmt s).parts = [] := by
      cases s <;> simp_all
    refine Yields.pure ⟨?_, PartsClosed.cons_leaf hleaf hmore.2⟩
    intro s' hs'
    rcases List.mem_cons.1 hs' with rfl | hs'
    · exact List.mem_cons_self
    · exact List.mem_cons_of_mem _ (hmore.1 s' hs')
  case conj | disj | conjChain | firstChain =>
    intro fuel xs hxs
    rw [expr]
    refine Yields.bind hxs fun inner hinner => Yields.pure ⟨List.mem_cons_self, ?_⟩
    refine PartsClosed.cons (fun m hm => ?_) hinner.2
    obtain ⟨x, hx, rfl⟩ := List.mem_map.1 hm
    exact hinner.1 x hx
  case neg | env =>
    intro fuel x hx
    rw [expr]
    refine Yields.bind hx fun inner hinner => Yields.pure ⟨List.mem_cons_self, ?_⟩
    refine PartsClosed.cons (fun m hm => ?_) hinner.2
    rw [List.mem_singleton.1 hm]
    exact hinner.1
  case call =>
    intro fuel name hname
    rw [expr]
    exact Yields.bind hname fun inner hinner =>
      Yields.pure ⟨List.mem_cons_self, PartsClosed.cons_leaf rfl hinner⟩
  case leaf =>
    intro fuel e hconj hdisj hchain hfirst hneg henv hcall
    rw [expr.eq_8 c fuel e hconj hdisj hchain hfirst hneg henv hcall]
    have hleaf : (PolicyNode.expr e).parts = [] := by
      cases e <;> simp_all
    exact Yields.pure_bind (Yields.pure ⟨List.mem_cons_self, PartsClosed.cons_leaf hleaf PartsClosed.nil⟩)
  case exprsNil =>
    intro fuel
    rw [exprs]
    exact Yields.pure ⟨by simp, PartsClosed.nil⟩
  case exprsCons =>
    intro fuel x rest hx hrest
    rw [exprs]
    refine Yields.bind hx fun a ha => Yields.bind hrest fun b hb => Yields.pure ⟨?_, ha.2.append hb.2⟩
    intro y hy
    rcases List.mem_cons.1 hy with rfl | hy
    · exact List.mem_append_left _ ha.1
    · exact List.mem_append_right _ (hb.1 y hy)

mutual
/-- The walk of an expression by structural recursion, entering named policies by `enter`. The
walk above recurses on a measure, so it does not reduce by `rfl` or `decide`; this copy does. -/
def exprVia : (String → StateM (List String) (List PolicyNode)) →
    BooleanExpr → StateM (List String) (List PolicyNode)
  | enter, .conjunction xs => do
    let inner ← exprsVia enter xs
    pure (.expr (.conjunction xs) :: inner)
  | enter, .disjunction xs => do
    let inner ← exprsVia enter xs
    pure (.expr (.disjunction xs) :: inner)
  | enter, .conjunctionChain xs => do
    let inner ← exprsVia enter xs
    pure (.expr (.conjunctionChain xs) :: inner)
  | enter, .firstMatchChain xs => do
    let inner ← exprsVia enter xs
    pure (.expr (.firstMatchChain xs) :: inner)
  | enter, .negation x => do
    let inner ← exprVia enter x
    pure (.expr (.negation x) :: inner)
  | enter, .withEnvironment x => do
    let inner ← exprVia enter x
    pure (.expr (.withEnvironment x) :: inner)
  | enter, .callExpr name => do
    let inner ← enter name
    pure (.expr (.callExpr name) :: inner)
  | _, e => pure [.expr e]
def exprsVia : (String → StateM (List String) (List PolicyNode)) →
    List BooleanExpr → StateM (List String) (List PolicyNode)
  | _, [] => pure []
  | enter, x :: rest => do
    let a ← exprVia enter x
    let b ← exprsVia enter rest
    pure (a ++ b)
end

mutual
def stmtVia : (String → StateM (List String) (List PolicyNode)) →
    Statement → StateM (List String) (List PolicyNode)
  | enter, .ite g t e => do
    let a ← exprVia enter g
    let b ← stmtsVia enter t
    let d ← stmtsVia enter e
    pure (a ++ b ++ d)
  | enter, .setDefaultPolicy name => enter name
  | _, _ => pure []
def stmtsVia : (String → StateM (List String) (List PolicyNode)) →
    List Statement → StateM (List String) (List PolicyNode)
  | _, [] => pure []
  | enter, s :: rest => do
    let here ← stmtVia enter s
    let more ← stmtsVia enter rest
    pure (.stmt s :: here ++ more)
end

def namedVia : Configuration → Nat → String → StateM (List String) (List PolicyNode)
  | _, 0, _ => pure []
  | c, fuel + 1, name => do
    if (← get).contains name then return []
    modify (name :: ·)
    (c.routingPolicies.get? name).elim (pure []) fun p => stmtsVia (namedVia c fuel) p.statements

/-- The structural copy computes the walk. -/
theorem walk_eq_via :
    (∀ fuel name, named c fuel name = namedVia c fuel name) ∧
    (∀ fuel ss, stmts c fuel ss = stmtsVia (namedVia c fuel) ss) ∧
    (∀ fuel e, expr c fuel e = exprVia (namedVia c fuel) e) ∧
    (∀ fuel xs, exprs c fuel xs = exprsVia (namedVia c fuel) xs) := by
  refine named.mutual_induct c _ _ _ _ ?zero ?enter ?nil ?ite ?default ?plain ?conj ?disj
    ?conjChain ?firstChain ?neg ?env ?call ?leaf ?exprsNil ?exprsCons
  case zero =>
    intro name
    rw [named, namedVia]
  case enter =>
    intro name fuel hbody
    rw [named, namedVia]
    simp only [hbody]
    cases c.routingPolicies.get? name <;> rfl
  case nil =>
    intro fuel
    rw [stmts, stmtsVia]
  case ite =>
    intro fuel rest g t e hrest hg ht he
    rw [stmts, stmtsVia, stmtVia, hrest, hg, ht, he]
    rfl
  case default =>
    intro fuel rest name hrest hname
    rw [stmts, stmtsVia, stmtVia, hrest, hname]
  case plain =>
    intro fuel s rest hite hdef hrest
    rw [stmts.eq_4 c fuel s rest hite hdef, stmtsVia, hrest]
    cases s <;> simp_all [stmtVia]
  case conj | disj | conjChain | firstChain =>
    intro fuel xs hxs
    rw [expr, exprVia, hxs]
  case neg | env =>
    intro fuel x hx
    rw [expr, exprVia, hx]
  case call =>
    intro fuel name hname
    rw [expr, exprVia, hname]
  case leaf =>
    intro fuel e hconj hdisj hchain hfirst hneg henv hcall
    rw [expr.eq_8 c fuel e hconj hdisj hchain hfirst hneg henv hcall]
    cases e <;> simp_all [exprVia]
  case exprsNil =>
    intro fuel
    rw [exprs, exprsVia]
  case exprsCons =>
    intro fuel x rest hx hrest
    rw [exprs, exprsVia, hx, hrest]

end PolicyWalk

theorem NameMap.mem_values_of_get? {α : Type} {m : NameMap α} {k : String} {v : α}
    (h : m.get? k = some v) : v ∈ m.values := by
  obtain ⟨es⟩ := m
  simp only [NameMap.get?, NameMap.values] at h ⊢
  induction es with
  | nil => simp at h
  | cons e es ih =>
    obtain ⟨k', v'⟩ := e
    rw [List.lookup_cons] at h
    split at h
    · cases h
      exact List.mem_cons_self
    · exact List.mem_cons_of_mem _ (ih h)

variable {c : Configuration}

theorem walkStatements_partsClosed (ss : List Statement) :
    (∀ s ∈ ss, .stmt s ∈ walkStatements c ss) ∧ PartsClosed (walkStatements c ss) :=
  (PolicyWalk.walk_partsClosed c).2.1 _ ss []

theorem walkStatements_eq_via (ss : List Statement) :
    walkStatements c ss =
      ((PolicyWalk.stmtsVia (PolicyWalk.namedVia c (c.routingPolicies.size + 1)) ss).run []).1 := by
  rw [walkStatements, (PolicyWalk.walk_eq_via c).2.1]

/-- Every node the compiler can reach from a policy of a configuration is listed by the walk of
some policy of the configuration: the walk of the policy it sits in. -/
theorem PolicyReaches.mem_walk {pol : RoutingPolicy} {n : PolicyNode}
    (hpol : pol ∈ c.routingPolicies.values) (h : PolicyReaches c pol.statements n) :
    ∃ p ∈ c.routingPolicies.values, n ∈ walkStatements c p.statements := by
  induction h with
  | top hs => exact ⟨pol, hpol, (walkStatements_partsClosed _).1 _ hs⟩
  | part _ hm ih =>
    obtain ⟨p, hp, hn⟩ := ih
    exact ⟨p, hp, (walkStatements_partsClosed _).2 _ hn _ hm⟩
  | call _ _ hget hs _ =>
    exact ⟨_, NameMap.mem_values_of_get? hget, (walkStatements_partsClosed _).1 _ hs⟩

end ControlPlane
