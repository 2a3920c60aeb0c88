import ControlPlane.Proofs.Network.EdgeOrder
import ControlPlane.Proofs.Network.PolicyWalk

/-!
# The community variables of a network

`Graph.build` collects the community variables of a network from the walk of every policy of
every configuration (`findCommunities`), adds the `other` variable of each regex, and records for
each regex the variables it depends on (`communityDependencies`). A community set named by a node
that the compiler can reach from a policy is one of those walked, so each of its variables is a
variable of the graph, and so is each variable a regex among them depends on
(`Graph.reached_communities_modeled`).

Community variables are ordered by kind, then text, and the order is lawful: two variables
compare equal only when they are equal. A set of them, an ascending list built by insertion,
holds exactly the variables inserted (`CommunityVar.mem_setOf`).
-/

namespace ControlPlane

open Std

instance : LawfulEqOrd CommunityVarKind where
  compare_self {a} := by cases a <;> rfl
  eq_of_compare {a b} h := by cases a <;> cases b <;> first | rfl | cases h

theorem CommunityVar.compare_eq (a b : CommunityVar) :
    compare a b = (compare a.kind b.kind).then (compare a.value b.value) := by
  cases a
  cases b
  exact congrArg (Ordering.then _) Ordering.then_eq

instance : LawfulEqOrd CommunityVar where
  compare_self {a} := by
    have hk : compare a.kind a.kind = .eq := ReflCmp.compare_self
    have hv : compare a.value a.value = .eq := ReflCmp.compare_self
    rw [CommunityVar.compare_eq, hk, hv]
    rfl
  eq_of_compare {a b} h := by
    obtain ⟨k, v⟩ := a
    obtain ⟨k', v'⟩ := b
    rw [CommunityVar.compare_eq, Ordering.then_eq_eq] at h
    dsimp only at h
    rw [LawfulEqCmp.eq_of_compare h.1, LawfulEqCmp.eq_of_compare h.2]

namespace Ordered

variable {κ α : Type} {cmp : κ → κ → Ordering}

theorem exists_mem_setOf [ReflCmp cmp] {x : κ} {xs : List κ} (hx : x ∈ xs) :
    ∃ k ∈ setOf cmp xs, cmp x k = .eq := by
  suffices h : ∀ acc : List κ, (x ∈ xs ∨ ∃ k ∈ acc, cmp x k = .eq) →
      ∃ k ∈ xs.foldl (fun acc y => insert cmp y acc) acc, cmp x k = .eq from h [] (.inl hx)
  clear hx
  induction xs with
  | nil =>
    intro acc h
    simpa using h
  | cons y ys ih =>
    intro acc h
    rcases h with h | ⟨k, hk, hxk⟩
    · rcases List.mem_cons.1 h with rfl | h
      · exact ih _ (.inr (exists_mem_insert x acc))
      · exact ih _ (.inl h)
    · exact ih _ (.inr ⟨k, mem_insert_of_mem hk, hxk⟩)

theorem mem_of_mem_setOf {k : κ} {xs : List κ} (hk : k ∈ setOf cmp xs) : k ∈ xs := by
  suffices h : ∀ acc : List κ, k ∈ xs.foldl (fun acc y => insert cmp y acc) acc → k ∈ acc ∨ k ∈ xs
    from (h [] hk).resolve_left (by simp)
  clear hk
  induction xs with
  | nil =>
    intro acc h
    exact .inl h
  | cons y ys ih =>
    intro acc h
    rcases ih _ h with h | h
    · rcases mem_insert h with rfl | h
      · exact .inr List.mem_cons_self
      · exact .inl h
    · exact .inr (List.mem_cons_of_mem _ h)

theorem mem_setOf [LawfulEqCmp cmp] {x : κ} {xs : List κ} : x ∈ setOf cmp xs ↔ x ∈ xs := by
  refine ⟨mem_of_mem_setOf, fun hx => ?_⟩
  obtain ⟨k, hk, hxk⟩ : ∃ k ∈ setOf cmp xs, cmp x k = .eq := exists_mem_setOf hx
  rwa [LawfulEqCmp.eq_of_compare hxk]

theorem find?_isSome_iff {k : κ} {l : List (κ × α)} :
    (find? cmp k l).isSome ↔ ∃ q ∈ l, cmp k q.1 = .eq := by
  induction l with
  | nil => simp [find?]
  | cons q l ih =>
    obtain ⟨k', v⟩ := q
    by_cases h : cmp k k' = .eq
    · simp [find?, h]
    · simp [find?, h, ih]

theorem exists_mem_of_find? {k : κ} {l : List (κ × α)} {v : α} (h : find? cmp k l = some v) :
    ∃ k', (k', v) ∈ l := by
  induction l with
  | nil => simp [find?] at h
  | cons q l ih =>
    obtain ⟨k', v'⟩ := q
    by_cases hk : cmp k k' = .eq
    · simp only [find?, hk, BEq.rfl, if_true, Option.some.injEq] at h
      exact ⟨k', h ▸ List.mem_cons_self⟩
    · simp only [find?, hk, beq_iff_eq, if_false] at h
      obtain ⟨k'', hmem⟩ := ih h
      exact ⟨k'', List.mem_cons_of_mem _ hmem⟩

end Ordered

namespace CommunityVar

theorem insertSorted_eq (c : CommunityVar) (l : List CommunityVar) :
    insertSorted c l = Ordered.insert compare c l := by
  induction l with
  | nil => rfl
  | cons d rest ih =>
    rw [insertSorted, Ordered.insert]
    cases compare c d <;> simp [ih]

@[simp] theorem mem_setOf {x : CommunityVar} {xs : List CommunityVar} : x ∈ setOf xs ↔ x ∈ xs := by
  have h : setOf xs = Ordered.setOf compare xs := by
    simp only [setOf, Ordered.setOf, insertSorted_eq]
  rw [h]
  exact Ordered.mem_setOf

end CommunityVar

section MapM

variable {α β ε : Type} {f : α → Except ε β}

theorem exists_mem_of_mapM_ok {xs : List α} {ys : List β} (h : xs.mapM f = .ok ys) {x : α}
    (hx : x ∈ xs) : ∃ y ∈ ys, f x = .ok y := by
  induction xs generalizing ys with
  | nil => simp at hx
  | cons a as ih =>
    rw [List.mapM_cons] at h
    cases ha : f a with
    | error e => simp [ha, bind, Except.bind] at h
    | ok b =>
      cases has : as.mapM f with
      | error e => simp [ha, has, bind, Except.bind] at h
      | ok bs =>
        simp only [ha, has, bind, Except.bind, pure, Except.pure, Except.ok.injEq] at h
        subst h
        rcases List.mem_cons.1 hx with rfl | hx
        · exact ⟨b, List.mem_cons_self, ha⟩
        · obtain ⟨y, hy, hxy⟩ := ih has hx
          exact ⟨y, List.mem_cons_of_mem _ hy, hxy⟩

theorem exists_source_of_mapM_ok {xs : List α} {ys : List β} (h : xs.mapM f = .ok ys) {y : β}
    (hy : y ∈ ys) : ∃ x ∈ xs, f x = .ok y := by
  induction xs generalizing ys with
  | nil =>
    simp only [List.mapM_nil, pure, Except.pure, Except.ok.injEq] at h
    subst h
    simp at hy
  | cons a as ih =>
    rw [List.mapM_cons] at h
    cases ha : f a with
    | error e => simp [ha, bind, Except.bind] at h
    | ok b =>
      cases has : as.mapM f with
      | error e => simp [ha, has, bind, Except.bind] at h
      | ok bs =>
        simp only [ha, has, bind, Except.bind, pure, Except.pure, Except.ok.injEq] at h
        subst h
        rcases List.mem_cons.1 hy with rfl | hy
        · exact ⟨a, List.mem_cons_self, ha⟩
        · obtain ⟨x, hx, hxy⟩ := ih has hy
          exact ⟨x, List.mem_cons_of_mem _ hx, hxy⟩

end MapM

/-- The community variables of a configuration include every variable of every community set
that a node of the walk of one of its policies names. -/
theorem findCommunities_mem {c : Configuration} {vars : List CommunityVar}
    (hc : findCommunities c = .ok vars) {pol : RoutingPolicy} (hpol : pol ∈ c.routingPolicies.values)
    {n : PolicyNode} (hn : n ∈ walkStatements c pol.statements) {e : CommunitySetExpr}
    (he : n.communitySet? = some e) {vs : List CommunityVar}
    (hvs : collectCommunityVars c e = .ok vs) {v : CommunityVar} (hv : v ∈ vs) : v ∈ vars := by
  unfold findCommunities at hc
  simp only [bind, Except.bind] at hc
  split at hc
  · cases hc
  · next sets hsets =>
    simp only [pure, Except.pure, Except.ok.injEq] at hc
    subst hc
    have hmem : e ∈ c.routingPolicies.values.flatMap fun p =>
        (walkStatements c p.statements).filterMap PolicyNode.communitySet? :=
      List.mem_flatMap.2 ⟨pol, hpol, List.mem_filterMap.2 ⟨n, hn, he⟩⟩
    obtain ⟨vs', hvs', he'⟩ := exists_mem_of_mapM_ok hsets hmem
    rw [hvs, Except.ok.injEq] at he'
    subst he'
    exact CommunityVar.mem_setOf.2 (List.mem_flatten.2 ⟨vs, hvs', hv⟩)

/-- What `Graph.build` does with communities: the variables of all configurations, with the
`other` variable of each regex among them, and the dependencies of each regex. -/
theorem Graph.build_communities {cs : List Configuration} {topo : Option Topology} {g : Graph}
    (h : Graph.build cs topo = .ok g) :
    ∃ found, g.configs.values.mapM findCommunities = .ok found ∧
      g.allCommunities = CommunityVar.setOf (CommunityVar.setOf found.flatten ++
        ((CommunityVar.setOf found.flatten).filter CommunityVar.isRegex).map
          fun c => CommunityVar.other c.value) ∧
      communityDependencies g.allCommunities = .ok g.communityDeps := by
  unfold Graph.build at h
  simp only [bind, Except.bind] at h
  repeat' split at h
  -- every failing stage contradicts success; the last equation gives the graph
  all_goals cases h
  next found hfound _ deps hdeps => exact ⟨found, hfound, rfl, hdeps⟩

theorem Graph.deps_mem_allCommunities {cs : List Configuration} {topo : Option Topology}
    {g : Graph} (hg : Graph.build cs topo = .ok g) {v : CommunityVar} {deps : List CommunityVar}
    (hv : Ordered.find? compare v g.communityDeps = some deps) {d : CommunityVar}
    (hd : d ∈ deps) : d ∈ g.allCommunities := by
  obtain ⟨_, _, _, hdeps⟩ := Graph.build_communities hg
  obtain ⟨k, hk⟩ := Ordered.exists_mem_of_find? hv
  obtain ⟨c1, -, hc1⟩ := exists_source_of_mapM_ok hdeps hk
  -- the dependencies of a regex are those variables of the graph that it matches
  split at hc1
  · cases hc1
  · rw [Except.ok.injEq, Prod.mk.injEq] at hc1
    rw [← hc1.2] at hd
    exact (List.mem_filter.1 hd).1

/-- Every community variable named by a node that the compiler can reach from a policy of a
configuration of the graph is a variable of the graph, and so is every variable that a regex
among them depends on. -/
theorem Graph.reached_communities_modeled {cs : List Configuration} {topo : Option Topology}
    {g : Graph} (hg : Graph.build cs topo = .ok g) {c : Configuration}
    (hc : c ∈ g.configs.values) {pol : RoutingPolicy} (hpol : pol ∈ c.routingPolicies.values)
    {n : PolicyNode} (hn : PolicyReaches c pol.statements n) {e : CommunitySetExpr}
    (he : n.communitySet? = some e) {vs : List CommunityVar}
    (hvs : collectCommunityVars c e = .ok vs) {v : CommunityVar} (hv : v ∈ vs) :
    v ∈ g.allCommunities ∧ ∀ deps, Ordered.find? compare v g.communityDeps = some deps →
      ∀ d ∈ deps, d ∈ g.allCommunities := by
  refine ⟨?_, fun deps hdeps d hd => Graph.deps_mem_allCommunities hg hdeps hd⟩
  obtain ⟨found, hfound, hall, -⟩ := Graph.build_communities hg
  obtain ⟨p, hp, hwalk⟩ := hn.mem_walk hpol
  obtain ⟨vars, hvars, hcvars⟩ := exists_mem_of_mapM_ok hfound hc
  have hvvars : v ∈ vars := findCommunities_mem hcvars hp hwalk he hvs hv
  rw [hall, CommunityVar.mem_setOf, List.mem_append, CommunityVar.mem_setOf]
  exact .inl (List.mem_flatten.2 ⟨vars, hvars, hvvars⟩)

end ControlPlane
