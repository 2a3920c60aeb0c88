import ControlPlane.Encoding.Transfer
import ControlPlane.Proofs.Smt.Builder
import ControlPlane.Proofs.Network.Communities

/-!
# Records carry every field a policy can write

The compiler writes a field of the working route only when the route has it, and which fields a
record has is decided once for the network: a flag for each community variable of the graph on
BGP records, and local preference or OSPF type when the scope keeps them. The two agree: every
community a reachable node names is a variable of the graph (`Graph.reached_communities_modeled`),
a policy that can set an attribute makes the scope keep it (`Scope.make_keeps_of_reaches`), and
writing a field never removes another (`Field.isSome_get?_set`).
-/

namespace ControlPlane

open Std Transfer

/-- The protocols whose routes a record carries: the protocol it is built for, or all those
the router models. -/
def Scope.carried (s : Scope) (router : String) : Option Protocol → List Protocol
  | some p => [p]
  | none => s.protocolsOf router

def Graph.PolicyReachable (g : Graph) (st : Statement) : Prop :=
  ∃ c ∈ g.configs.values, ∃ pol ∈ c.routingPolicies.values, PolicyReaches c pol.statements (.stmt st)

theorem Scope.anyStatement_of_reachable {g : Graph} {st : Statement} (h : g.PolicyReachable st)
    {p : Statement → Bool} (hp : p st = true) : Scope.anyStatement g p = true := by
  obtain ⟨c, hc, pol, hpol, hreach⟩ := h
  obtain ⟨q, hq, hwalk⟩ := hreach.mem_walk hpol
  unfold Scope.anyStatement
  exact List.any_eq_true.2 ⟨c, hc, List.any_eq_true.2 ⟨q, hq, List.any_eq_true.2 ⟨_, hwalk, hp⟩⟩⟩

/-- A network in which some policy can set local preference, or the OSPF metric type, has every
scope keep that attribute. -/
theorem Scope.make_keeps_of_reaches (g : Graph) (hs : HeaderSpace) (isMain : Bool) :
    ((∃ x, g.PolicyReachable (.setLocalPreference x)) → (Scope.make g hs isMain).keepLocalPref) ∧
    ((∃ t, g.PolicyReachable (.setOspfMetricType t)) → (Scope.make g hs isMain).keepOspfType) := by
  refine ⟨fun ⟨x, hx⟩ => ?_, fun ⟨t, ht⟩ => ?_⟩
  · exact Scope.anyStatement_of_reachable hx rfl
  · simp only [Scope.make]
    exact Bool.or_eq_true_iff.2 (.inl (Scope.anyStatement_of_reachable ht rfl))

namespace Ordered

variable {κ α : Type} {cmp : κ → κ → Ordering}

theorem find?_setOf_isSome [ReflCmp cmp] {l : List (κ × α)} {k : κ} (hk : k ∈ l.map Prod.fst) :
    (find? cmp k (setOf (fun a b => cmp a.1 b.1) l)).isSome := by
  obtain ⟨p, hp, rfl⟩ := List.mem_map.1 hk
  have : ReflCmp (fun a b : κ × α => cmp a.1 b.1) := ⟨ReflCmp.compare_self⟩
  obtain ⟨q, hq, hpq⟩ : ∃ q ∈ setOf (fun a b : κ × α => cmp a.1 b.1) l, cmp p.1 q.1 = .eq :=
    exists_mem_setOf hp
  exact find?_isSome_iff.2 ⟨q, hq, hpq⟩

theorem find?_put_isSome {k k' : κ} {v : α} {l : List (κ × α)} (h : (find? cmp k' l).isSome) :
    (find? cmp k' (put cmp k v l)).isSome := by
  obtain ⟨q, hq, hkq⟩ := find?_isSome_iff.1 h
  have hkey : q.1 ∈ (put cmp k v l).map Prod.fst := by
    rw [keys_put]
    exact mem_insert_of_mem (List.mem_map_of_mem hq)
  obtain ⟨q', hq', hqq'⟩ := List.mem_map.1 hkey
  exact find?_isSome_iff.2 ⟨q', hq', hqq' ▸ hkq⟩

end Ordered

theorem Field.isSome_get?_set (r : Route) (f f' : Field) (e : Term)
    (h : (Field.get? r f').isSome) : (Field.get? (Field.set r f e) f').isSome := by
  cases f with
  | community c =>
    cases f' with
    | community c' => exact Ordered.find?_put_isSome h
    | _ => exact h
  | ospfType =>
    cases f' with
    | ospfType => simpa [Field.get?, Field.set] using h
    | _ => exact h
  | localPref =>
    cases f' with
    | localPref => rfl
    | _ => exact h
  | metric | prefixLen | ret | fallthrough => cases f' <;> first | rfl | exact h

namespace Build

variable {α β : Type} {Q : β → Prop}

theorem Builds.join {c : Prop} [Decidable c] {P : α → Prop} {x y : Build α} {k : α → Build β}
    (hx : c → Builds x P) (hy : ¬c → Builds y P) (hk : ∀ a, P a → Builds (k a) Q) :
    Builds (if c then x >>= k else y >>= k) Q := by
  by_cases h : c
  · rw [if_pos h]
    exact (hx h).bind hk
  · rw [if_neg h]
    exact (hy h).bind hk

theorem builds_optional (b : Bool) (x : Build α) :
    Builds (if b then some <$> x else Pure.pure none) fun o => b = true → o.isSome := by
  cases b
  · exact Builds.pure (fun h => nomatch h)
  · exact (Builds.map (P := fun _ => True) fun _ => trivial).mono fun _ ⟨a, ha, _⟩ _ => ha ▸ rfl

theorem Builds.join_optional {b : Bool} {x : Build α} {k : Option α → Build β}
    (hk : ∀ o, (b = true → o.isSome) → Builds (k o) Q) :
    Builds (if b = true then some <$> x >>= k else Pure.pure none >>= k) Q :=
  Builds.join (fun _ => (builds_optional true x).mono fun _ h _ => h rfl)
    (fun hnb => Builds.pure fun hb => absurd hb hnb) hk

theorem builds_keys {γ : Type} (xs : List γ) (y : γ → Build α) :
    Builds (xs.mapM fun c => do pure (c, ← y c)) fun l => l.map Prod.fst = xs := by
  induction xs with
  | nil => exact Builds.pure rfl
  | cons x xs ih =>
    rw [List.mapM_cons]
    refine Builds.bind (P := fun p => p.1 = x) (Builds.bind_any fun _ => Builds.pure rfl)
      fun p hp => Builds.bind ih fun l hl => Builds.pure ?_
    simp [hp, hl]

end Build

open Build in
/-- Every record built for a slice of a network carries the fields the network's policies can
write: a flag for each community variable of the graph when it carries BGP routes, local
preference when the scope keeps it for BGP, and the OSPF type when the scope keeps it for OSPF. -/
theorem Route.new_carries_fields (name router : String) (proto : Option Protocol) (s : Scope)
    (g : Graph) (modelIgp isEnv : Bool) :
    Builds (Route.new name router proto s g modelIgp isEnv) fun r =>
      ((s.carried router proto).contains .bgp →
        ∀ v ∈ g.allCommunities, (Field.get? r (.community v)).isSome) ∧
      ((s.carried router proto).contains .bgp → s.keepLocalPref → (Field.get? r .localPref).isSome) ∧
      ((s.carried router proto).contains .ospf → s.keepOspfType → (Field.get? r .ospfType).isSome) := by
  unfold Route.new
  refine Builds.bind_any fun _ => Builds.bind_any fun _ => Builds.bind_any fun _ =>
    Builds.bind_any fun _ => ?_
  refine Builds.bind (builds_optional _ _) fun localPref hlp => ?_
  refine Builds.bind_any fun _ => Builds.bind_any fun _ => ?_
  refine Builds.join_optional fun _ _ => ?_
  refine Builds.join_optional fun ospfType hot => ?_
  refine Builds.join_optional fun _ _ => Builds.join_optional fun _ _ => ?_
  refine Builds.bind_any fun _ => Builds.join_optional fun _ _ => ?_
  refine Builds.join (P := fun l => _ → l.map Prod.fst = g.allCommunities)
    (fun _ => (builds_keys _ _).mono fun _ hl _ => hl) (fun hnb => Builds.pure fun hb => absurd hb hnb)
    fun comms hcomms => ?_
  refine Builds.pure ⟨fun hbgp v hv => ?_, fun hbgp hkeep => ?_, fun hospf hkeep => ?_⟩
  · exact Ordered.find?_setOf_isSome (by rw [hcomms hbgp]; exact hv)
  · exact hlp (Bool.and_eq_true _ _ ▸ ⟨hbgp, hkeep⟩)
  · simpa [Field.get?] using hot (Bool.and_eq_true _ _ ▸ ⟨hospf, hkeep⟩)

/-- The fields a policy can write are the fields the records have: every community variable a
reachable node names is a variable of the graph, records carry a flag for each and the
attributes a reachable statement sets, and writing a field keeps the others. -/
theorem records_carry_policy_fields {cs : List Configuration} {topo : Option Topology} {g : Graph}
    (hg : Graph.build cs topo = .ok g) (hs : HeaderSpace) (isMain : Bool) :
    (∀ c ∈ g.configs.values, ∀ pol ∈ c.routingPolicies.values, ∀ n,
      PolicyReaches c pol.statements n → ∀ e, n.communitySet? = some e →
      ∀ vs, collectCommunityVars c e = .ok vs → ∀ v ∈ vs,
        v ∈ g.allCommunities ∧ ∀ deps, Ordered.find? compare v g.communityDeps = some deps →
          ∀ d ∈ deps, d ∈ g.allCommunities) ∧
    (∀ name router proto modelIgp isEnv,
      Build.Builds (Route.new name router proto (Scope.make g hs isMain) g modelIgp isEnv) fun r =>
        (((Scope.make g hs isMain).carried router proto).contains .bgp →
          (∀ v ∈ g.allCommunities, (Field.get? r (.community v)).isSome) ∧
          ((∃ x, g.PolicyReachable (.setLocalPreference x)) → (Field.get? r .localPref).isSome)) ∧
        (((Scope.make g hs isMain).carried router proto).contains .ospf →
          (∃ t, g.PolicyReachable (.setOspfMetricType t)) → (Field.get? r .ospfType).isSome)) ∧
    (∀ (r : Route) (f f' : Field) (e : Term),
      (Field.get? r f').isSome → (Field.get? (Field.set r f e) f').isSome) := by
  refine ⟨fun c hc pol hpol n hn e he vs hvs v hv =>
      Graph.reached_communities_modeled hg hc hpol hn he hvs hv,
    fun name router proto modelIgp isEnv => ?_, Field.isSome_get?_set⟩
  obtain ⟨hlp, hot⟩ := Scope.make_keeps_of_reaches g hs isMain
  refine (Route.new_carries_fields name router proto _ g modelIgp isEnv).mono ?_
  intro r ⟨hcomms, hlocal, hospf⟩
  exact ⟨fun hbgp => ⟨hcomms hbgp, fun h => hlocal hbgp (hlp h)⟩, fun hbgp h => hospf hbgp (hot h)⟩

/-- Router `A` of AS 1, with an eBGP session to `B` whose imports the policy `TAG` marks with the
community 65000:100. -/
def taggingRouter : Configuration where
  hostname := "A"
  interfaces := ⟨[("eth0", Interface.make "eth0" (InterfaceAddress.make (Ip.ofNat 167772161) 30))]⟩
  bgp := some
    { routerId := Ip.ofNat 167772161
      neighbors := [{ peerAddress := Ip.ofNat 167772162, localAs := 1, remoteAs := 2, importPolicy := some "TAG" }] }
  routingPolicies := ⟨[("TAG", ⟨"TAG", [.setCommunity (.literal [Community.make 65000 100]), .exitAccept]⟩)]⟩

def taggedPeer : Configuration where
  hostname := "B"
  interfaces := ⟨[("eth0", Interface.make "eth0" (InterfaceAddress.make (Ip.ofNat 167772162) 30))]⟩
  bgp := some
    { routerId := Ip.ofNat 167772162
      neighbors := [{ peerAddress := Ip.ofNat 167772161, localAs := 2, remoteAs := 1 }] }

def taggingLink : Topology := ⟨[(⟨"A", "eth0"⟩, ⟨"B", "eth0"⟩)]⟩

def taggingPair : List Configuration := [taggingRouter, taggedPeer]

/-- The pair builds: the tag is the one community variable, and the first router has one edge,
to the second, with a link at its other end. -/
theorem taggingPair_builds : ∃ g, Graph.build taggingPair (some taggingLink) = .ok g ∧
    g.allCommunities = [.exact (Community.make 65000 100)] ∧
    (g.edges "A").map (·.peer) = [some "B"] ∧ ∀ e ∈ g.edges "A", (g.otherEnd? e).isSome := by
  rw [Graph.build]
  -- the policy walk does not reduce by evaluation; its structural copy does
  delta findCommunities
  simp only [walkStatements_eq_via]
  exact ⟨_, rfl, by decide, by decide, by decide⟩

/-- In the tagging pair the BGP records of the first router have a flag for the tag. -/
theorem tagging_pair_records_flag_tag :
    ∃ g, Graph.build taggingPair (some taggingLink) = .ok g ∧
      g.allCommunities = [.exact (Community.make 65000 100)] ∧
      Build.Builds (Route.new "A_bgp" "A" (some .bgp) (Scope.make g default true) g false false)
        fun r => (Field.get? r (.community (.exact (Community.make 65000 100)))).isSome := by
  obtain ⟨g, hg, hcomms, -⟩ := taggingPair_builds
  refine ⟨g, hg, hcomms, ((records_carry_policy_fields hg default true).2.1 _ _ _ _ _).mono ?_⟩
  intro r h
  exact (h.1 rfl).1 _ (by simp [hcomms])

end ControlPlane
