import Mathlib
import ControlPlane.Proofs.Check.Loop
import ControlPlane.Proofs.Check.Solving
import ControlPlane.Proofs.Encoding.ForwardingTable
import ControlPlane.Check.Trace

/-!
# Flow traces follow the forwarding decisions

A counterexample's path of a packet is read back from the model router by router: at each
router the packet leaves on the first entry of the router's data forwarding list whose data
forwarding variable holds, or is dropped by the outbound filter of the first whose control
forwarding variable holds instead (`FirstFiring`). Every router is left at most once, so the walk
ends within as many steps as there are routers, and its fallback never fires (`Replays`).

The data forwarding lists of the slices that `Encoder.new` makes are in the order of edges
(`Slice.DataInOrder`), so the first entry that fires is that of the least edge that fires
(`LeastFiring`).
-/

namespace ControlPlane

def Slice.ForwardsOnEdges (s : Slice) : Prop :=
  ∀ r, ∀ x ∈ s.decisions.data.getD r [], x.1 ∈ s.graph.edges r ∧ x.1.router = r

namespace Counterexample

variable {m : Model} {d : Decisions}

def Silent (m : Model) (d : Decisions) (x : GraphEdge × Term) : Prop :=
  m.evalBool x.2 = .ok false ∧ ∀ c, d.controlOf? x.1 = some c → m.evalBool c = .ok false

/-- Under `m` the packet leaves on the entry's edge: its data forwarding variable holds (`true`),
or it does not and the control forwarding variable does (`false`). -/
def Fires (m : Model) (d : Decisions) (x : GraphEdge × Term) : Bool → Prop
  | true => m.evalBool x.2 = .ok true
  | false => m.evalBool x.2 = .ok false ∧ ∃ c, d.controlOf? x.1 = some c ∧ m.evalBool c = .ok true

def FirstFiring (m : Model) (d : Decisions) (l : List (GraphEdge × Term)) (e : GraphEdge)
    (data : Bool) : Prop :=
  ∃ pre t post, l = pre ++ (e, t) :: post ∧ (∀ x ∈ pre, Silent m d x) ∧ Fires m d (e, t) data

theorem not_silent_of_fires {x : GraphEdge × Term} {b : Bool} (h : Fires m d x b) : ¬Silent m d x := by
  intro hs
  cases b with
  | true => simp [Fires, hs.1] at h
  | false =>
    obtain ⟨-, c, hc, htrue⟩ := h
    simp [hs.2 c hc] at htrue

theorem Fires.unique {x : GraphEdge × Term} {b b' : Bool} (h : Fires m d x b) (h' : Fires m d x b') :
    b = b' := by
  cases b <;> cases b' <;> simp_all [Fires]

theorem FirstFiring.unique {l : List (GraphEdge × Term)} {e e' : GraphEdge} {b b' : Bool}
    (h : FirstFiring m d l e b) (h' : FirstFiring m d l e' b') : e = e' ∧ b = b' := by
  obtain ⟨pre, t, post, rfl, hpre, hfire⟩ := h
  obtain ⟨pre', t', post', heq, hpre', hfire'⟩ := h'
  -- an entry before the other's would be silent and fire at once
  rcases List.append_eq_append_iff.1 heq with ⟨a, rfl, ha⟩ | ⟨c, rfl, hc⟩
  · cases a with
    | nil =>
      simp only [List.nil_append, List.cons.injEq, Prod.mk.injEq] at ha
      obtain ⟨⟨rfl, rfl⟩, -⟩ := ha
      exact ⟨rfl, hfire'.unique hfire |>.symm⟩
    | cons y a =>
      simp only [List.cons_append, List.cons.injEq] at ha
      obtain ⟨rfl, -⟩ := ha
      exact absurd (hpre' _ (by simp)) (not_silent_of_fires hfire)
  · cases c with
    | nil =>
      simp only [List.nil_append, List.cons.injEq, Prod.mk.injEq] at hc
      obtain ⟨⟨rfl, rfl⟩, -⟩ := hc
      exact ⟨rfl, hfire.unique hfire'⟩
    | cons y c =>
      simp only [List.cons_append, List.cons.injEq] at hc
      obtain ⟨rfl, -⟩ := hc
      exact absurd (hpre _ (by simp)) (not_silent_of_fires hfire')

theorem FirstFiring.cons {x : GraphEdge × Term} {l : List (GraphEdge × Term)} {e : GraphEdge}
    {b : Bool} (hx : Silent m d x) (h : FirstFiring m d l e b) : FirstFiring m d (x :: l) e b := by
  obtain ⟨pre, t, post, rfl, hpre, hfire⟩ := h
  refine ⟨x :: pre, t, post, rfl, fun y hy => ?_, hfire⟩
  rcases List.mem_cons.1 hy with rfl | hy
  · exact hx
  · exact hpre y hy

theorem FirstFiring.head {x : GraphEdge × Term} {l : List (GraphEdge × Term)} {b : Bool}
    (h : Fires m d x b) : FirstFiring m d (x :: l) x.1 b :=
  ⟨[], x.2, l, rfl, by simp, h⟩

theorem evalBool_bind_ok {α : Type} {t : Term} {f : Bool → Except EncodingError α} {a : α}
    (h : (liftM (m.evalBool t) >>= f : Except EncodingError α) = .ok a) :
    ∃ b, m.evalBool t = .ok b ∧ f b = .ok a := by
  cases hb : m.evalBool t with
  | error e => simp [hb, liftM, monadLift, MonadLift.monadLift, Except.mapError, bind, Except.bind] at h
  | ok b => exact ⟨b, rfl, by simpa [hb, liftM, monadLift, MonadLift.monadLift, Except.mapError, bind, Except.bind] using h⟩

/-- The scan of a data forwarding list: the first entry that fires, or none, every entry being
silent. -/
theorem firstForwarding_spec {l : List (GraphEdge × Term)} {r : Option (GraphEdge × Bool)}
    (h : firstForwarding m d l = .ok r) :
    (r = none → ∀ x ∈ l, Silent m d x) ∧ ∀ e b, r = some (e, b) → FirstFiring m d l e b := by
  induction l generalizing r with
  | nil =>
    simp only [firstForwarding, pure, Except.pure, Except.ok.injEq] at h
    subst h
    simp
  | cons x rest ih =>
    obtain ⟨e, t⟩ := x
    rw [firstForwarding] at h
    obtain ⟨bd, hbd, h⟩ := evalBool_bind_ok h
    -- the rest of the list is scanned only where this entry is silent
    have hrest (hx : Silent m d (e, t)) (h : firstForwarding m d rest = .ok r) :
        (r = none → ∀ x ∈ (e, t) :: rest, Silent m d x) ∧
          ∀ e' b, r = some (e', b) → FirstFiring m d ((e, t) :: rest) e' b := by
      refine ⟨fun hr x hmem => ?_, fun e' b hr => FirstFiring.cons hx ((ih h).2 e' b hr)⟩
      rcases List.mem_cons.1 hmem with rfl | hmem
      · exact hx
      · exact (ih h).1 hr x hmem
    cases bd with
    | true =>
      simp only [if_true, pure, Except.pure, Except.ok.injEq] at h
      subst h
      refine ⟨fun h => by simp at h, fun e' b he => ?_⟩
      simp only [Option.some.injEq, Prod.mk.injEq] at he
      obtain ⟨rfl, rfl⟩ := he
      exact FirstFiring.head hbd
    | false =>
      simp only [Bool.false_eq_true, if_false] at h
      cases hc : d.controlOf? e with
      | none =>
        rw [hc] at h
        exact hrest ⟨hbd, fun c hc' => by simp [hc] at hc'⟩ h
      | some c =>
        rw [hc] at h
        obtain ⟨bc, hbc, h⟩ := evalBool_bind_ok h
        cases bc with
        | true =>
          simp only [if_true, pure, Except.pure, Except.ok.injEq] at h
          subst h
          refine ⟨fun h => by simp at h, fun e' b he => ?_⟩
          simp only [Option.some.injEq, Prod.mk.injEq] at he
          obtain ⟨rfl, rfl⟩ := he
          exact FirstFiring.head ⟨hbd, c, hc, hbc⟩
        | false =>
          simp only [Bool.false_eq_true, if_false] at h
          refine hrest ⟨hbd, fun c' hc' => ?_⟩ h
          rw [hc, Option.some.injEq] at hc'
          exact hc' ▸ hbc

/-- How the path goes on after the packet leaves on `e`, whose data forwarding variable holds:
it goes on to `e`'s peer, not visited yet, or stops, in a loop exactly when the peer was visited,
and neither for the outbound filter nor for want of a route. -/
def Continues (e : GraphEdge) (visited : List String) : Next → Prop
  | .forward p => e.peer = some p ∧ p ∉ visited
  | .stop disp _ =>
    (disp = .loop ↔ ∃ p, e.peer = some p ∧ p ∈ visited) ∧ disp ≠ .deniedOut ∧ disp ≠ .noRoute

def Unrouted (m : Model) (s : Slice) (r : String) : Prop :=
  ∀ b, s.decisions.best.get? r = some b → m.evalBool b.permitted = .ok false

section Step

variable {s : Slice} {f : Flow} {r : String} {visited : List String} {e : GraphEdge}

theorem any_contains_iff {o : Option String} :
    o.any visited.contains = true ↔ ∃ p, o = some p ∧ p ∈ visited := by
  cases o <;> simp

theorem leave_spec {next : Next} (h : leave m s f r visited e = .ok next) : Continues e visited next := by
  unfold leave at h
  by_cases hv : e.peer.any visited.contains = true
  · simp only [hv, if_true, pure, Except.pure, Except.ok.injEq] at h
    subst h
    exact ⟨iff_of_true rfl (any_contains_iff.1 hv), by decide, by decide⟩
  -- past the loop check the peer is not visited, so no later stop is a loop
  have hnot : ¬∃ p, e.peer = some p ∧ p ∈ visited := fun hp => hv (any_contains_iff.2 hp)
  have hstop (disp : Disposition) (n : String) (hd : disp ≠ .loop ∧ disp ≠ .deniedOut ∧ disp ≠ .noRoute) :
      Continues e visited (.stop disp n) := ⟨iff_of_false hd.1 hnot, hd.2⟩
  simp only [hv, Bool.false_eq_true, if_false] at h
  -- the crossing term exists, or the step fails
  split at h
  case h_2 => cases h
  simp only [pure_bind] at h
  obtain ⟨b, -, h⟩ := evalBool_bind_ok h
  cases b with
  | false =>
    simp only [Bool.not_false, if_true] at h
    obtain ⟨n, -, h⟩ := Except.exists_of_bind_eq_ok h
    cases h
    exact hstop _ _ (by decide)
  | true =>
    simp only [Bool.not_true, Bool.false_eq_true, if_false] at h
    split at h
    · cases h
      exact hstop _ _ (by decide)
    · split at h
      · split at h <;> cases h <;> exact hstop _ _ (by decide)
      · next p hp =>
        split at h
        · cases h
          exact hstop _ _ (by decide)
        · cases h
          exact ⟨hp, fun hmem => hnot ⟨p, hp, hmem⟩⟩

theorem permittedBest_false (h : permittedBest m s r = .ok false) : Unrouted m s r := by
  intro b hb
  unfold permittedBest at h
  rw [hb] at h
  cases hp : m.evalBool b.permitted <;>
    simp_all [liftM, monadLift, MonadLift.monadLift, Except.mapError]

theorem stopAt_spec {disp : Disposition} {n : String} (h : stopAt m s f r = .ok (disp, n)) :
    disp ≠ .loop ∧ disp ≠ .deniedOut ∧ (disp = .noRoute → Unrouted m s r) := by
  unfold stopAt at h
  obtain ⟨permitted, hp, h⟩ := Except.exists_of_bind_eq_ok h
  cases permitted with
  | false =>
    simp only [Bool.not_false, if_true, pure, Except.pure, Except.ok.injEq, Prod.mk.injEq] at h
    obtain ⟨rfl, -⟩ := h
    exact ⟨by decide, by decide, fun _ => permittedBest_false hp⟩
  | true =>
    simp only [Bool.not_true, Bool.false_eq_true, if_false] at h
    split at h <;> cases h <;> exact ⟨by decide, by decide, fun h => nomatch h⟩

/-- One router: the packet leaves on the first entry of the router's data forwarding list that
fires, adding its hop; on a data forwarding edge the path goes on as `Continues` says, on a
control forwarding one it is dropped by the outbound filter. Where no entry fires no hop is added,
and the path ends other than in a loop or at the outbound filter, for want of a route only where
the router has no permitted best route. -/
theorem routerStep_spec {hops hops' : List Hop} {next : Next}
    (h : routerStep m s f r visited hops = .ok (hops', next)) :
    (∃ e route, FirstFiring m s.decisions (s.decisions.data.getD r []) e true ∧
      hops' = hops ++ [hopOf e route] ∧ Continues e visited next) ∨
    (∃ e route, FirstFiring m s.decisions (s.decisions.data.getD r []) e false ∧
      hops' = hops ++ [hopOf e route] ∧ ∃ n, next = .stop .deniedOut n) ∨
    ((∀ x ∈ s.decisions.data.getD r [], Silent m s.decisions x) ∧ hops' = hops ∧
      ∃ disp n, next = .stop disp n ∧ disp ≠ .loop ∧ disp ≠ .deniedOut ∧
        (disp = .noRoute → Unrouted m s r)) := by
  unfold routerStep at h
  obtain ⟨route, -, h⟩ := Except.exists_of_bind_eq_ok h
  obtain ⟨first, hfirst, h⟩ := Except.exists_of_bind_eq_ok h
  have hspec := firstForwarding_spec hfirst
  rcases first with _ | ⟨e, _ | _⟩
  · -- no entry fires
    obtain ⟨⟨disp, n⟩, hstop, h⟩ := Except.exists_of_bind_eq_ok h
    cases h
    exact .inr (.inr ⟨hspec.1 rfl, rfl, disp, n, rfl, stopAt_spec hstop⟩)
  · -- the control forwarding variable fires
    obtain ⟨n, -, h⟩ := Except.exists_of_bind_eq_ok h
    cases h
    exact .inr (.inl ⟨e, _, hspec.2 e false rfl, rfl, n, rfl⟩)
  · -- the data forwarding variable fires
    obtain ⟨next', hleave, h⟩ := Except.exists_of_bind_eq_ok h
    cases h
    exact .inl ⟨e, _, hspec.2 e true rfl, rfl, leave_spec hleave⟩

end Step

def endpoint (start : String) (es : List GraphEdge) : Option String :=
  (es.getLast?.map (·.peer)).getD (some start)

/-- The walk so far: from `start` the packet left on the edges `es` in turn, each edge the first
data forwarding edge of its router that fires and leading to the router of the next, and it has
reached `current`, a router it has not left yet. -/
structure Partial (m : Model) (s : Slice) (start current : String) (es : List GraphEdge) : Prop where
  head : ∀ e ∈ es.head?, e.router = start
  chain : es.IsChain fun a b => a.peer = some b.router
  fires : ∀ e ∈ es, FirstFiring m s.decisions (s.decisions.data.getD e.router []) e true
  ends : endpoint start es = some current
  nodup : (es.map (·.router)).Nodup
  fresh : current ∉ es.map (·.router)

/-- A finished trace from `start` over `es`: each hop takes the first firing data forwarding edge
of its router, no router is left twice, and the disposition says how the last step ended. -/
structure Replays (m : Model) (s : Slice) (start : String) (es : List GraphEdge) (t : FlowTrace) :
    Prop where
  hops : ∃ routes : List String, routes.length = es.length ∧ t.hops = List.zipWith hopOf es routes
  head : ∀ e ∈ es.head?, e.router = start
  chain : es.IsChain fun a b =>
    a.peer = some b.router ∧ FirstFiring m s.decisions (s.decisions.data.getD a.router []) a true
  last : ∀ e ∈ es.getLast?, ∃ b, FirstFiring m s.decisions (s.decisions.data.getD e.router []) e b
  nodup : (es.map (·.router)).Nodup
  loop : t.disposition = .loop ↔ ∃ e ∈ es.getLast?,
    FirstFiring m s.decisions (s.decisions.data.getD e.router []) e true ∧
      ∃ p, e.peer = some p ∧ p ∈ es.map (·.router)
  deniedOut : t.disposition = .deniedOut ↔ ∃ e ∈ es.getLast?,
    FirstFiring m s.decisions (s.decisions.data.getD e.router []) e false
  noRoute : t.disposition = .noRoute → ∃ last, endpoint start es = some last ∧ Unrouted m s last ∧
    ∀ x ∈ s.decisions.data.getD last [], Silent m s.decisions x

theorem FirstFiring.iff {l : List (GraphEdge × Term)} {e : GraphEdge} {b b' : Bool}
    (h : FirstFiring m d l e b) : FirstFiring m d l e b' ↔ b = b' :=
  ⟨fun h' => (h.unique h').2, fun hb => hb ▸ h⟩

theorem FirstFiring.mem {l : List (GraphEdge × Term)} {e : GraphEdge} {b : Bool}
    (h : FirstFiring m d l e b) : ∃ t, (e, t) ∈ l := by
  obtain ⟨pre, t, post, rfl, -⟩ := h
  exact ⟨t, by simp⟩

section Walk

variable {s : Slice} {f : Flow} {start current : String} {es : List GraphEdge}

theorem FirstFiring.edge (hs : s.ForwardsOnEdges) {r : String} {e : GraphEdge} {b : Bool}
    (h : FirstFiring m s.decisions (s.decisions.data.getD r []) e b) :
    e ∈ s.graph.edges r ∧ e.router = r :=
  let ⟨_, ht⟩ := h.mem
  hs r _ ht

theorem Partial.nil : Partial m s start start [] where
  head := by simp
  chain := .nil
  fires := by simp
  ends := rfl
  nodup := .nil
  fresh := by simp

theorem Partial.last_peer (hp : Partial m s start current es) :
    ∀ x ∈ es.getLast?, x.peer = some current := by
  intro x hx
  have h := hp.ends
  have hx' : es.getLast? = some x := hx
  simp only [endpoint, hx', Option.map_some, Option.getD_some] at h
  exact h

/-- The walk goes on over `e`, the first data forwarding edge of `current` that fires, to its
peer `p`, a router not left yet. -/
theorem Partial.snoc (hs : s.ForwardsOnEdges) (hp : Partial m s start current es) {e : GraphEdge}
    {p : String} (hfire : FirstFiring m s.decisions (s.decisions.data.getD current []) e true)
    (hpeer : e.peer = some p) (hfresh : p ∉ (es ++ [e]).map (·.router)) :
    Partial m s start p (es ++ [e]) := by
  have hat := (hfire.edge hs).2
  refine ⟨?_, ?_, ?_, ?_, ?_, hfresh⟩
  · -- the first edge: that of the walk so far, or `e` at the start
    cases es with
    | nil =>
      have h := hp.ends
      simp only [endpoint, List.getLast?_nil, Option.map_none, Option.getD_none, Option.some.injEq] at h
      simpa [h] using hat
    | cons x es => exact hp.head
  · exact hp.chain.append (List.isChain_singleton e) fun x hx y hy => by
      simp only [List.head?_cons, Option.mem_def, Option.some.injEq] at hy
      rw [← hy, hat]
      exact hp.last_peer x hx
  · intro x hx
    rcases List.mem_append.1 hx with hx | hx
    · exact hp.fires x hx
    · rw [List.mem_singleton.1 hx, hat]
      exact hfire
  · simp [endpoint, hpeer]
  · rw [List.map_append, List.map_singleton, hat]
    exact List.nodup_append.2 ⟨hp.nodup, List.nodup_singleton _,
      fun a ha b hb => by rw [List.mem_singleton.1 hb]; exact fun h => hp.fresh (h ▸ ha)⟩

theorem Partial.chain_fires (hp : Partial m s start current es) :
    es.IsChain fun a b =>
      a.peer = some b.router ∧ FirstFiring m s.decisions (s.decisions.data.getD a.router []) a true :=
  hp.chain.imp_of_mem_imp fun a _ ha _ hr => ⟨hr, hp.fires a ha⟩

theorem Partial.replays_stop (hp : Partial m s start current es) {routes : List String}
    (hlen : routes.length = es.length)
    (hsilent : ∀ x ∈ s.decisions.data.getD current [], Silent m s.decisions x) {disp : Disposition}
    {n : String} (hd : disp ≠ .loop ∧ disp ≠ .deniedOut ∧ (disp = .noRoute → Unrouted m s current)) :
    Replays m s start es ⟨disp, List.zipWith hopOf es routes, n⟩ where
  hops := ⟨routes, hlen, rfl⟩
  head := hp.head
  chain := hp.chain_fires
  last := fun x hx => ⟨true, hp.fires x (List.mem_of_getLast? hx)⟩
  nodup := hp.nodup
  loop := by
    -- the last edge leads to `current`, which the walk has not left
    refine iff_of_false hd.1 fun ⟨x, hx, _, p, hpx, hmem⟩ => hp.fresh ?_
    rw [hp.last_peer x hx, Option.some.injEq] at hpx
    exact hpx ▸ hmem
  deniedOut := iff_of_false hd.2.1 fun ⟨x, hx, hfire⟩ =>
    Bool.false_ne_true ((hp.fires x (List.mem_of_getLast? hx)).iff.1 hfire).symm
  noRoute := fun h => ⟨current, hp.ends, hd.2.2 h, hsilent⟩

/-- The walk ends on `e`, the first edge of `current` that fires, as its data forwarding edge if
`b`. -/
theorem Partial.replays_last (hs : s.ForwardsOnEdges) (hp : Partial m s start current es)
    {routes : List String} (hlen : routes.length = es.length) {e : GraphEdge} {b : Bool}
    (hfire : FirstFiring m s.decisions (s.decisions.data.getD current []) e b) (route : String)
    {disp : Disposition} {n : String}
    (hloop : disp = .loop ↔ b = true ∧ ∃ p, e.peer = some p ∧ p ∈ (es ++ [e]).map (·.router))
    (hden : disp = .deniedOut ↔ b = false) (hno : disp ≠ .noRoute) :
    Replays m s start (es ++ [e]) ⟨disp, List.zipWith hopOf es routes ++ [hopOf e route], n⟩ := by
  have hat := (hfire.edge hs).2
  subst hat
  refine ⟨⟨routes ++ [route], by simp [hlen],
    by rw [List.zipWith_append hlen.symm]; rfl⟩, ?_, ?_, ?_, ?_, ?_, ?_,
    fun h => absurd h hno⟩
  · cases es with
    | nil =>
      have h := hp.ends
      simp only [endpoint, List.getLast?_nil, Option.map_none, Option.getD_none, Option.some.injEq] at h
      simp [h]
    | cons x es => exact hp.head
  · exact hp.chain_fires.append (List.isChain_singleton e) fun x hx y hy => by
      simp only [List.head?_cons, Option.mem_def, Option.some.injEq] at hy
      exact hy ▸ ⟨hp.last_peer x hx, hp.fires x (List.mem_of_getLast? hx)⟩
  · intro x hx
    simp only [List.getLast?_append, List.getLast?_singleton, Option.some_or, Option.mem_def,
      Option.some.injEq] at hx
    exact hx ▸ ⟨b, hfire⟩
  · rw [List.map_append, List.map_singleton]
    exact List.nodup_append.2 ⟨hp.nodup, List.nodup_singleton _,
      fun a ha c hc => by rw [List.mem_singleton.1 hc]; exact fun h => hp.fresh (h ▸ ha)⟩
  · simp only [hloop, List.getLast?_append, List.getLast?_singleton, Option.some_or, Option.mem_def,
      Option.some.injEq, exists_eq_left', hfire.iff]
  · simp only [hden, List.getLast?_append, List.getLast?_singleton, Option.some_or, Option.mem_def,
      Option.some.injEq, exists_eq_left', hfire.iff]

theorem Partial.routers_sub (hg : s.graph.WellFormed) (hs : s.ForwardsOnEdges)
    (hp : Partial m s start current es) : es.map (·.router) ⊆ s.graph.routers := by
  intro r hr
  obtain ⟨e, he, rfl⟩ := List.mem_map.1 hr
  exact hg.mem_of_mem_edges ((hp.fires e he).edge hs).1

theorem Partial.length_le (hg : s.graph.WellFormed) (hs : s.ForwardsOnEdges)
    (hp : Partial m s start current es) : es.length ≤ s.graph.routers.length := by
  simpa using hp.nodup.length_le_of_subset (hp.routers_sub hg hs)

theorem Partial.routers_sub_snoc (hg : s.graph.WellFormed) (hs : s.ForwardsOnEdges)
    (hp : Partial m s start current es) {e : GraphEdge} {b : Bool}
    (hfire : FirstFiring m s.decisions (s.decisions.data.getD current []) e b) :
    (es ++ [e]).map (·.router) ⊆ s.graph.routers := by
  have ⟨hmem, hat⟩ := hfire.edge hs
  rw [List.map_append, List.map_singleton, hat]
  refine List.append_subset.2 ⟨hp.routers_sub hg hs, fun r hr => ?_⟩
  rw [List.mem_singleton.1 hr]
  exact hg.mem_of_mem_edges hmem

theorem Replays.length_le {t : FlowTrace} (h : Replays m s start es t)
    (hsub : es.map (·.router) ⊆ s.graph.routers) : es.length ≤ s.graph.routers.length := by
  simpa using h.nodup.length_le_of_subset hsub

/-- The walk from any point on: with fuel for every router not left yet, it ends in a trace that
replays the forwarding decisions. -/
theorem walk_replays (hg : s.graph.WellFormed) (hs : s.ForwardsOnEdges) {t : FlowTrace} (fuel : Nat) :
    ∀ current es routes, Partial m s start current es → routes.length = es.length →
      fuel + es.length = s.graph.routers.length + 1 →
      walk m s f fuel current (es.map (·.router)) (List.zipWith hopOf es routes) = .ok t →
      ∃ es', Replays m s start es' t ∧ es'.length ≤ s.graph.routers.length := by
  induction fuel with
  | zero =>
    -- the routers left would be one more than the graph has
    intro current es routes hp _ hfuel _
    have := hp.length_le hg hs
    omega
  | succ fuel ih =>
    intro current es routes hp hlen hfuel h
    unfold walk at h
    have hvisited : (if (es.map (·.router)).contains current then es.map (·.router)
        else es.map (·.router) ++ [current]) = es.map (·.router) ++ [current] := by
      simp [hp.fresh]
    rw [hvisited] at h
    obtain ⟨⟨hops', next⟩, hstep, h⟩ := Except.exists_of_bind_eq_ok h
    rcases routerStep_spec hstep with ⟨e, route, hfire, rfl, hcont⟩ | ⟨e, route, hfire, rfl, n, rfl⟩ |
      ⟨hsilent, rfl, disp, n, rfl, hd⟩
    · -- left on a data forwarding edge
      have hat := (hfire.edge hs).2
      have hmap : es.map (·.router) ++ [current] = (es ++ [e]).map (·.router) := by simp [hat]
      cases next with
      | forward p =>
        have hzip : List.zipWith hopOf es routes ++ [hopOf e route] =
            List.zipWith hopOf (es ++ [e]) (routes ++ [route]) := by
          rw [List.zipWith_append hlen.symm]
          rfl
        dsimp only at h
        rw [hmap, hzip] at h
        exact ih p (es ++ [e]) (routes ++ [route]) (hp.snoc hs hfire hcont.1 (hmap ▸ hcont.2))
          (by simp [hlen]) (by simp; omega) h
      | stop disp n =>
        cases h
        rw [hmap] at hcont
        have hr := hp.replays_last hs hlen hfire route (n := n) (by simpa using hcont.1)
          (iff_of_false hcont.2.1 (by simp)) hcont.2.2
        exact ⟨_, hr, hr.length_le (hp.routers_sub_snoc hg hs hfire)⟩
    · -- dropped by the outbound filter
      cases h
      have hr := hp.replays_last hs hlen hfire route (n := n) (iff_of_false (by decide) (by simp))
        (iff_of_true rfl rfl) (by decide)
      exact ⟨_, hr, hr.length_le (hp.routers_sub_snoc hg hs hfire)⟩
    · -- no edge fires
      cases h
      exact ⟨_, hp.replays_stop hlen hsilent hd, hp.length_le hg hs⟩

end Walk

/-- The path of the packet from router `r`: every trace the replay returns crosses, in order,
edges that the forwarding decisions of the model choose, leaves no router twice and so has at most
as many hops as the graph has routers, and its disposition says how the last step ended. -/
theorem flowTrace_replays {enc : Encoder} (hg : enc.main.graph.WellFormed)
    (hs : enc.main.ForwardsOnEdges) {r : String} {fl : Flow} {t : FlowTrace}
    (h : flowTrace m enc r = .ok (fl, t)) :
    ∃ es, Replays m enc.main r es t ∧ es.length ≤ enc.main.graph.routers.length := by
  unfold flowTrace at h
  obtain ⟨fl', -, h⟩ := Except.exists_of_bind_eq_ok h
  obtain ⟨t', hwalk, h⟩ := Except.exists_of_bind_eq_ok h
  cases h
  exact walk_replays hg hs _ r [] [] Partial.nil rfl (by simp) hwalk

/-- `e` is the least edge of `r` in the order of edges that fires, as `data` says: an edge of `r`
that is not abstract, whose entry fires, and every entry of an edge below it is silent. -/
def LeastFiring (m : Model) (s : Slice) (r : String) (e : GraphEdge) (data : Bool) : Prop :=
  e ∈ s.graph.edges r ∧ e.isAbstract = false ∧
    (∃ t, (e, t) ∈ s.decisions.data.getD r [] ∧ Fires m s.decisions (e, t) data) ∧
    ∀ x ∈ s.decisions.data.getD r [], GraphEdge.cmp x.1 e = .lt → Silent m s.decisions x

/-- In a list ascending by edge, the first entry that fires is the entry of the least edge that
fires. -/
theorem firstFiring_iff_of_sorted {l : List (GraphEdge × Term)} {e : GraphEdge} {b : Bool}
    (hl : l.Pairwise fun x y => GraphEdge.cmp x.1 y.1 = .lt) :
    FirstFiring m d l e b ↔
      (∃ t, (e, t) ∈ l ∧ Fires m d (e, t) b) ∧ ∀ x ∈ l, GraphEdge.cmp x.1 e = .lt → Silent m d x := by
  constructor
  · rintro ⟨pre, t, post, rfl, hpre, hfire⟩
    refine ⟨⟨t, by simp, hfire⟩, fun x hx hlt => ?_⟩
    -- an entry at or after `e`'s is not below it
    have hafter := (List.pairwise_cons.1 (List.pairwise_append.1 hl).2.1).1
    rcases List.mem_append.1 hx with hx | hx
    · exact hpre x hx
    · rcases List.mem_cons.1 hx with rfl | hx
      · simp [Std.ReflCmp.compare_self] at hlt
      · have hgt := Std.OrientedCmp.gt_of_lt (hafter x hx)
        rw [hlt] at hgt
        cases hgt
  · rintro ⟨⟨t, ht, hfire⟩, hbelow⟩
    obtain ⟨pre, post, rfl⟩ := List.append_of_mem ht
    refine ⟨pre, t, post, rfl, fun x hx => hbelow x (by simp [hx]) ?_, hfire⟩
    exact (List.pairwise_append.1 hl).2.2 x hx (e, t) (by simp)

section InOrder

variable {s : Slice} (hd : s.DataInOrder)
include hd

theorem firstFiring_iff_leastFiring {r : String} {e : GraphEdge} {b : Bool} :
    FirstFiring m s.decisions (s.decisions.data.getD r []) e b ↔ LeastFiring m s r e b := by
  rw [firstFiring_iff_of_sorted (List.pairwise_map.1 (hd r).sorted)]
  constructor
  · rintro ⟨⟨t, ht, hfire⟩, hbelow⟩
    exact ⟨((hd r).mem e (List.mem_map_of_mem (f := Prod.fst) ht)).1,
      ((hd r).mem e (List.mem_map_of_mem (f := Prod.fst) ht)).2, ⟨t, ht, hfire⟩, hbelow⟩
  · rintro ⟨-, -, hfire, hbelow⟩
    exact ⟨hfire, hbelow⟩

theorem forwardsOnEdges_of_dataInOrder (hstart : ∀ r, ∀ e ∈ s.graph.edges r, e.router = r) :
    s.ForwardsOnEdges := fun r x hx =>
  have hmem := ((hd r).mem x.1 (List.mem_map_of_mem (f := Prod.fst) hx)).1
  ⟨hmem, hstart r x.1 hmem⟩

end InOrder

/-- The reported path follows the model's forwarding decisions: every trace the replay returns
crosses edges the decisions choose, leaves each router at most once, and leaves a router on the
least of its concrete edges whose forwarding variable holds. -/
theorem flow_trace_follows_forwarding {enc : Encoder} (hg : enc.main.graph.WellFormed)
    (hstart : ∀ r, ∀ e ∈ enc.main.graph.edges r, e.router = r) (hd : enc.main.DataInOrder)
    (m : Model) (r : String) {fl : Flow} {t : FlowTrace} (h : flowTrace m enc r = .ok (fl, t)) :
    ∃ es, Replays m enc.main r es t ∧ es.length ≤ enc.main.graph.routers.length ∧
      ∀ e b, FirstFiring m enc.main.decisions (enc.main.decisions.data.getD e.router []) e b ↔
        LeastFiring m enc.main e.router e b := by
  obtain ⟨es, hr, hlen⟩ := flowTrace_replays hg (forwardsOnEdges_of_dataInOrder hd hstart) h
  exact ⟨es, hr, hlen, fun _ _ => firstFiring_iff_leastFiring hd⟩

def pingPongSlice : Slice :=
  { (default : Slice) with
    graph := { (default : Graph) with
      configs := ⟨[("A", default), ("B", default)]⟩
      edgeMap := ⟨[("A", [Instrument.linkEdge "A" "B"]), ("B", [Instrument.linkEdge "B" "A"])]⟩ }
    decisions := { data := ⟨[("A", [(Instrument.linkEdge "A" "B", .tt)]),
      ("B", [(Instrument.linkEdge "B" "A", .tt)])]⟩ }
    packet := { (default : Packet) with
      dstIp := .bv 0 32, srcIp := .bv 0 32, dstPort := .int 0, srcPort := .int 0,
      icmpCode := .int 0, icmpType := .int 0, ipProtocol := .int 0 }
    forwards := ⟨[("A", [(Instrument.linkEdge "A" "B", .tt)]),
      ("B", [(Instrument.linkEdge "B" "A", .tt)])]⟩ }

def pingPong : Encoder :=
  { (default : Encoder) with slices := ⟨[("", pingPongSlice)]⟩, mainName := "" }

theorem mem_pingPong_edges {r : String} {e : GraphEdge} :
    e ∈ pingPongSlice.graph.edges r ↔
      (r = "A" ∧ e = Instrument.linkEdge "A" "B") ∨ (r = "B" ∧ e = Instrument.linkEdge "B" "A") := by
  simp only [Graph.edges, NameMap.getD, NameMap.get?, pingPongSlice, NameMap.lookup_cons_ite]
  by_cases hA : r = "A" <;> by_cases hB : r = "B" <;> simp_all

theorem pingPong_data (r : String) :
    pingPongSlice.decisions.data.getD r [] =
      (pingPongSlice.graph.edges r).map fun e => (e, Term.tt) := by
  simp only [Graph.edges, NameMap.getD, NameMap.get?, pingPongSlice, NameMap.lookup_cons_ite]
  by_cases hA : r = "A" <;> by_cases hB : r = "B" <;> simp_all

theorem pingPong_wellFormed : pingPongSlice.graph.WellFormed where
  keys_eq := rfl
  nodup := by decide
  peer_mem := fun r e he p hp => by
    rcases mem_pingPong_edges.1 he with ⟨rfl, rfl⟩ | ⟨rfl, rfl⟩ <;> cases hp <;> decide

theorem pingPong_starts (r : String) (e : GraphEdge) (he : e ∈ pingPongSlice.graph.edges r) :
    e.router = r := by
  rcases mem_pingPong_edges.1 he with ⟨rfl, rfl⟩ | ⟨rfl, rfl⟩ <;> rfl

theorem pingPong_dataInOrder : pingPongSlice.DataInOrder := fun r => by
  rw [pingPong_data, List.map_map]
  have hkeys : (Prod.fst ∘ fun e => (e, Term.tt)) = (id : GraphEdge → GraphEdge) := rfl
  rw [hkeys, List.map_id]
  refine ⟨fun e he => ⟨he, ?_⟩, fun e he => ⟨e, he.1, Std.ReflCmp.compare_self⟩, ?_⟩
  · rcases mem_pingPong_edges.1 he with ⟨-, rfl⟩ | ⟨-, rfl⟩ <;> rfl
  · -- a router has at most one edge
    simp only [Graph.edges, NameMap.getD, NameMap.get?, pingPongSlice, NameMap.lookup_cons_ite]
    split
    · simp
    · split <;> simp

def pingPongTrace : FlowTrace where
  disposition := .loop
  hops :=
    [hopOf (Instrument.linkEdge "A" "B") "ConnectedRoute<0.0.0.0/0,nhip:AUTO/NONE(-1l),nhint:B>",
      hopOf (Instrument.linkEdge "B" "A") "ConnectedRoute<0.0.0.0/0,nhip:AUTO/NONE(-1l),nhint:A>"]
  notes := "LOOP"

/-- From `A` the packet goes to `B` and back, where it loops: the replay reports both hops, each
the least edge of its router that fires. -/
theorem ping_pong_trace_replays :
    pingPong.main.graph.WellFormed ∧ (∀ r, ∀ e ∈ pingPong.main.graph.edges r, e.router = r) ∧
      pingPong.main.DataInOrder ∧ (∃ fl, flowTrace {} pingPong "A" = .ok (fl, pingPongTrace)) ∧
      ∃ es, Replays {} pingPong.main "A" es pingPongTrace ∧
        es.length ≤ pingPong.main.graph.routers.length ∧
        ∀ e b, FirstFiring {} pingPong.main.decisions
          (pingPong.main.decisions.data.getD e.router []) e b ↔ LeastFiring {} pingPong.main e.router e b := by
  obtain ⟨fl, hfl⟩ : ∃ fl, flowTrace {} pingPong "A" = .ok (fl, pingPongTrace) := ⟨_, rfl⟩
  exact ⟨pingPong_wellFormed, pingPong_starts, pingPong_dataInOrder, ⟨fl, hfl⟩,
    @flow_trace_follows_forwarding pingPong pingPong_wellFormed pingPong_starts pingPong_dataInOrder
      {} "A" fl pingPongTrace hfl⟩

end Counterexample

end ControlPlane
