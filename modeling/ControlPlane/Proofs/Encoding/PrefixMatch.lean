import Mathlib
import ControlPlane.Proofs.Network.Prefixes
import ControlPlane.Proofs.Smt.Frame
import ControlPlane.Encoding.Transfer

/-!
# Prefix tests as formulas

The formula that the leading bits of a term are those of a prefix holds exactly when the prefix
contains the term's value, so every prefix test of the encoding is exact (`prefix_tests_exact`).
A named route filter list becomes a chain of if-then-else over its lines in which the first
matching line decides; a list of ranges matches when one range does. Concrete filtering compares
prefixes on the bits both have, and the two verdicts agree unless a line accepts routes shorter
than its own prefix.
-/

namespace ControlPlane

/-- The range matches a route to `d` of length `len`: `d` lies in the range's prefix, and the
range accepts the length. -/
def PrefixRange.admitsRoute (r : PrefixRange) (d : Ip) (len : Nat) : Bool :=
  r.net.containsIp d && r.lengths.includes len

/-- The verdict of a route filter list on a route to `d` of length `len` when its lines match by
`admitsRoute`: the first matching line decides, and no match denies. -/
def RouteFilterList.permitsRoute (l : RouteFilterList) (d : Ip) (len : Nat) : Bool :=
  match l.lines.find? (·.range.admitsRoute d len) with
  | some line => line.action == .permit
  | none => false

namespace RouteFilterList

@[simp] theorem permitsRoute_nil (name : String) (d : Ip) (len : Nat) :
    (⟨name, []⟩ : RouteFilterList).permitsRoute d len = false := rfl

theorem permitsRoute_cons (name : String) (line : RouteFilterLine) (lines : List RouteFilterLine)
    (d : Ip) (len : Nat) :
    (⟨name, line :: lines⟩ : RouteFilterList).permitsRoute d len =
      if line.range.admitsRoute d len then line.action == .permit
      else (⟨name, lines⟩ : RouteFilterList).permitsRoute d len := by
  unfold permitsRoute
  cases h : line.range.admitsRoute d len <;> simp [h]

end RouteFilterList

/-- A range that accepts the length `len` only with a prefix no longer than `len` matches a route
by its destination exactly as it matches the route's prefix. -/
theorem PrefixRange.admitsRoute_eq_includesPrefix {r : PrefixRange} (hr : r.net.IsNetwork)
    (d : Ip) {len : Nat} (hl : len ≤ 32) (hshort : r.lengths.includes len = true → r.net.len ≤ len) :
    r.admitsRoute d len = r.includesPrefix (Prefix.make d len) := by
  cases hinc : r.lengths.includes len
  · have hmin : min len 32 = len := Nat.min_eq_left hl
    simp [admitsRoute, includesPrefix, Prefix.make, hmin, hinc]
  · rw [includesPrefix_make hr hl (hshort hinc), admitsRoute, hinc, Bool.and_true, Bool.true_and]

theorem RouteFilterList.permitsRoute_eq_permits {l : RouteFilterList}
    (hnet : ∀ line ∈ l.lines, line.range.net.IsNetwork) (d : Ip) {len : Nat} (hl : len ≤ 32)
    (hshort : ∀ line ∈ l.lines, line.range.lengths.includes len = true → line.range.net.len ≤ len) :
    l.permitsRoute d len = l.permits (Prefix.make d len) := by
  have hfind : l.lines.find? (·.range.admitsRoute d len) =
      l.lines.find? (·.range.includesPrefix (Prefix.make d len)) :=
    List.find?_congr fun line hmem =>
      PrefixRange.admitsRoute_eq_includesPrefix (hnet line hmem) d hl (hshort line hmem)
  unfold permitsRoute permits
  cases hf : l.lines.find? (·.range.includesPrefix (Prefix.make d len)) <;> simp [hfind, hf]

namespace Term

variable {m : Model}

theorem eval_mkEq_int {a : Term} {x y : Int} (n : Nat) (ha : m.eval a = .ok (.int x)) :
    m.eval (mkEq n a (.int y)) = .ok (.bool (x == y)) := by
  unfold mkEq
  split
  · next hsame =>
    cases eq_of_same hsame
    cases ha
    simp
  · next hn =>
    split
    · next hl =>
      -- a literal with an integer value is that integer, and differs from `y`
      have ha' : a.isLit = true := by simp_all
      rcases isLit_cases ha' with ⟨b, rfl⟩ | ⟨i, rfl⟩ | ⟨v, w, rfl⟩ <;> simp [Model.eval] at ha
      have hxy : x ≠ y := fun h => hn (by simp [same, ha, h])
      simp [hxy]
    · split
      · next h => cases value_of_asBool? h ha
      · next h => cases value_of_asBool? h ha
      · next h _ _ => simp [asBool?] at h
      · next h _ _ => simp [asBool?] at h
      · simpa using Model.eval_eq (n := n) (b := .int y) ha rfl

theorem eval_mkBvAnd_lit {a : Term} {x : Nat} (n y : Nat) (hs : a.sort = .bitVec 32)
    (ha : m.eval a = .ok (.bv x)) (hx : x < 2 ^ 32) :
    m.eval (mkBvAnd n a (.bv y 32)) = .ok (.bv (x &&& y)) := by
  cases a with
  | bv x' w =>
    simp only [Model.eval, Except.ok.injEq, Value.bv.injEq] at ha
    subst ha
    simp only [sort, TermSort.bitVec.injEq] at hs
    subst hs
    have hm : x' &&& y &&& bvMask 32 = x' &&& y := by
      rw [show bvMask 32 = 2 ^ 32 - 1 from rfl, Nat.and_two_pow_sub_one_eq_mod]
      exact Nat.mod_eq_of_lt (lt_of_le_of_lt Nat.and_le_left hx)
    simp only [mkBvAnd, mkBv, hm, Model.eval]
  | _ => exact Model.eval_bvAnd ha rfl

end Term

namespace PacketFormula

open Build

variable {m : Model}

theorem builds_bvAnd_lit {x : Term} {v : Nat} (y : Nat) (hs : x.sort = .bitVec 32)
    (hx : m.eval x = .ok (.bv v)) (hv : v < 2 ^ 32) :
    Builds (bvAnd x (.bv y 32)) fun t => m.eval t = .ok (.bv (v &&& y)) ∧ t.sort = .bitVec 32 :=
  fun c => ⟨Term.eval_mkBvAnd_lit c.nextNode y hs hx hv, (sort_mkBvAnd c.nextNode x _).trans hs⟩

/-- The leading bits of a 32-bit term with value `v` are those of a network prefix exactly when
the prefix contains the address `v`. -/
theorem builds_firstBitsEqual_of_eval {x : Term} {v : Nat} {p : Prefix}
    (hs : x.sort = .bitVec 32) (hx : m.eval x = .ok (.bv v)) (hv : v < 2 ^ 32) (hp : p.IsNetwork) :
    Builds (firstBitsEqual x p) fun t => m.eval t = .ok (.bool (p.containsIp (Ip.ofNat v))) := by
  have hip : (Ip.ofNat v).toNat = v := by
    simp only [Ip.ofNat, Ip.toNat, Nat.toUInt32, UInt32.toNat_ofNat']
    exact Nat.mod_eq_of_lt hv
  unfold firstBitsEqual
  split
  · next hlen =>
    -- the empty prefix is the network 0.0.0.0, which contains every address
    have hzero : p.ip.bits = 0 := by simpa [Prefix.IsNetwork, hlen, maskOf] using hp.symm
    exact Builds.pure (by simp [Prefix.containsIp, hlen, maskOf, hzero])
  · dsimp only
    rw [show (maskOf p.len).toNat = Ip.toNat ⟨maskOf p.len⟩ from rfl, mkBv_ip, mkBv_ip]
    refine (builds_bvAnd_lit _ hs hx hv).bind fun a ha => ?_
    refine (builds_bvAnd_lit (m := m) _ rfl rfl p.start.bits.toNat_lt).bind fun b hb => ?_
    refine (builds_equals ha.1 hb.1 (ha.2.trans hb.2.symm) ?_ ?_).mono fun t ht => ?_
    · rw [ha.2]; rfl
    · rw [hb.2]; rfl
    · rw [ht, containsIp_eq_masked hp, hip, Term.bv_beq_bv]
      rfl

end PacketFormula

/-- The tests on prefixes are exact: containment is inclusion of address sets, two address sets
meet exactly when one prefix contains the other, a route is relevant to a header space exactly
when it shares an address with one of the space's destinations, and the formula for the leading
bits of a 32-bit term is the address test on the term's value. -/
theorem prefix_tests_exact {a b p : Prefix} (ha : a.WellFormed) (hb : b.WellFormed)
    (hp : p.WellFormed) :
    (a.containsPrefix b ↔ ∀ ip, b.containsIp ip → a.containsIp ip) ∧
    ((∃ ip, a.containsIp ip ∧ b.containsIp ip) ↔ a.containsPrefix b ∨ b.containsPrefix a) ∧
    (∀ hs : HeaderSpace, (∀ d ∈ hs.dstIps, d.WellFormed) →
      (hs.relevantPrefix p ↔
        hs.dstIps = [] ∨ ∃ d ∈ hs.dstIps, ∃ ip, d.containsIp ip ∧ p.containsIp ip)) ∧
    (∀ (x : Term) (m : Model) (v : Nat) (c : Context), x.sort = .bitVec 32 →
      m.eval x = .ok (.bv v) → v < 2 ^ 32 →
      m.evalBool ((PacketFormula.firstBitsEqual x p).run c).1 = .ok (p.containsIp (Ip.ofNat v))) :=
  ⟨Prefix.containsPrefix_iff_subset ha hb, Prefix.meet_iff ha.network hb.network,
    fun _ hd => HeaderSpace.relevantPrefix_iff (fun d hmem => (hd d hmem).network) hp.network,
    fun _ _ _ c hs hx hv => Model.evalBool_of_eval
      (PacketFormula.builds_firstBitsEqual_of_eval hs hx hv hp.network c)⟩

def tenNet : Prefix := Prefix.make ⟨0x0A000000⟩ 8
def tenOneNet : Prefix := Prefix.make ⟨0x0A010000⟩ 16
def tenOneTwoNet : Prefix := Prefix.make ⟨0x0A010200⟩ 24

theorem prefix_tests_exact_on_ten :
    tenNet.WellFormed ∧ tenOneNet.WellFormed ∧ tenOneTwoNet.WellFormed ∧
    ((tenNet.containsPrefix tenOneNet ↔ ∀ ip, tenOneNet.containsIp ip → tenNet.containsIp ip) ∧
    ((∃ ip, tenNet.containsIp ip ∧ tenOneNet.containsIp ip) ↔
      tenNet.containsPrefix tenOneNet ∨ tenOneNet.containsPrefix tenNet) ∧
    (∀ hs : HeaderSpace, (∀ d ∈ hs.dstIps, d.WellFormed) →
      (hs.relevantPrefix tenOneTwoNet ↔ hs.dstIps = [] ∨
        ∃ d ∈ hs.dstIps, ∃ ip, d.containsIp ip ∧ tenOneTwoNet.containsIp ip)) ∧
    (∀ (x : Term) (m : Model) (v : Nat) (c : Context), x.sort = .bitVec 32 →
      m.eval x = .ok (.bv v) → v < 2 ^ 32 →
      m.evalBool ((PacketFormula.firstBitsEqual x tenOneTwoNet).run c).1 =
        .ok (tenOneTwoNet.containsIp (Ip.ofNat v)))) :=
  ⟨Prefix.make_wellFormed _ _, Prefix.make_wellFormed _ _, Prefix.make_wellFormed _ _,
    prefix_tests_exact (Prefix.make_wellFormed _ _) (Prefix.make_wellFormed _ _)
      (Prefix.make_wellFormed _ _)⟩

namespace TransferFunction

open Transfer Build Encode

variable {α β : Type} {t : TransferFunction} {r : Route} {P : α → Prop} {Q : β → Prop}

/-- Every run of the step under the transfer function `t` from the working route `r`, from any
context, succeeds, leaves the working route as it is, and returns a value with `P`. -/
def Keeps (t : TransferFunction) (r : Route) (x : Eval α) (P : α → Prop) : Prop :=
  Succeeds ((x.run t).run r) fun p => p.2 = r ∧ P p.1

theorem Keeps.pure {a : α} (h : P a) : Keeps t r (Pure.pure a) P := Succeeds.pure ⟨rfl, h⟩

theorem Keeps.bind {x : Eval α} {f : α → Eval β} (hx : Keeps t r x P)
    (hf : ∀ a, P a → Keeps t r (f a) Q) : Keeps t r (x >>= f) Q := by
  unfold Keeps at *
  simp only [ReaderT.run_bind, StateT.run_bind]
  refine hx.bind fun p hp => ?_
  obtain ⟨a, r'⟩ := p
  obtain ⟨rfl, ha⟩ := hp
  exact hf a ha

theorem Keeps.mono {x : Eval α} {P' : α → Prop} (hx : Keeps t r x P) (h : ∀ a, P a → P' a) :
    Keeps t r x P' :=
  Succeeds.mono hx fun _ hp => ⟨hp.1, h _ hp.2⟩

theorem Keeps.read_bind {f : TransferFunction → Eval α} (h : Keeps t r (f t) P) :
    Keeps t r (read >>= f) P := h

theorem Keeps.get_bind {f : Route → Eval α} (h : Keeps t r (f r) P) : Keeps t r (get >>= f) P := h

theorem Keeps.liftEncode {y : Encode α} (h : Succeeds y P) : Keeps t r (liftM y : Eval α) P :=
  h.bind fun _ ha => Succeeds.pure ⟨rfl, ha⟩

theorem Keeps.liftBuild {x : Build α} (h : Builds x P) : Keeps t r (liftM x : Eval α) P :=
  Keeps.liftEncode (Succeeds.lift h)

section PrefixSets

variable {m : Model} {d : Ip} {l : Nat} {len : Term}

/-- Building one boolean term per element gives a list whose disjunction is that of the
elements' booleans. -/
theorem Keeps.mapM_any {γ : Type} {f : γ → Eval Term} {g : γ → Bool} :
    ∀ {xs : List γ}, (∀ y ∈ xs, Keeps t r (f y) fun b => m.eval b = .ok (.bool (g y))) →
      Keeps t r (xs.mapM f) fun bs => m.evalAny bs = .ok (xs.any g)
  | [], _ => Keeps.pure rfl
  | y :: xs, h => by
    rw [List.mapM_cons]
    refine (h y List.mem_cons_self).bind fun b hb => ?_
    refine (Keeps.mapM_any fun z hz => h z (List.mem_cons_of_mem _ hz)).bind fun bs hbs => ?_
    refine Keeps.pure ?_
    rw [Model.evalAny_cons _ hb, List.any_cons]
    cases g y
    · exact hbs
    · rfl

/-- Under a model that gives the packet's 32-bit destination the value `d` and the length term the
value `l`, a range's test holds exactly when the range admits the route. -/
theorem keeps_relevantFor (hs : t.slice.packet.dstIp.sort = .bitVec 32)
    (hd : m.eval t.slice.packet.dstIp = .ok (.bv d.toNat)) (hl : m.eval len = .ok (.int l))
    {range : PrefixRange} (hnet : range.net.IsNetwork) :
    Keeps t r (relevantFor len range) fun b => m.eval b = .ok (.bool (range.admitsRoute d l)) := by
  have hin := PacketFormula.builds_firstBitsEqual_of_eval hs hd d.bits.toNat_lt hnet
  rw [show Ip.ofNat d.toNat = d from congrArg Ip.mk UInt32.ofNat_toNat] at hin
  unfold relevantFor
  refine Keeps.read_bind ((Keeps.liftBuild hin).bind fun inPrefix hpre => ?_)
  dsimp only
  split
  · next heq =>
    have hlen : Builds (equals len (.int range.lengths.start)) fun b =>
        m.eval b = .ok (.bool (range.lengths.includes l)) := fun c => by
      rw [show range.lengths.includes l = ((l : Int) == range.lengths.start) by
        simp only [SubRange.includes, beq_iff_eq] at heq ⊢
        rw [Bool.eq_iff_iff]
        simp
        omega]
      exact Term.eval_mkEq_int c.nextNode hl
    refine (Keeps.liftBuild hlen).bind fun inLen hin => ?_
    exact (Keeps.liftBuild (builds_both hpre hin)).mono fun b hb => by
      rw [hb, PrefixRange.admitsRoute]
  · refine (Keeps.liftBuild (builds_le rfl hl)).bind fun lo hlo => ?_
    refine (Keeps.liftBuild (builds_le hl rfl)).bind fun hi hhi => ?_
    refine (Keeps.liftBuild (builds_both hlo hhi)).bind fun inLen hin => ?_
    exact (Keeps.liftBuild (builds_both hpre hin)).mono fun b hb => by
      rw [hb, PrefixRange.admitsRoute, SubRange.includes]
      simp

/-- The chain of if-then-else over the lines, built from the last: the first line whose test
holds decides, and the chain ends in `false`. -/
theorem keeps_filterChain (hs : t.slice.packet.dstIp.sort = .bitVec 32)
    (hd : m.eval t.slice.packet.dstIp = .ok (.bv d.toNat)) (hl : m.eval len = .ok (.int l))
    (name : String) :
    ∀ lines : List RouteFilterLine, (∀ line ∈ lines, line.range.net.IsNetwork) →
      Keeps t r (lines.foldrM (fun line acc => relevantFor len line.range >>= fun b =>
          liftM (Build.cond b (.bool (line.action == .permit)) acc)) Term.ff)
        fun acc => m.eval acc = .ok (.bool ((⟨name, lines⟩ : RouteFilterList).permitsRoute d l))
  | [], _ => Keeps.pure rfl
  | line :: lines, h => by
    rw [List.foldrM_cons]
    refine (keeps_filterChain hs hd hl name lines fun x hx => h x (List.mem_cons_of_mem _ hx)).bind
      fun acc hacc => ?_
    refine (keeps_relevantFor hs hd hl (h line List.mem_cons_self)).bind fun b hb => ?_
    refine (Keeps.liftBuild (builds_cond hb rfl hacc)).mono fun e he => ?_
    rw [he, RouteFilterList.permitsRoute_cons]

theorem keeps_matchPrefixSet_named {name : String} {list : RouteFilterList}
    (hget : t.conf.routeFilterLists.get? name = some list)
    (hs : t.slice.packet.dstIp.sort = .bitVec 32)
    (hd : m.eval t.slice.packet.dstIp = .ok (.bv d.toNat))
    (hl : m.eval r.prefixLength = .ok (.int l))
    (hnet : ∀ line ∈ list.lines, line.range.net.IsNetwork) :
    Keeps t r (matchPrefixSet (.named name)) fun o =>
      m.eval o.returnValue = .ok (.bool (list.permitsRoute d l)) := by
  unfold matchPrefixSet
  refine Keeps.read_bind (Keeps.get_bind ?_)
  simp only [hget, pure_bind, List.foldlM_reverse]
  exact (keeps_filterChain hs hd hl list.name list.lines hnet).bind fun _ hacc => Keeps.pure hacc

/-- A list of ranges, other than one exact range of a network the router announces into BGP,
holds exactly when one of its ranges admits the route. -/
theorem keeps_matchPrefixSet_explicit {ranges : List PrefixRange} (hne : ranges ≠ [])
    (hspecial : ∀ rg, ranges = [rg] → rg.lengths.start = rg.lengths.finish →
      rg.lengths.start = rg.net.len → rg.net ∉ Graph.originatedNetworks t.conf .bgp)
    (hs : t.slice.packet.dstIp.sort = .bitVec 32)
    (hd : m.eval t.slice.packet.dstIp = .ok (.bv d.toNat))
    (hl : m.eval r.prefixLength = .ok (.int l))
    (hnet : ∀ rg ∈ ranges, rg.net.IsNetwork) :
    Keeps t r (matchPrefixSet (.explicit ranges)) fun o =>
      m.eval o.returnValue = .ok (.bool (ranges.any (·.admitsRoute d l))) := by
  have hany : Keeps t r (ranges.mapM (relevantFor r.prefixLength) >>= fun bs =>
      liftM (anyOf bs) >>= fun b => (Pure.pure { returnValue := b } : Eval Outcome)) fun o =>
        m.eval o.returnValue = .ok (.bool (ranges.any (·.admitsRoute d l))) :=
    (Keeps.mapM_any fun rg hrg => keeps_relevantFor hs hd hl (hnet rg hrg)).bind fun bs hbs =>
      (Keeps.liftBuild (builds_anyOf hbs)).bind fun b hb => Keeps.pure hb
  unfold matchPrefixSet
  refine Keeps.read_bind (Keeps.get_bind ?_)
  obtain ⟨rg, rest, rfl⟩ := List.exists_cons_of_ne_nil hne
  cases rest with
  | nil =>
    simp only
    split
    · next h =>
      simp only [Bool.and_eq_true, beq_iff_eq, List.contains_iff_mem] at h
      exact absurd h.2 (hspecial rg rfl h.1.1 h.1.2)
    · exact hany
  | cons rg' rest =>
    exact hany

end PrefixSets

end TransferFunction

open TransferFunction in
/-- Prefix sets as formulas: a named list holds when its first line matching the destination and
the length permits, a list of ranges when one range matches; these are the concrete verdicts
whenever every line accepting the length has a prefix no longer than it. -/
theorem prefix_sets_match_by_destination {t : TransferFunction} {r : Route} {m : Model} {d : Ip}
    {l : Nat} (hs : t.slice.packet.dstIp.sort = .bitVec 32)
    (hd : m.eval t.slice.packet.dstIp = .ok (.bv d.toNat))
    (hl : m.eval r.prefixLength = .ok (.int l)) :
    (∀ name list, t.conf.routeFilterLists.get? name = some list →
      (∀ line ∈ list.lines, line.range.net.IsNetwork) →
      t.Keeps r (matchPrefixSet (.named name))
        (fun o => m.evalBool o.returnValue = .ok (list.permitsRoute d l)) ∧
      (l ≤ 32 → (∀ line ∈ list.lines, line.range.lengths.includes l = true → line.range.net.len ≤ l) →
        list.permitsRoute d l = list.permits (Prefix.make d l))) ∧
    (∀ ranges : List PrefixRange, ranges ≠ [] → (∀ rg ∈ ranges, rg.net.IsNetwork) →
      (∀ rg, ranges = [rg] → rg.lengths.start = rg.lengths.finish →
        rg.lengths.start = rg.net.len → rg.net ∉ Graph.originatedNetworks t.conf .bgp) →
      t.Keeps r (matchPrefixSet (.explicit ranges))
        (fun o => m.evalBool o.returnValue = .ok (ranges.any (·.admitsRoute d l))) ∧
      (l ≤ 32 → (∀ rg ∈ ranges, rg.lengths.includes l = true → rg.net.len ≤ l) →
        ranges.any (·.admitsRoute d l) = ranges.any (·.includesPrefix (Prefix.make d l)))) := by
  refine ⟨fun name list hget hnet => ⟨?_, ?_⟩, fun ranges hne hnet hspecial => ⟨?_, ?_⟩⟩
  · exact (keeps_matchPrefixSet_named hget hs hd hl hnet).mono fun _ h => Model.evalBool_of_eval h
  · exact fun hl32 hshort => RouteFilterList.permitsRoute_eq_permits hnet d hl32 hshort
  · exact (keeps_matchPrefixSet_explicit hne hspecial hs hd hl hnet).mono
      fun _ h => Model.evalBool_of_eval h
  · intro hl32 hshort
    rw [Bool.eq_iff_iff]
    simp only [List.any_eq_true]
    exact exists_congr fun rg => and_congr_right fun hrg => by
      rw [PrefixRange.admitsRoute_eq_includesPrefix (hnet rg hrg) d hl32 (hshort rg hrg)]

def wideTenFilter : RouteFilterList :=
  ⟨"F", [⟨.permit, ⟨Prefix.make ⟨0x0A000000⟩ 8, ⟨0, 32⟩⟩⟩]⟩

/-- A transfer function of a router with the list `wideTenFilter`; the packet's destination is a
32-bit variable. -/
def filterTransfer : TransferFunction where
  slice := { (default : Slice) with
    packet := { (default : Packet) with dstIp := .var "dst-ip" (.bitVec 32) } }
  env := default
  conf := { (default : Configuration) with routeFilterLists := ⟨[("F", wideTenFilter)]⟩ }
  other := default
  current := default
  proto := .bgp
  statements := []
  cost := 0
  edge := default
  isExport := false

def shortRoute : Route := { (default : Route) with prefixLength := .var "len" .int }

def shortRouteModel : Model := (Model.set {} "dst-ip" (.bv 0x0B000000)).set "len" (.int 4)

theorem shortRouteModel_dst :
    shortRouteModel.eval filterTransfer.slice.packet.dstIp = .ok (.bv (Ip.toNat ⟨0x0B000000⟩)) := by
  simp [shortRouteModel, filterTransfer, Model.eval, Model.valueOf, Model.get?_set]
  rfl

theorem shortRouteModel_len : shortRouteModel.eval shortRoute.prefixLength = .ok (.int 4) := by
  simp [shortRouteModel, shortRoute, Model.eval, Model.valueOf, Model.get?_set]

open TransferFunction in
theorem prefix_sets_match_on_short_route :
    filterTransfer.slice.packet.dstIp.sort = .bitVec 32 ∧
    shortRouteModel.eval filterTransfer.slice.packet.dstIp = .ok (.bv (Ip.toNat ⟨0x0B000000⟩)) ∧
    shortRouteModel.eval shortRoute.prefixLength = .ok (.int (4 : Nat)) ∧
    filterTransfer.Keeps shortRoute (matchPrefixSet (.named "F"))
      (fun o => shortRouteModel.evalBool o.returnValue = .ok (wideTenFilter.permitsRoute ⟨0x0B000000⟩ 4)) :=
  ⟨rfl, shortRouteModel_dst, shortRouteModel_len,
    ((prefix_sets_match_by_destination rfl shortRouteModel_dst shortRouteModel_len).1 "F"
      wideTenFilter rfl (by decide)).1⟩

open TransferFunction in
/-- On a route shorter than a line's prefix the verdicts part: `10.0.0.0/8` with the lengths 0 to
32 permits `0.0.0.0/4`, the prefix of length 4 of `11.0.0.0`, while the formula asks for the
destination `11.0.0.0` in `10.0.0.0/8` and is false. -/
theorem filter_formula_rejects_short_route :
    filterTransfer.Keeps shortRoute (matchPrefixSet (.named "F"))
      (fun o => shortRouteModel.evalBool o.returnValue = .ok false) ∧
    wideTenFilter.permits (Prefix.make ⟨0x0B000000⟩ 4) = true :=
  ⟨(keeps_matchPrefixSet_named (d := ⟨0x0B000000⟩) rfl rfl shortRouteModel_dst shortRouteModel_len
      (by decide)).mono fun _ h => Model.evalBool_of_eval (h.trans (by decide)), by decide⟩

end ControlPlane
