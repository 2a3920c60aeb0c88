import ControlPlane.Proofs.Smt.Builder
import ControlPlane.Encoding.Acl
import ControlPlane.Report.Encoding

/-!
# Access lists as formulas agree with filtering

Under a model that gives the variables of a symbolic packet the header of a flow, the formula
of a header space is true exactly when the space admits the flow, and the formula of an access
list is true exactly when filtering the flow ends in a permit. The formula folds the lines from
the last into a chain of if-then-else while filtering stops at the first matching line; the two
meet line by line. Conditions that refer to other lists or to the receiving interface have no
formula, and compiling a list fails exactly when one of its lines uses one.

Both sides compare addresses under the prefix mask: the formula masks the prefix's address as
well, filtering does not. They agree on prefixes whose address is the network address, which
is every prefix `Prefix.make` builds.
-/

namespace ControlPlane

def Prefix.IsNetwork (p : Prefix) : Prop := p.ip.bits &&& maskOf p.len = p.ip.bits

instance (p : Prefix) : Decidable p.IsNetwork := inferInstanceAs (Decidable (_ = _))

theorem Prefix.make_isNetwork (ip : Ip) (len : Nat) : (Prefix.make ip len).IsNetwork := by
  simp [Prefix.make, Prefix.IsNetwork, UInt32.and_assoc]

def HeaderSpace.prefixes (hs : HeaderSpace) : List Prefix :=
  hs.dstIps ++ hs.notDstIps ++ hs.srcIps ++ hs.notSrcIps

namespace AclLineMatchExpr

mutual
/-- The condition has a formula: it refers neither to another access list nor to the
receiving interface. -/
def isSymbolic : AclLineMatchExpr → Bool
  | .always | .never | .matchHeaderSpace _ => true
  | .conj xs | .disj xs => allSymbolic xs
  | .negation x => isSymbolic x
  | .permittedByAcl _ | .matchSrcInterface _ => false
def allSymbolic : List AclLineMatchExpr → Bool
  | [] => true
  | x :: xs => isSymbolic x && allSymbolic xs
end

mutual
def prefixes : AclLineMatchExpr → List Prefix
  | .matchHeaderSpace hs => hs.prefixes
  | .conj xs | .disj xs => allPrefixes xs
  | .negation x => prefixes x
  | .always | .never | .permittedByAcl _ | .matchSrcInterface _ => []
def allPrefixes : List AclLineMatchExpr → List Prefix
  | [] => []
  | x :: xs => prefixes x ++ allPrefixes xs
end

end AclLineMatchExpr

namespace IpAccessList

def isSymbolic (acl : IpAccessList) : Bool := acl.lines.all (·.matcher.isSymbolic)

def prefixes (acl : IpAccessList) : List Prefix := acl.lines.flatMap (·.matcher.prefixes)

end IpAccessList

def Model.SetsVar (m : Model) (t : Term) (s : TermSort) (v : Value) : Prop :=
  ∃ x, t = .var x s ∧ m.get? x = some v

namespace Model.SetsVar

variable {m : Model} {t : Term} {s : TermSort} {v : Value}

theorem eval (h : m.SetsVar t s v) : m.eval t = .ok v := by
  obtain ⟨x, rfl, hx⟩ := h
  simp [Model.eval, Model.valueOf, hx]

theorem sort (h : m.SetsVar t s v) : t.sort = s := by
  obtain ⟨x, rfl, -⟩ := h
  rfl

theorem wellSorted (h : m.SetsVar t s v) : t.wellSorted := by
  obtain ⟨x, rfl, -⟩ := h
  rfl

end Model.SetsVar

/-- Under `m`, the variables of the packet hold the header of `f`: the addresses as 32-bit
vectors, the ports, ICMP fields and protocol as integers, the TCP flags as booleans. -/
structure Packet.Carries (m : Model) (f : Flow) (pkt : Packet) : Prop where
  dstIp : m.SetsVar pkt.dstIp (.bitVec 32) (.bv f.dstIp.toNat)
  srcIp : m.SetsVar pkt.srcIp (.bitVec 32) (.bv f.srcIp.toNat)
  dstPort : m.SetsVar pkt.dstPort .int (.int f.dstPort)
  srcPort : m.SetsVar pkt.srcPort .int (.int f.srcPort)
  icmpCode : m.SetsVar pkt.icmpCode .int (.int f.icmpCode)
  icmpType : m.SetsVar pkt.icmpType .int (.int f.icmpType)
  ipProtocol : m.SetsVar pkt.ipProtocol .int (.int f.ipProtocol)
  tcpAck : m.SetsVar pkt.tcpAck .bool (.bool f.tcpFlags.ack)
  tcpCwr : m.SetsVar pkt.tcpCwr .bool (.bool f.tcpFlags.cwr)
  tcpEce : m.SetsVar pkt.tcpEce .bool (.bool f.tcpFlags.ece)
  tcpFin : m.SetsVar pkt.tcpFin .bool (.bool f.tcpFlags.fin)
  tcpPsh : m.SetsVar pkt.tcpPsh .bool (.bool f.tcpFlags.psh)
  tcpRst : m.SetsVar pkt.tcpRst .bool (.bool f.tcpFlags.rst)
  tcpSyn : m.SetsVar pkt.tcpSyn .bool (.bool f.tcpFlags.syn)
  tcpUrg : m.SetsVar pkt.tcpUrg .bool (.bool f.tcpFlags.urg)

theorem Packet.Carries.flags {m : Model} {f : Flow} {pkt : Packet} (h : pkt.Carries m f) :
    ∀ p ∈ pkt.tcpFlags.zip f.tcpFlags.named, m.SetsVar p.1 .bool (.bool p.2.2) := by
  simp only [Packet.tcpFlags, TcpFlags.named, tcpFlagNames, List.zip_cons_cons, List.zip_nil_right,
    List.mem_cons, List.not_mem_nil, or_false]
  rintro _ (rfl | rfl | rfl | rfl | rfl | rfl | rfl | rfl)
  · exact h.tcpAck
  · exact h.tcpCwr
  · exact h.tcpEce
  · exact h.tcpFin
  · exact h.tcpPsh
  · exact h.tcpRst
  · exact h.tcpSyn
  · exact h.tcpUrg

namespace PacketFormula

open Build

section HeaderSpaces

variable {m : Model}

theorem mkBv_ip (ip : Ip) : Term.mkBv ip.toNat 32 = .bv ip.toNat 32 := by
  have hmask : ip.toNat &&& Term.bvMask 32 = ip.toNat := by
    rw [show Term.bvMask 32 = 2 ^ 32 - 1 from rfl, Nat.and_two_pow_sub_one_eq_mod]
    exact Nat.mod_eq_of_lt (UInt32.toNat_lt _)
  rw [Term.mkBv, hmask]

/-- For a network address, masking the address and comparing with the prefix is comparing both
under the mask. -/
theorem containsIp_eq_masked {p : Prefix} (hp : p.IsNetwork) (ip : Ip) :
    p.containsIp ip =
      (ip.toNat &&& (maskOf p.len).toNat == p.start.toNat &&& (maskOf p.len).toNat) := by
  have h : (ip.bits &&& maskOf p.len = p.ip.bits) ↔
      ip.toNat &&& (maskOf p.len).toNat = p.start.toNat &&& (maskOf p.len).toNat := by
    simp only [Ip.toNat, Prefix.start]
    rw [← UInt32.toNat_and, ← UInt32.toNat_and, UInt32.toNat_inj, hp]
  rw [Bool.eq_iff_iff]
  simp [Prefix.containsIp, h]

theorem builds_firstBitsEqual {x : Term} {ip : Ip} {p : Prefix}
    (hx : m.SetsVar x (.bitVec 32) (.bv ip.toNat)) (hp : p.IsNetwork) :
    Builds (firstBitsEqual x p) fun t => m.eval t = .ok (.bool (p.containsIp ip)) := by
  unfold firstBitsEqual
  split
  · next hlen =>
    -- the empty prefix is the network 0.0.0.0, which contains every address
    have hzero : p.ip.bits = 0 := by simpa [Prefix.IsNetwork, hlen, maskOf] using hp.symm
    exact Builds.pure (by simp [Prefix.containsIp, hlen, maskOf, hzero])
  · dsimp only
    rw [show (maskOf p.len).toNat = Ip.toNat ⟨maskOf p.len⟩ from rfl, mkBv_ip, mkBv_ip]
    have hmask : m.eval (.bv (Ip.toNat ⟨maskOf p.len⟩) 32) = .ok (.bv (maskOf p.len).toNat) := rfl
    have hval : m.eval (.bv p.start.toNat 32) = .ok (.bv p.start.toNat) := rfl
    have hw : (Term.bv p.start.toNat 32).wellSorted := by
      rw [← mkBv_ip, Term.mkBv, Term.wellSorted, Nat.and_assoc, Nat.and_self]
      exact beq_self_eq_true _
    refine (builds_bvAnd hx.eval hmask hx.wellSorted).bind fun a hxm => ?_
    refine (builds_bvAnd hval hmask hw).bind fun b hvm => ?_
    obtain ⟨ha, has⟩ := hxm
    obtain ⟨hb, hbs⟩ := hvm
    refine (builds_equals ha hb (by rw [has, hbs, hx.sort]; rfl) ?_ ?_).mono fun t ht => ?_
    · rw [has, hx.sort]; rfl
    · rw [hbs]; rfl
    · rw [ht, containsIp_eq_masked hp, Term.bv_beq_bv]

theorem builds_isValue {x : Term} {v : Nat} (hx : m.SetsVar x .int (.int v)) (p : Nat) :
    Builds (equals x (.int p)) fun t => m.eval t = .ok (.bool (p == v)) := by
  refine (builds_equals (b := .int p) hx.eval rfl hx.sort (by rw [hx.sort]; rfl) rfl).mono
    fun t ht => ?_
  have hbeq : ((v : Int) == p) = (p == v) := by
    rw [Bool.eq_iff_iff]
    simp only [beq_iff_eq, Int.natCast_inj]
    exact eq_comm
  rw [ht, Term.int_beq_int, hbeq]

theorem builds_inRange {x : Term} {v : Nat} (hx : m.SetsVar x .int (.int v)) (r : SubRange) :
    Builds (inRange x r) fun t => m.eval t = .ok (.bool (r.includes v)) := by
  unfold inRange
  split
  · next heq =>
    refine (builds_isValue hx r.start).mono fun t ht => ?_
    rw [ht, SubRange.includes, ← heq]
    congr 2
    rw [Bool.eq_iff_iff]
    simp only [beq_iff_eq, Bool.and_eq_true, decide_eq_true_eq]
    omega
  · refine (builds_le rfl hx.eval).bind fun a ha => ?_
    refine (builds_le hx.eval rfl).bind fun b hb => ?_
    refine (builds_both ha hb).mono fun t ht => ?_
    simpa [SubRange.includes] using ht

/-- Either no value is given or some given value matches; what follows is built on that
term. Both the admitted values of a field and the flag constraints are built this way. -/
theorem builds_anyIfGiven {β γ : Type} {xs : List β} {f : β → Build Term} {g : β → Bool}
    {k : Term → Build γ} {Q : γ → Prop}
    (hf : ∀ y ∈ xs, Builds (f y) fun t => m.eval t = .ok (.bool (g y)))
    (hk : ∀ a, m.eval a = .ok (.bool (xs.isEmpty || xs.any g)) → Builds (k a) Q) :
    Builds (if xs.isEmpty then pure Term.tt >>= k else xs.mapM f >>= fun ts => anyOf ts >>= k) Q := by
  split
  · next h =>
    refine (Builds.pure (P := fun t => m.eval t = .ok (.bool true)) rfl).bind fun a ha => ?_
    exact hk a (by simp [h, ha])
  · next h =>
    refine (builds_mapM_bool hf).bind fun ts hts => (builds_anyOf hts.2).bind fun a ha => ?_
    exact hk a (by simp [h, ha])

theorem builds_constrain {β : Type} {pos neg : List β} {f : β → Build Term} {g : β → Bool}
    (hf : ∀ y ∈ pos ++ neg, Builds (f y) fun t => m.eval t = .ok (.bool (g y))) :
    Builds (constrain pos neg f) fun t =>
      m.eval t = .ok (.bool ((pos.isEmpty || pos.any g) && !neg.any g)) := by
  unfold constrain
  extract_lets excluded
  refine builds_anyIfGiven (fun y hy => hf y (List.mem_append_left _ hy)) fun a ha => ?_
  refine (builds_mapM_bool fun y hy => hf y (List.mem_append_right _ hy)).bind fun ts hts => ?_
  refine (builds_anyOf hts.2).bind fun b hb => ?_
  refine (builds_neg hb).bind fun c hc => ?_
  exact builds_both ha hc

/-- The tests of the constrained flags, the variables and the flow's flags taken in step: their
conjunction is whether every constrained flag has the required value. -/
theorem builds_flagTests : ∀ {wants : List (String × Option Bool)} {vars : List Term}
    {flags : List (String × Bool)}, vars.length = flags.length →
    (∀ p ∈ vars.zip flags, m.SetsVar p.1 .bool (.bool p.2.2)) →
    Builds ((wants.zip vars).filterMapM fun ((_, want), var) =>
        match want with
        | some w => some <$> Build.equals var (.bool w)
        | none => pure none)
      fun ts => m.evalAll ts = .ok ((wants.zip flags).all fun ((_, want), (_, have_)) =>
        want.all (· == have_))
  | [], _, _, _, _ => Builds.pure rfl
  | _ :: _, [], [], _, _ => Builds.pure rfl
  | (_, want) :: wants, var :: vars, (_, b) :: flags, hlen, hv => by
    have hvar : m.SetsVar var .bool (.bool b) := hv _ (List.mem_cons_self ..)
    have ih := @builds_flagTests wants vars flags (by simpa using hlen)
      fun p hp => hv p (List.mem_cons_of_mem _ hp)
    rw [List.zip_cons_cons, List.zip_cons_cons, List.filterMapM_cons]
    cases want with
    | none => simpa using ih
    | some w =>
      refine (Builds.map (builds_equals (b := .bool w) hvar.eval rfl hvar.sort ?_ rfl)).bind
        fun o ho => ?_
      · rw [hvar.sort]; rfl
      · obtain ⟨t, rfl, ht⟩ := ho
        refine ih.bind fun ts hts => Builds.pure ?_
        rw [Model.evalAll_cons _ ht, List.all_cons]
        cases b <;> cases w <;> simp [hts]

/-- The formula of a header space, under a model in which the packet carries a flow, is
whether the space admits the flow. -/
theorem builds_headerSpace {f : Flow} {pkt : Packet} (hc : pkt.Carries m f) {hs : HeaderSpace}
    (hn : ∀ p ∈ hs.prefixes, p.IsNetwork) :
    Builds (headerSpace pkt hs) fun t => m.eval t = .ok (.bool (hs.admits f)) := by
  have hsrc : ∀ p ∈ hs.srcIps ++ hs.notSrcIps, p.IsNetwork := fun p hp => hn p (by
    simp only [HeaderSpace.prefixes, List.mem_append] at hp ⊢
    rcases hp with hp | hp <;> simp [hp])
  have hdst : ∀ p ∈ hs.dstIps ++ hs.notDstIps, p.IsNetwork := fun p hp => hn p (by
    simp only [HeaderSpace.prefixes, List.mem_append] at hp ⊢
    simp [hp])
  have hlen : pkt.tcpFlags.length = f.tcpFlags.named.length := rfl
  unfold headerSpace
  extract_lets fields
  refine builds_anyIfGiven (m := m) (g := (·.admits f.tcpFlags))
    (fun y _ => (builds_flagTests hlen hc.flags).bind fun ws hws => builds_allOf hws)
    fun tcp htcp => ?_
  refine (builds_constrain fun p hp => builds_firstBitsEqual hc.dstIp (hdst p hp)).bind
    fun t₁ h₁ => ?_
  refine (builds_constrain fun p hp => builds_firstBitsEqual hc.srcIp (hsrc p hp)).bind
    fun t₂ h₂ => ?_
  refine (builds_constrain fun r _ => builds_inRange hc.dstPort r).bind fun t₃ h₃ => ?_
  refine (builds_constrain fun r _ => builds_inRange hc.srcPort r).bind fun t₄ h₄ => ?_
  refine (builds_constrain fun p _ => builds_isValue hc.ipProtocol p).bind fun t₅ h₅ => ?_
  refine (builds_constrain fun r _ => builds_inRange hc.icmpType r).bind fun t₆ h₆ => ?_
  refine (builds_constrain fun r _ => builds_inRange hc.icmpCode r).bind fun t₇ h₇ => ?_
  have hall := Model.evalAll_cons_ok h₁ <| Model.evalAll_cons_ok h₂ <| Model.evalAll_cons_ok h₃ <|
    Model.evalAll_cons_ok h₄ <| Model.evalAll_cons_ok h₅ <| Model.evalAll_cons_ok h₆ <|
    Model.evalAll_cons_ok h₇ <| Model.evalAll_cons_ok htcp (rfl : m.evalAll [] = .ok true)
  refine (builds_allOf hall).mono fun t ht => ?_
  rw [ht]
  simp [HeaderSpace.admits, HeaderSpace.ipIn, HeaderSpace.numIn, Bool.and_assoc]

end HeaderSpaces

section AccessLists

variable {pkt : Packet} {acl : String} (depth : Nat) (acls : NameMap IpAccessList)

open Encode

mutual
/-- A condition with a formula compiles, and under every model in which the packet carries a
flow the formula has the value that filtering gives the condition. -/
theorem matchExpr_agrees : ∀ e : AclLineMatchExpr, e.isSymbolic = true →
    Succeeds (matchExpr pkt acl e) fun t => ∀ (m : Model) (f : Flow), pkt.Carries m f →
      (∀ p ∈ e.prefixes, p.IsNetwork) →
      ∃ b, IpAccessList.matchExpr depth e f acls = .ok b ∧ m.eval t = .ok (.bool b)
  | .always, _ => by
    rw [matchExpr]
    exact Succeeds.pure fun m f _ _ => ⟨true, by rw [IpAccessList.matchExpr], rfl⟩
  | .never, _ => by
    rw [matchExpr]
    exact Succeeds.pure fun m f _ _ => ⟨false, by rw [IpAccessList.matchExpr], rfl⟩
  | .matchHeaderSpace hs, _ => by
    rw [matchExpr]
    exact Succeeds.lift fun c m f hc hn =>
      ⟨hs.admits f, by rw [IpAccessList.matchExpr], builds_headerSpace hc hn c⟩
  | .conj xs, h => by
    rw [matchExpr]
    refine (matchEach_agrees xs h).bind fun ts hts => Succeeds.lift fun c m f hc hn => ?_
    obtain ⟨⟨b, hb, hev⟩, -⟩ := hts m f hc hn
    exact ⟨b, by rw [IpAccessList.matchExpr, hb], builds_allOf hev c⟩
  | .disj xs, h => by
    rw [matchExpr]
    refine (matchEach_agrees xs h).bind fun ts hts => Succeeds.lift fun c m f hc hn => ?_
    obtain ⟨-, b, hb, hev⟩ := hts m f hc hn
    exact ⟨b, by rw [IpAccessList.matchExpr, hb], builds_anyOf hev c⟩
  | .negation x, h => by
    rw [matchExpr]
    refine (matchExpr_agrees x h).bind fun t ht => Succeeds.lift fun c m f hc hn => ?_
    obtain ⟨b, hb, hev⟩ := ht m f hc hn
    exact ⟨!b, by rw [IpAccessList.matchExpr, hb]; rfl, builds_neg hev c⟩
  | .permittedByAcl _, h | .matchSrcInterface _, h => by simp [AclLineMatchExpr.isSymbolic] at h
/-- The formulas of conditions with formulas: their conjunction and disjunction have the
values that filtering gives all and some of the conditions. -/
theorem matchEach_agrees : ∀ xs : List AclLineMatchExpr, AclLineMatchExpr.allSymbolic xs = true →
    Succeeds (matchEach pkt acl xs) fun ts => ∀ (m : Model) (f : Flow), pkt.Carries m f →
      (∀ p ∈ AclLineMatchExpr.allPrefixes xs, p.IsNetwork) →
      (∃ b, IpAccessList.matchAll depth xs f acls = .ok b ∧ m.evalAll ts = .ok b) ∧
      (∃ b, IpAccessList.matchAny depth xs f acls = .ok b ∧ m.evalAny ts = .ok b)
  | [], _ => by
    rw [matchEach]
    exact Succeeds.pure fun m f _ _ =>
      ⟨⟨true, by rw [IpAccessList.matchAll], rfl⟩, false, by rw [IpAccessList.matchAny], rfl⟩
  | x :: xs, h => by
    have hx : x.isSymbolic = true ∧ AclLineMatchExpr.allSymbolic xs = true := by
      simpa [AclLineMatchExpr.allSymbolic] using h
    rw [matchEach]
    refine (matchExpr_agrees x hx.1).bind fun t ht => ?_
    refine (matchEach_agrees xs hx.2).bind fun ts hts => Succeeds.pure fun m f hc hn => ?_
    simp only [AclLineMatchExpr.allPrefixes, List.mem_append] at hn
    obtain ⟨b, hb, hev⟩ := ht m f hc fun p hp => hn p (.inl hp)
    obtain ⟨⟨c, hc₁, hall⟩, d, hd, hany⟩ := hts m f hc fun p hp => hn p (.inr hp)
    refine ⟨⟨b && c, ?_, Model.evalAll_cons_ok hev hall⟩, b || d, ?_, Model.evalAny_cons_ok hev hany⟩
    · rw [IpAccessList.matchAll, hb]
      cases b <;> simp [hc₁, bind, Except.bind, pure, Except.pure]
    · rw [IpAccessList.matchAny, hb]
      cases b <;> simp [hd, bind, Except.bind, pure, Except.pure]
end

def Unsupported (acl : String) (err : EncodingError) : Prop :=
  ∃ text, err = .unsupportedAclMatch acl text

mutual
theorem matchExpr_fails : ∀ e : AclLineMatchExpr, e.isSymbolic = false →
    Fails (matchExpr pkt acl e) (Unsupported acl)
  | .always, h | .never, h | .matchHeaderSpace _, h => by simp [AclLineMatchExpr.isSymbolic] at h
  | .conj xs, h | .disj xs, h => by
    rw [matchExpr]
    exact (matchEach_fails xs h).bind_left
  | .negation x, h => by
    rw [matchExpr]
    exact (matchExpr_fails x h).bind_left
  | .permittedByAcl _, _ | .matchSrcInterface _, _ => by
    rw [matchExpr]
    exact Fails.throw ⟨_, rfl⟩
/-- Conditions of which one has no formula fail to compile: the conditions before it compile,
that one fails. -/
theorem matchEach_fails : ∀ xs : List AclLineMatchExpr,
    AclLineMatchExpr.allSymbolic xs = false → Fails (matchEach pkt acl xs) (Unsupported acl)
  | [], h => by simp [AclLineMatchExpr.allSymbolic] at h
  | x :: xs, h => by
    rw [matchEach]
    cases hx : x.isSymbolic
    · exact (matchExpr_fails x hx).bind_left
    · have hxs : AclLineMatchExpr.allSymbolic xs = false := by
        simpa [AclLineMatchExpr.allSymbolic, hx] using h
      exact Fails.bind_right (matchExpr_agrees 0 {} x hx) fun _ _ =>
        (matchEach_fails xs hxs).bind_left
end

section Lines

variable {name : String} {step : AclLine → Term → Encode Term}

/-- Folding the lines from the last: each line's condition chooses between the line's action
and what the later lines decide, which is how filtering takes the first matching line. -/
theorem foldLines_agrees (hstep : ∀ line acc, step line acc =
      matchExpr pkt name line.matcher >>= fun t =>
        liftM (Build.cond t (.bool (line.action == .permit)) acc)) :
    ∀ (lines : List AclLine) (i : Nat), lines.all (·.matcher.isSymbolic) = true →
      Succeeds (lines.foldrM step Term.ff) fun t => ∀ (m : Model) (f : Flow), pkt.Carries m f →
        (∀ p ∈ lines.flatMap (·.matcher.prefixes), p.IsNetwork) →
        ∃ r, IpAccessList.filterLines depth i lines f acls = .ok r ∧
          m.eval t = .ok (.bool (r.action == .permit))
  | [], _, _ => Succeeds.pure fun _ _ _ _ => ⟨⟨none, .deny⟩, by rw [IpAccessList.filterLines], rfl⟩
  | l :: ls, i, h => by
    simp only [List.all_cons, Bool.and_eq_true] at h
    rw [List.foldrM_cons]
    refine (foldLines_agrees hstep ls (i + 1) h.2).bind fun acc hacc => ?_
    rw [hstep]
    refine (matchExpr_agrees depth acls l.matcher h.1).bind fun t ht =>
      Succeeds.lift fun c m f hc hn => ?_
    simp only [List.flatMap_cons, List.mem_append] at hn
    obtain ⟨b, hb, hev⟩ := ht m f hc fun p hp => hn p (.inl hp)
    obtain ⟨r, hr, hrest⟩ := hacc m f hc fun p hp => hn p (.inr hp)
    refine ⟨if b then ⟨some i, l.action⟩ else r, ?_, ?_⟩
    · rw [IpAccessList.filterLines, hb]
      cases b <;> simp [hr, bind, Except.bind, pure, Except.pure]
    · cases b <;> exact builds_cond hev rfl hrest c

/-- Lines of which one has no formula fail to compile: the later lines compile, that one
fails. -/
theorem foldLines_fails (hstep : ∀ line acc, step line acc =
      matchExpr pkt name line.matcher >>= fun t =>
        liftM (Build.cond t (.bool (line.action == .permit)) acc)) :
    ∀ lines : List AclLine, lines.all (·.matcher.isSymbolic) = false →
      Fails (lines.foldrM step Term.ff) (Unsupported name)
  | [], h => by simp at h
  | l :: ls, h => by
    rw [List.foldrM_cons]
    cases hls : ls.all (·.matcher.isSymbolic)
    · exact (foldLines_fails hstep ls hls).bind_left
    · have hl : l.matcher.isSymbolic = false := by simpa [hls] using h
      refine Fails.bind_right (foldLines_agrees 0 {} hstep ls 0 hls)
        fun acc _ => ?_
      rw [hstep]
      exact (matchExpr_fails l.matcher hl).bind_left

end Lines

/-- An access list whose conditions have formulas compiles, and under every model in which the
packet carries a flow the formula says whether filtering the flow permits it. -/
theorem compileAcl_agrees (acl : IpAccessList) (h : acl.isSymbolic = true) :
    Succeeds (compileAcl pkt acl) fun t => ∀ (m : Model) (f : Flow), pkt.Carries m f →
      (∀ p ∈ acl.prefixes, p.IsNetwork) →
      ∃ r, acl.filter depth f acls = .ok r ∧ m.eval t = .ok (.bool (r.action == .permit)) := by
  rw [compileAcl, List.foldlM_reverse]
  refine (foldLines_agrees depth acls (fun _ _ => rfl) acl.lines 0 h).mono
    fun t ht m f hc hn => ?_
  rw [IpAccessList.filter]
  exact ht m f hc hn

theorem compileAcl_fails (acl : IpAccessList) (h : acl.isSymbolic = false) :
    Fails (compileAcl pkt acl) (Unsupported acl.name) := by
  rw [compileAcl, List.foldlM_reverse]
  exact foldLines_fails (fun _ _ => rfl) acl.lines h

end AccessLists

end PacketFormula

def Packet.named (pre : String) : Packet where
  dstIp := .var (pre ++ "dst-ip") (.bitVec 32)
  srcIp := .var (pre ++ "src-ip") (.bitVec 32)
  dstPort := .var (pre ++ "dst-port") .int
  srcPort := .var (pre ++ "src-port") .int
  icmpCode := .var (pre ++ "icmp-code") .int
  icmpType := .var (pre ++ "icmp-type") .int
  ipProtocol := .var (pre ++ "ip-protocol") .int
  tcpAck := .var (pre ++ "tcp-ack") .bool
  tcpCwr := .var (pre ++ "tcp-cwr") .bool
  tcpEce := .var (pre ++ "tcp-ece") .bool
  tcpFin := .var (pre ++ "tcp-fin") .bool
  tcpPsh := .var (pre ++ "tcp-psh") .bool
  tcpRst := .var (pre ++ "tcp-rst") .bool
  tcpSyn := .var (pre ++ "tcp-syn") .bool
  tcpUrg := .var (pre ++ "tcp-urg") .bool

/-- In a context that has no name starting with `pre`, every field gets a new variable: the
field names differ, so no field finds the variable of an earlier one. -/
theorem Packet.new_fresh {pre : String} {c : Context}
    (hfresh : ∀ s, c.index.get? (pre ++ s) = none) :
    ((Packet.new pre).run c).1 = Packet.named pre := by
  have hrun : Build.Triple (Build.FreshUnder pre []) (Packet.new pre) fun p _ =>
      p = Packet.named pre := by
    unfold Packet.new
    dsimp only
    -- one registration per field, each name new among the names registered before it
    repeat refine Build.Triple.bind_eq (Build.triple_mkVar_fresh (by decide) _) ?_
    exact fun _ _ => rfl
  exact hrun c fun s _ => by simpa using hfresh s

theorem Packet.named_carries (pre : String) (f : Flow) :
    (Packet.named pre).Carries (Report.flowModel pre f) f := by
  constructor <;> refine ⟨_, rfl, ?_⟩ <;>
    simp +decide only [-String.reduceEq, -String.reduceNe, Report.flowModel, Model.set, Model.get?,
      List.foldl, TcpFlags.named, tcpFlagNames, List.zip_cons_cons, List.zip_nil_left,
      Std.HashMap.get?_eq_getElem?, Std.HashMap.getElem?_insert, beq_iff_eq, String.append_right_inj,
      String.append_assoc, if_false, if_true, Ip.toNat]

open PacketFormula Encode in
/-- The symbolic packet of a flow, evaluated under the flow's model: a header space's formula is
whether the space admits the flow; an access list whose conditions all have formulas compiles,
and its formula is whether filtering permits the flow; and compiling fails with an unsupported
condition of the list exactly when some condition has no formula. -/
theorem acl_formulas_agree_with_filtering (pre : String) (f : Flow) (c : Context)
    (hfresh : ∀ s, c.index.get? (pre ++ s) = none) :
    (∀ (hs : HeaderSpace) (c' : Context), (∀ p ∈ hs.prefixes, p.IsNetwork) →
      (Report.flowModel pre f).evalBool ((headerSpace ((Packet.new pre).run c).1 hs).run c').1 =
        .ok (hs.admits f)) ∧
    (∀ (acl : IpAccessList) (acls : NameMap IpAccessList) (c' : Context),
      acl.isSymbolic = true → (∀ p ∈ acl.prefixes, p.IsNetwork) →
      ∃ t r, ((compileAcl ((Packet.new pre).run c).1 acl).runOn c').1 = .ok t ∧
        acl.run f acls = .ok r ∧ (Report.flowModel pre f).evalBool t = .ok (r.action == .permit)) ∧
    (∀ (acl : IpAccessList) (c' : Context),
      (∃ text, ((compileAcl ((Packet.new pre).run c).1 acl).runOn c').1 =
        .error (.unsupportedAclMatch acl.name text)) ↔ acl.isSymbolic = false) := by
  have hc := Packet.named_carries pre f
  rw [Packet.new_fresh hfresh]
  refine ⟨fun hs c' hn => ?_, fun acl acls c' h hn => ?_, fun acl c' => ⟨?_, ?_⟩⟩
  · exact Model.evalBool_of_eval (builds_headerSpace hc hn c')
  · obtain ⟨t, ht, hagree⟩ := compileAcl_agrees (acls.size + 1) acls acl h c'
    obtain ⟨r, hr, hev⟩ := hagree _ _ hc hn
    exact ⟨t, r, ht, hr, Model.evalBool_of_eval hev⟩
  · rintro ⟨text, herr⟩
    cases h : acl.isSymbolic
    · rfl
    · obtain ⟨t, ht, -⟩ := compileAcl_agrees 0 {} acl h c'
      rw [ht] at herr
      cases herr
  · intro h
    obtain ⟨e, he, text, rfl⟩ := compileAcl_fails acl h c'
    exact ⟨text, he⟩

def edgeAcl : IpAccessList where
  name := "edge"
  lines := [⟨"deny-ssh", .deny, .matchHeaderSpace { dstPorts := [⟨22, 22⟩] }⟩,
    ⟨"permit-net", .permit, .matchHeaderSpace { dstIps := [Prefix.make ⟨0x0A000000⟩ 8] }⟩]

def webFlow : Flow := { dstIp := ⟨0x0A010203⟩, dstPort := 80 }

theorem edge_acl_formula_agrees_on_web :
    (∀ s, ({} : Context).index.get? ("0_" ++ s) = none) ∧ edgeAcl.isSymbolic = true ∧
      (∀ p ∈ edgeAcl.prefixes, p.IsNetwork) ∧
      ∃ t r, ((PacketFormula.compileAcl ((Packet.new "0_").run {}).1 edgeAcl).runOn {}).1 = .ok t ∧
        edgeAcl.run webFlow {} = .ok r ∧
        (Report.flowModel "0_" webFlow).evalBool t = .ok (r.action == .permit) := by
  have hfresh : ∀ s, ({} : Context).index.get? ("0_" ++ s) = none := by simp
  have hsym : edgeAcl.isSymbolic = true := by decide
  have hnet : ∀ p ∈ edgeAcl.prefixes, p.IsNetwork := by decide
  exact ⟨hfresh, hsym, hnet,
    (acl_formulas_agree_with_filtering "0_" webFlow {} hfresh).2.1 edgeAcl {} {} hsym hnet⟩

end ControlPlane
