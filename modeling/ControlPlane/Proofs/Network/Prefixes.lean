import Mathlib
import ControlPlane.Proofs.Encoding.AclFormula

/-!
# Prefix containment and overlap

A prefix of length `l` holds the addresses whose `l` leading bits, of 32, are those of its
address. For prefixes in the form every constructor gives them (the address is the network
address, the length at most 32) the tests on prefixes are exact: `containsPrefix` is inclusion of
address sets (`Prefix.containsPrefix_iff_subset`), and two address sets meet exactly when one
prefix contains the other (`Prefix.meet_iff`). A route is therefore relevant to a header space
exactly when its prefix shares an address with a destination of the space
(`HeaderSpace.relevantPrefix_iff`).

A prefix range compares a route's prefix with its own only on the bits both have. For a route at
least as long as the range's prefix that is the address test (`PrefixRange.includesPrefix_make`);
a shorter route is compared on its own length only.
-/

namespace ControlPlane

theorem testBit_maskOf (l i : Nat) :
    (maskOf l).toNat.testBit i = (decide (32 - l ≤ i) && decide (i < 32)) := by
  unfold maskOf
  split
  · next h => simp [h]
  · split
    · rw [show (0xFFFFFFFF : UInt32).toNat = 2 ^ 32 - 1 from rfl, Nat.testBit_two_pow_sub_one]
      simp
      omega
    · next h0 h =>
      have hk : ((32 - l).toUInt32).toNat % 32 = 32 - l := by
        rw [Nat.toUInt32, UInt32.toNat_ofNat', Nat.mod_eq_of_lt (by omega : 32 - l < 2 ^ 32)]
        exact Nat.mod_eq_of_lt (by omega)
      rw [UInt32.toNat_shiftLeft, hk, show (0xFFFFFFFF : UInt32).toNat = 2 ^ 32 - 1 from rfl,
        Nat.testBit_mod_two_pow, Nat.testBit_shiftLeft, Nat.testBit_two_pow_sub_one]
      by_cases hi : i < 32 <;> simp [hi]
      omega

theorem testBit_and_maskOf (x : UInt32) (l i : Nat) :
    (x &&& maskOf l).toNat.testBit i = (decide (32 - l ≤ i) && x.toNat.testBit i) := by
  rw [UInt32.toNat_and, Nat.testBit_and, testBit_maskOf]
  by_cases hi : i < 32
  · simp [hi, Bool.and_comm]
  · have hx : x.toNat.testBit i = false :=
      Nat.testBit_lt_two_pow (lt_of_lt_of_le x.toNat_lt (Nat.pow_le_pow_right (by omega) (by omega)))
    simp [hi, hx]

theorem and_maskOf_maskOf (x : UInt32) {k l : Nat} (hkl : k ≤ l) :
    x &&& maskOf l &&& maskOf k = x &&& maskOf k := by
  rw [← UInt32.toNat_inj]
  apply Nat.eq_of_testBit_eq
  intro i
  rw [testBit_and_maskOf, testBit_and_maskOf, testBit_and_maskOf]
  by_cases hi : 32 - k ≤ i
  · simp [hi, show 32 - l ≤ i by omega]
  · simp [hi]

namespace Ip

def AgreeFrom (k : Nat) (x y : Ip) : Prop := ∀ i, k ≤ i → x.toNat.testBit i = y.toNat.testBit i

variable {k k' : Nat} {x y z : Ip}

theorem AgreeFrom.refl (k : Nat) (x : Ip) : AgreeFrom k x x := fun _ _ => rfl

theorem AgreeFrom.symm (h : AgreeFrom k x y) : AgreeFrom k y x := fun i hi => (h i hi).symm

theorem AgreeFrom.trans (h : AgreeFrom k x y) (h' : AgreeFrom k y z) : AgreeFrom k x z :=
  fun i hi => (h i hi).trans (h' i hi)

theorem AgreeFrom.mono (hk : k ≤ k') (h : AgreeFrom k x y) : AgreeFrom k' x y :=
  fun i hi => h i (le_trans hk hi)

theorem testBit_flip (x : Ip) {j : Nat} (hj : j < 32) (i : Nat) :
    (Ip.ofNat (x.toNat ^^^ 2 ^ j)).toNat.testBit i = (x.toNat.testBit i ^^ decide (j = i)) := by
  have hlt : x.toNat ^^^ 2 ^ j < 2 ^ 32 :=
    Nat.xor_lt_two_pow x.bits.toNat_lt (Nat.pow_lt_pow_right (by omega) hj)
  rw [show (Ip.ofNat (x.toNat ^^^ 2 ^ j)).toNat = x.toNat ^^^ 2 ^ j by
    simp only [Ip.ofNat, Ip.toNat, Nat.toUInt32, UInt32.toNat_ofNat']
    exact Nat.mod_eq_of_lt hlt]
  rw [Nat.testBit_xor, Nat.testBit_two_pow]

end Ip

namespace Prefix

variable {a b p : Prefix}

/-- The form every constructor of prefixes keeps: the address is the network address, and the
length is at most 32. -/
structure WellFormed (p : Prefix) : Prop where
  network : p.IsNetwork
  len_le : p.len ≤ 32

theorem make_wellFormed (ip : Ip) (len : Nat) : (Prefix.make ip len).WellFormed :=
  ⟨make_isNetwork ip len, Nat.min_le_right _ _⟩

theorem testBit_ip (hp : p.IsNetwork) (i : Nat) :
    p.ip.bits.toNat.testBit i = (decide (32 - p.len ≤ i) && p.ip.bits.toNat.testBit i) := by
  have h := congrArg (fun x : UInt32 => x.toNat.testBit i) hp
  simp only [testBit_and_maskOf] at h
  exact h.symm

theorem containsIp_iff (hp : p.IsNetwork) (ip : Ip) :
    p.containsIp ip ↔ Ip.AgreeFrom (32 - p.len) ip p.ip := by
  simp only [containsIp, decide_eq_true_eq, ← UInt32.toNat_inj]
  constructor
  · intro h i hi
    have hi' := congrArg (Nat.testBit · i) h
    simp only [testBit_and_maskOf, hi, decide_true, Bool.true_and] at hi'
    exact hi'
  · intro h
    apply Nat.eq_of_testBit_eq
    intro i
    rw [testBit_and_maskOf, testBit_ip hp i]
    by_cases hi : 32 - p.len ≤ i
    · simpa [hi, Ip.toNat] using h i hi
    · simp [hi]

theorem containsIp_self (hp : p.IsNetwork) : p.containsIp p.ip :=
  (containsIp_iff hp p.ip).2 (Ip.AgreeFrom.refl _ _)

theorem containsIp_make_32 {x y : Ip} (h : (Prefix.make x 32).containsIp y = true) :
    y = x := by
  have hmask : ∀ z : UInt32, z &&& maskOf 32 = z := fun z => by
    rw [← UInt32.toNat_inj]
    apply Nat.eq_of_testBit_eq
    intro i
    rw [testBit_and_maskOf]
    simp
  simp only [Prefix.containsIp, Prefix.make, Nat.min_self, hmask, decide_eq_true_eq] at h
  cases x
  cases y
  simp_all

theorem containsIp_of_containsPrefix (ha : a.IsNetwork) (hb : b.IsNetwork)
    (h : a.containsPrefix b) {ip : Ip} (hip : b.containsIp ip) : a.containsIp ip := by
  simp only [containsPrefix, Bool.and_eq_true, decide_eq_true_eq] at h
  rw [containsIp_iff ha] at h ⊢
  rw [containsIp_iff hb] at hip
  exact (hip.mono (by omega)).trans h.2

theorem containsPrefix_iff_subset (ha : a.WellFormed) (hb : b.WellFormed) :
    a.containsPrefix b ↔ ∀ ip, b.containsIp ip → a.containsIp ip := by
  refine ⟨fun h _ hip => containsIp_of_containsPrefix ha.network hb.network h hip, fun h => ?_⟩
  have hab : a.containsIp b.ip := h b.ip (containsIp_self hb.network)
  simp only [containsPrefix, hab, Bool.and_true, decide_eq_true_eq]
  by_contra hlt
  have ha32 := ha.len_le
  -- the bit just inside `a` and outside `b`: flipping it keeps the address in `b`, not in `a`
  have hj : 32 - a.len < 32 := by omega
  have hin : b.containsIp (Ip.ofNat (b.ip.toNat ^^^ 2 ^ (32 - a.len))) := by
    refine (containsIp_iff hb.network _).2 fun i hi => ?_
    rw [Ip.testBit_flip _ hj]
    simp only [show 32 - a.len ≠ i by omega, decide_false, Bool.xor_false]
  have hout := (containsIp_iff ha.network _).1 (h _ hin) (32 - a.len) le_rfl
  have hba := (containsIp_iff ha.network _).1 hab (32 - a.len) le_rfl
  rw [Ip.testBit_flip _ hj, ← hba] at hout
  simp at hout

theorem meet_iff (ha : a.IsNetwork) (hb : b.IsNetwork) :
    (∃ ip, a.containsIp ip ∧ b.containsIp ip) ↔ a.containsPrefix b ∨ b.containsPrefix a := by
  constructor
  · rintro ⟨ip, hia, hib⟩
    rw [containsIp_iff ha] at hia
    rw [containsIp_iff hb] at hib
    rcases le_total a.len b.len with hle | hle
    · left
      have h : a.containsIp b.ip := (containsIp_iff ha _).2 ((hib.symm.mono (by omega)).trans hia)
      simp [containsPrefix, hle, h]
    · right
      have h : b.containsIp a.ip := (containsIp_iff hb _).2 ((hia.symm.mono (by omega)).trans hib)
      simp [containsPrefix, hle, h]
  · rintro (h | h)
    · exact ⟨b.ip, containsIp_of_containsPrefix ha hb h (containsIp_self hb), containsIp_self hb⟩
    · exact ⟨a.ip, containsIp_self ha, containsIp_of_containsPrefix hb ha h (containsIp_self ha)⟩

end Prefix

/-- A route for `p` is relevant to a header space exactly when the space names no destination
or `p` shares an address with one of its destinations. -/
theorem HeaderSpace.relevantPrefix_iff {hs : HeaderSpace} {p : Prefix}
    (hd : ∀ d ∈ hs.dstIps, d.IsNetwork) (hp : p.IsNetwork) :
    hs.relevantPrefix p = true ↔
      hs.dstIps = [] ∨ ∃ d ∈ hs.dstIps, ∃ ip, d.containsIp ip ∧ p.containsIp ip := by
  simp only [relevantPrefix, Bool.or_eq_true, List.isEmpty_iff, List.any_eq_true]
  refine or_congr Iff.rfl (exists_congr fun d => and_congr_right fun hmem => ?_)
  rw [Prefix.meet_iff (hd d hmem) hp]

/-- A range includes the prefix of `d` of a length at least its own exactly when it accepts the
length and `d` lies in the range's prefix. -/
theorem PrefixRange.includesPrefix_make {r : PrefixRange} (hr : r.net.IsNetwork) {d : Ip}
    {l : Nat} (hl : l ≤ 32) (hlen : r.net.len ≤ l) :
    r.includesPrefix (Prefix.make d l) = (r.lengths.includes l && r.net.containsIp d) := by
  have hmin : min l 32 = l := Nat.min_eq_left hl
  have hbits : min r.net.len l = r.net.len := Nat.min_eq_left hlen
  have hr32 : min r.net.len 32 = r.net.len := Nat.min_eq_left (by omega)
  have hnet : r.net.ip.bits &&& maskOf r.net.len = r.net.ip.bits := hr
  simp only [includesPrefix, Prefix.make, Prefix.start, hmin, hbits, hr32, hnet,
    and_maskOf_maskOf _ hlen, Prefix.containsIp]
  congr 1
  rw [Bool.eq_iff_iff]
  simp

end ControlPlane
