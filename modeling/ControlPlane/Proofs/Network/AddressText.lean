import ControlPlane.Network.Schema
import ControlPlane.Proofs.Encoding.AclFormula

/-!
# Address texts read back

Addresses, prefixes, interface addresses and communities are written as decimal numbers with
separators, and the readers give every written value back: an address from its four bytes, a
prefix or an interface address from its address and length, a community from its two halves.
The JSON forms are the texts as strings, so they read back too. A prefix that is read is always
a network prefix of length at most 32, whatever the text.

Written numbers have no sign and no leading zero, and they hold no white space, so trimming and
the optional `+` of the readers never come into play.
-/

namespace ControlPlane
namespace Text

theorem le_digitChar {d : Nat} (hd : d < 10) : '0' ≤ d.digitChar ∧ d.digitChar ≤ '9' := by
  have h := Nat.toNat_digitChar_of_lt_ten hd
  simp only [Char.le_def, UInt32.le_iff_toNat_le, Char.toNat_val] at *
  constructor
  · simp [h]
  · simp [h]
    omega

theorem foldl_toDigits (n : Nat) :
    (Nat.toDigits 10 n).foldl (fun acc c => acc.bind fun k =>
      if '0' ≤ c ∧ c ≤ '9' then some (k * 10 + (c.toNat - '0'.toNat)) else none) (some 0) = some n := by
  -- the digits of `n` are those of `n / 10` followed by the last digit
  induction n using Nat.strongRecOn with
  | _ n ih =>
    rw [Nat.toDigits_eq_if (by decide)]
    split
    next hlt =>
      simp [le_digitChar hlt, Nat.toNat_digitChar_sub_48_of_lt_ten hlt]
    next hge =>
      have hmod : n % 10 < 10 := Nat.mod_lt n (by decide)
      rw [List.foldl_append, ih (n / 10) (by omega)]
      simp [le_digitChar hmod, Nat.toNat_digitChar_sub_48_of_lt_ten hmod]
      omega

theorem digitsValue?_toDigits (n : Nat) : digitsValue? (Nat.toDigits 10 n) = some n := by
  unfold digitsValue?
  rw [if_neg (by simp)]
  exact foldl_toDigits n

theorem toList_toString (n : Nat) : (toString n).toList = Nat.toDigits 10 n := by
  rw [Nat.toString_eq_repr, Nat.toList_repr]

theorem isDigit_of_mem_toString {n : Nat} {c : Char} (h : c ∈ (toString n).toList) : c.isDigit :=
  Nat.isDigit_of_mem_toDigits (by decide) (by decide) (toList_toString n ▸ h)

theorem not_mem_toString {c : Char} (hc : c.isDigit = false) (n : Nat) : c ∉ (toString n).toList :=
  fun h => by simp [isDigit_of_mem_toString h] at hc

theorem parseNatBelow_toString {bound n : Nat} (h : n < bound) :
    parseNatBelow bound (toString n) = some n := by
  obtain ⟨c, cs, hcs⟩ := List.exists_cons_of_ne_nil (Nat.toDigits_ne_nil (b := 10) (n := n))
  -- a written number starts with a digit, never with the optional sign
  have hc : c ≠ '+' := by
    rintro rfl
    have := isDigit_of_mem_toString (n := n) (c := '+') (by simp [hcs])
    contradiction
  have hval : digitsValue? (c :: cs) = some n := hcs ▸ digitsValue?_toDigits n
  unfold parseNatBelow
  rw [toList_toString, hcs]
  split
  next heq => exact absurd (List.cons.inj heq).1 hc
  next => simp [hval, h]

theorem isWhite_of_isDigit {c : Char} (h : c.isDigit) : isWhite c = false := by
  have h0 : '0'.toNat = 48 := rfl
  have h9 : '9'.toNat = 57 := rfl
  rw [Char.isDigit_iff_toNat, h0, h9] at h
  simp [isWhite]
  omega

theorem not_white_of_mem_toString {c : Char} {n : Nat} (h : c ∈ (toString n).toList) :
    isWhite c = false :=
  isWhite_of_isDigit (isDigit_of_mem_toString h)

theorem dropWhile_white {l : List Char} (h : ∀ c ∈ l, isWhite c = false) :
    l.dropWhile isWhite = l := by
  cases l with
  | nil => rfl
  | cons c cs => exact List.dropWhile_cons_of_neg (by simp [h c (by simp)])

theorem trim_eq_self {s : String} (h : ∀ c ∈ s.toList, isWhite c = false) : trim s = s := by
  unfold trim
  rw [dropWhile_white h, dropWhile_white (by simpa using h), List.reverse_reverse,
    String.ofList_toList]

theorem splitFirst_of_toList {s a b : String} {sep : Char}
    (hs : s.toList = a.toList ++ sep :: b.toList) (ha : sep ∉ a.toList) :
    splitFirst s sep = (a, some b) := by
  have hfind : s.toList.findIdx? (· = sep) = some a.toList.length := by
    have hnone : a.toList.findIdx? (· = sep) = none :=
      List.findIdx?_eq_none_iff.mpr fun x hx => by simpa using fun hxe : x = sep => ha (hxe ▸ hx)
    rw [hs, List.findIdx?_append, hnone]
    simp [List.findIdx?_cons]
  simp only [splitFirst, hfind]
  simp [hs]

theorem foldl_parseU8 (bs : List Nat) (h : ∀ b ∈ bs, b < 256) (a : Nat) :
    (bs.map toString).foldl (fun acc p => acc.bind fun n => (parseU8 p).map (n * 256 + ·)) (some a) =
      some (bs.foldl (fun n b => n * 256 + b) a) := by
  induction bs generalizing a with
  | nil => rfl
  | cons b bs ih =>
    have hb : parseU8 (toString b) = some b := parseNatBelow_toString (h b (by simp))
    simp only [List.map_cons, List.foldl_cons, Option.bind_some, hb, Option.map_some]
    exact ih (fun x hx => h x (by simp [hx])) _

end Text

theorem Decode.parsed_str {α ε : Type} {f : String → Except ε α} {s : String} {a : α}
    (h : f s = .ok a) : Decode.parsed f (.str s) = .ok a := by
  simp [Decode.parsed, h]

namespace Ip

def bytes (ip : Ip) : List Nat :=
  [ip.toNat / 16777216 % 256, ip.toNat / 65536 % 256, ip.toNat / 256 % 256, ip.toNat % 256]

theorem toList_text (ip : Ip) :
    ip.text.toList = ['.'].intercalate (ip.bytes.map fun b => (toString b).toList) := by
  simp [text, bytes, String.toList_append, List.intercalate]

theorem forall_mem_text {P : Char → Prop} (hd : ∀ c, c.isDigit → P c) (hdot : P '.') (ip : Ip) :
    ∀ c ∈ ip.text.toList, P c := by
  have hnum : ∀ n : Nat, ∀ c ∈ (toString n).toList, P c :=
    fun _ _ h => hd _ (Text.isDigit_of_mem_toString h)
  have hsep : ∀ c ∈ ".".toList, P c := by simpa using hdot
  simp only [text, String.toList_append, List.forall_mem_append]
  exact ⟨⟨⟨⟨⟨⟨hnum _, hsep⟩, hnum _⟩, hsep⟩, hnum _⟩, hsep⟩, hnum _⟩

theorem splitAll_text (ip : Ip) : Text.splitAll ip.text '.' = ip.bytes.map toString := by
  rw [Text.splitAll, toList_text, List.splitOn_intercalate]
  · simp [Nat.repr_eq_ofList_toDigits]
  · simp only [List.mem_map]
    rintro _ ⟨b, -, rfl⟩
    exact Text.not_mem_toString (by decide) b
  · simp [bytes]

theorem parse_text (ip : Ip) : parse ip.text = .ok ip := by
  have hlt : ip.toNat < 4294967296 := ip.bits.toNat_lt
  have hbytes : ∀ b ∈ ip.bytes, b < 256 := by simp [bytes]; omega
  have hval : ip.bytes.foldl (fun n b => n * 256 + b) 0 = ip.toNat := by simp [bytes]; omega
  rw [parse, Text.trim_eq_self (forall_mem_text (fun _ => Text.isWhite_of_isDigit) rfl ip),
    splitAll_text]
  simp only [List.length_map]
  rw [if_neg (by simp [bytes]), Text.foldl_parseU8 _ hbytes, hval]
  simp [ofNat, toNat]

end Ip

theorem parseIpLen_text (ip : Ip) {len : Nat} (h : len ≤ 32) :
    parseIpLen (ip.text ++ "/" ++ toString len) = .ok (ip, len) := by
  have hsplit : Text.splitFirst (ip.text ++ "/" ++ toString len) '/' =
      (ip.text, some (toString len)) := by
    apply Text.splitFirst_of_toList
    · simp [String.toList_append]
    · exact fun h => by
        simpa using Ip.forall_mem_text (P := (· ≠ '/')) (fun c hc => by rintro rfl; contradiction)
          (by decide) ip _ h
  have hlen : Text.parseU8 (toString len) = some len := Text.parseNatBelow_toString (by simp; omega)
  have hwhite : ∀ c ∈ (ip.text ++ "/" ++ toString len).toList, Text.isWhite c = false := by
    simp only [String.toList_append, List.forall_mem_append]
    exact ⟨⟨Ip.forall_mem_text (fun _ => Text.isWhite_of_isDigit) rfl ip, by simp [Text.isWhite]⟩,
      fun _ => Text.not_white_of_mem_toString⟩
  rw [parseIpLen, Text.trim_eq_self hwhite, hsplit]
  simp only [Ip.parse_text, hlen]
  simp [bind, Except.bind, pure, Except.pure, Nat.not_lt.mpr h]

namespace Prefix

theorem make_self {p : Prefix} (hn : p.IsNetwork) (hl : p.len ≤ 32) : make p.ip p.len = p := by
  have hmin : min p.len 32 = p.len := Nat.min_eq_left hl
  unfold IsNetwork at hn
  simp [make, hmin, hn]

theorem parse_text {p : Prefix} (hn : p.IsNetwork) (hl : p.len ≤ 32) : parse p.text = .ok p := by
  rw [parse, text, parseIpLen_text p.ip hl]
  simp [bind, Except.bind, pure, Except.pure, make_self hn hl]

theorem len_make_le (ip : Ip) (len : Nat) : (make ip len).len ≤ 32 := Nat.min_le_right len 32

theorem parse_ok_isNetwork {s : String} {p : Prefix} (h : parse s = .ok p) :
    p.IsNetwork ∧ p.len ≤ 32 := by
  unfold parse at h
  cases hs : parseIpLen s with
  | error e => simp [hs, bind, Except.bind] at h
  | ok r =>
    simp only [hs, bind, Except.bind, pure, Except.pure, Except.ok.injEq] at h
    subst h
    exact ⟨make_isNetwork r.1 r.2, len_make_le r.1 r.2⟩

end Prefix

theorem InterfaceAddress.parse_text {a : InterfaceAddress} (h : a.len ≤ 32) :
    parse a.text = .ok a := by
  rw [parse, text, parseIpLen_text a.ip h]
  simp [bind, Except.bind, pure, Except.pure, make, Nat.min_eq_left h]

theorem Community.parse_text (c : Community) : parse c.text = .ok c := by
  have hlt : c.bits.toNat < 4294967296 := c.bits.toNat_lt
  have hhi : Text.parseU16 (toString (c.bits.toNat / 65536)) = some (c.bits.toNat / 65536) :=
    Text.parseNatBelow_toString (by simp; omega)
  have hlo : Text.parseU16 (toString (c.bits.toNat % 65536)) = some (c.bits.toNat % 65536) :=
    Text.parseNatBelow_toString (by simp; omega)
  have hwhite : ∀ ch ∈ c.text.toList, Text.isWhite ch = false := by
    simp only [text, String.toList_append, List.forall_mem_append]
    exact ⟨⟨fun _ => Text.not_white_of_mem_toString, by simp [Text.isWhite]⟩,
      fun _ => Text.not_white_of_mem_toString⟩
  have hsplit : Text.splitFirst c.text ':' =
      (toString (c.bits.toNat / 65536), some (toString (c.bits.toNat % 65536))) :=
    Text.splitFirst_of_toList (by simp [text, String.toList_append])
      (Text.not_mem_toString (by decide) _)
  have hval : c.bits.toNat / 65536 * 65536 + c.bits.toNat % 65536 = c.bits.toNat := by omega
  rw [parse, Text.trim_eq_self hwhite, hsplit]
  simp only [hhi, Option.bind_some, hlo]
  simp [make, hval]

/-- Every address and community reads back from its text, and so does every prefix built by
`Prefix.make` and every interface address of length at most 32, both from the text and from
its JSON form; a prefix that is read is a network prefix of length at most 32. -/
theorem address_texts_round_trip :
    (∀ x : UInt32, Ip.parse (Ip.mk x).text = .ok ⟨x⟩ ∧
      Schema.ip (Schema.str (Ip.mk x).text) = .ok ⟨x⟩) ∧
    (∀ x : UInt32, Community.parse (Community.mk x).text = .ok ⟨x⟩ ∧
      Schema.community (Schema.str (Community.mk x).text) = .ok ⟨x⟩) ∧
    (∀ (ip : Ip) (len : Nat), Prefix.parse (Prefix.make ip len).text = .ok (Prefix.make ip len) ∧
      Schema.pfx (Schema.str (Prefix.make ip len).text) = .ok (Prefix.make ip len)) ∧
    (∀ a : InterfaceAddress, a.len ≤ 32 → InterfaceAddress.parse a.text = .ok a ∧
      Schema.ifaceAddress (Schema.str a.text) = .ok a) ∧
    (∀ (s : String) (p : Prefix), Prefix.parse s = .ok p → p.IsNetwork ∧ p.len ≤ 32) := by
  have hpfx (ip : Ip) (len : Nat) :=
    Prefix.parse_text (Prefix.make_isNetwork ip len) (Prefix.len_make_le ip len)
  refine ⟨fun x => ⟨Ip.parse_text _, ?_⟩, fun x => ⟨Community.parse_text _, ?_⟩,
    fun ip len => ⟨hpfx ip len, ?_⟩, fun a ha => ⟨InterfaceAddress.parse_text ha, ?_⟩,
    fun _ _ => Prefix.parse_ok_isNetwork⟩
  · exact Decode.parsed_str (Ip.parse_text _)
  · exact Decode.parsed_str (Community.parse_text _)
  · exact Decode.parsed_str (hpfx ip len)
  · exact Decode.parsed_str (InterfaceAddress.parse_text ha)

/-- An interface address `192.168.1.1/24` reads back, and the text `10.1.2.3/8` reads as the
network prefix `10.0.0.0/8`. -/
theorem lan_address_and_masked_prefix_read_back :
    (InterfaceAddress.parse (InterfaceAddress.mk ⟨0xC0A80101⟩ 24).text =
        .ok (InterfaceAddress.mk ⟨0xC0A80101⟩ 24) ∧
      Schema.ifaceAddress (Schema.str (InterfaceAddress.mk ⟨0xC0A80101⟩ 24).text) =
        .ok (InterfaceAddress.mk ⟨0xC0A80101⟩ 24)) ∧
    Prefix.parse "10.1.2.3/8" = .ok ⟨⟨0x0A000000⟩, 8⟩ ∧
    (Prefix.IsNetwork ⟨⟨0x0A000000⟩, 8⟩ ∧ (⟨⟨0x0A000000⟩, 8⟩ : Prefix).len ≤ 32) := by
  have hparse : Prefix.parse "10.1.2.3/8" = .ok ⟨⟨0x0A000000⟩, 8⟩ := by rfl
  exact ⟨address_texts_round_trip.2.2.2.1 _ (by decide), hparse,
    address_texts_round_trip.2.2.2.2 _ _ hparse⟩

end ControlPlane
