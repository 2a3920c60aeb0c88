import ControlPlane.Text.Basic
import ControlPlane.Network.Error

/-!
# Addresses, prefixes and communities

IPv4 addresses, prefixes (always stored with the host bits cleared), interface addresses (the
host address with the length of its subnet), integer ranges, prefix ranges and BGP communities,
with their text forms. A text is trimmed before it is read; an error quotes the text as given.
-/

namespace ControlPlane

/-- An IPv4 address. -/
structure Ip where
  bits : UInt32
  deriving DecidableEq, Repr, Inhabited, Ord

namespace Ip

def zero : Ip := ⟨0⟩

def ofNat (n : Nat) : Ip := ⟨n.toUInt32⟩

def toNat (ip : Ip) : Nat := ip.bits.toNat

def text (ip : Ip) : String :=
  let n := ip.toNat
  toString (n / Nat.pow 2 24 % 256) ++ "." ++ toString (n / Nat.pow 2 16 % 256) ++ "." ++
    toString (n / Nat.pow 2 8 % 256) ++ "." ++ toString (n % 256)

instance : ToString Ip := ⟨text⟩

def parse (s : String) : Except NetworkError Ip :=
  let parts := Text.splitAll (Text.trim s) '.'
  if parts.length ≠ 4 then .error (.invalidAddress s)
  else
    match parts.foldl (fun acc p => acc.bind fun n => (Text.parseU8 p).map (n * 256 + ·)) (some 0) with
    | some n => .ok (ofNat n)
    | none => .error (.invalidAddress s)

end Ip

def maskOf (len : Nat) : UInt32 :=
  if len = 0 then 0 else if 32 ≤ len then 0xFFFFFFFF else 0xFFFFFFFF <<< (32 - len).toUInt32

/-- An IPv4 prefix. Built with `Prefix.make`, the address is the network address. -/
structure Prefix where
  ip : Ip
  len : Nat
  deriving DecidableEq, Repr, Inhabited, Ord

namespace Prefix

def make (ip : Ip) (len : Nat) : Prefix :=
  let l := min len 32
  ⟨⟨ip.bits &&& maskOf l⟩, l⟩

def start (p : Prefix) : Ip := p.ip

def finish (p : Prefix) : Ip := ⟨p.ip.bits ||| ~~~(maskOf p.len)⟩

def isEmpty (p : Prefix) : Bool := p.len = 0

def containsIp (p : Prefix) (ip : Ip) : Bool := (ip.bits &&& maskOf p.len) = p.ip.bits

def containsPrefix (p q : Prefix) : Bool := p.len ≤ q.len && p.containsIp q.ip

def text (p : Prefix) : String := p.ip.text ++ "/" ++ toString p.len

instance : ToString Prefix := ⟨text⟩

end Prefix

/-- Read `address/length` (length 32 when missing). A bad address is reported as an address
error on the address part, a bad length as a prefix error on the whole text. -/
def parseIpLen (s : String) : Except NetworkError (Ip × Nat) := do
  let (ipPart, lenPart) := Text.splitFirst (Text.trim s) '/'
  let ip ← Ip.parse ipPart
  let len ← match lenPart with
    | some l =>
      match Text.parseU8 l with
      | some n => pure n
      | none => throw (.invalidPrefix s)
    | none => pure 32
  if len > 32 then throw (.invalidPrefix s)
  pure (ip, len)

def Prefix.parse (s : String) : Except NetworkError Prefix := do
  let (ip, len) ← parseIpLen s
  pure (Prefix.make ip len)

/-- The address of an interface together with the length of its subnet. -/
structure InterfaceAddress where
  ip : Ip
  len : Nat
  deriving DecidableEq, Repr, Inhabited, Ord

namespace InterfaceAddress

def make (ip : Ip) (len : Nat) : InterfaceAddress := ⟨ip, min len 32⟩

def subnet (a : InterfaceAddress) : Prefix := Prefix.make a.ip a.len

def text (a : InterfaceAddress) : String := a.ip.text ++ "/" ++ toString a.len

def parse (s : String) : Except NetworkError InterfaceAddress := do
  let (ip, len) ← parseIpLen s
  pure (make ip len)

end InterfaceAddress

/-- Inclusive range of 32-bit numbers. -/
structure SubRange where
  start : Nat
  finish : Nat
  deriving DecidableEq, Repr, Inhabited, Ord

def SubRange.includes (r : SubRange) (v : Nat) : Bool := r.start ≤ v && v ≤ r.finish

def SubRange.singleton (v : Nat) : SubRange := ⟨v, v⟩

/-- A prefix with a range of accepted lengths. -/
structure PrefixRange where
  net : Prefix
  lengths : SubRange
  deriving DecidableEq, Repr, Inhabited, Ord

def PrefixRange.exact (p : Prefix) : PrefixRange := ⟨p, SubRange.singleton p.len⟩

/-- The range matches `p`: its length is accepted, and it agrees with the range's prefix on the
bits both have. -/
def PrefixRange.includesPrefix (r : PrefixRange) (p : Prefix) : Bool :=
  let bits := min r.net.len p.len
  r.lengths.includes p.len && Prefix.make p.start bits == Prefix.make r.net.start bits

/-- Routing protocols of the encoding, in the order of their names' use in ties. -/
inductive Protocol where
  | connected
  | static
  | ospf
  | bgp
  deriving DecidableEq, Repr, Inhabited, Ord

namespace Protocol

def name : Protocol → String
  | .connected => "CONNECTED"
  | .static => "STATIC"
  | .ospf => "OSPF"
  | .bgp => "BGP"

def title : Protocol → String
  | .connected => "Connected"
  | .static => "Static"
  | .ospf => "Ospf"
  | .bgp => "Bgp"

def all : List Protocol := [.connected, .static, .ospf, .bgp]

instance : ToString Protocol := ⟨name⟩

end Protocol

/-- Route sources that a policy can match; only some are modeled. -/
inductive RoutingProtocol where
  | connected
  | static
  | ospf
  | bgp
  | ibgp
  | aggregate
  | isis
  | rip
  deriving DecidableEq, Repr, Inhabited, Ord

def RoutingProtocol.toProtocol : RoutingProtocol → Option Protocol
  | .connected => some .connected
  | .static => some .static
  | .ospf => some .ospf
  | .bgp | .ibgp => some .bgp
  | .aggregate | .isis | .rip => none

def RoutingProtocol.title : RoutingProtocol → String
  | .connected => "Connected"
  | .static => "Static"
  | .ospf => "Ospf"
  | .bgp => "Bgp"
  | .ibgp => "Ibgp"
  | .aggregate => "Aggregate"
  | .isis => "Isis"
  | .rip => "Rip"

/-- A standard BGP community `high:low`. -/
structure Community where
  bits : UInt32
  deriving DecidableEq, Repr, Inhabited, Ord

namespace Community

def make (high low : Nat) : Community := ⟨(high * 65536 + low).toUInt32⟩

def text (c : Community) : String :=
  toString (c.bits.toNat / 65536) ++ ":" ++ toString (c.bits.toNat % 65536)

def parse (s : String) : Except NetworkError Community :=
  let (hi, lo) := Text.splitFirst (Text.trim s) ':'
  match Text.parseU16 hi, lo.bind Text.parseU16 with
  | some h, some l => .ok (make h l)
  | _, _ => .error (.invalidCommunity s)

end Community

/-- Action of a filter line. -/
inductive LineAction where
  | permit
  | deny
  deriving DecidableEq, Repr, Inhabited, Ord

def LineAction.title : LineAction → String
  | .permit => "Permit"
  | .deny => "Deny"

/-- OSPF route types, in the order of preference. -/
inductive OspfType where
  | o
  | oia
  | e1
  | e2
  deriving DecidableEq, Repr, Inhabited, Ord

def OspfType.name : OspfType → String
  | .o => "O"
  | .oia => "OIA"
  | .e1 => "E1"
  | .e2 => "E2"

def OspfType.all : List OspfType := [.o, .oia, .e1, .e2]

/-- Metric type of redistributed OSPF routes. -/
inductive OspfMetricType where
  | e1
  | e2
  deriving DecidableEq, Repr, Inhabited, Ord

def ipProtocolTcp : Nat := 6

def bgpPort : Nat := 179

end ControlPlane
