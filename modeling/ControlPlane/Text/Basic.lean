/-!
# Reading numbers and trimming text

Configuration texts use the usual conventions of systems languages: a decimal number may carry a
leading `+`, unsigned numbers never carry a `-`, and a number that does not fit its type is not
a number. Trimming removes Unicode white space at both ends.
-/

namespace ControlPlane
namespace Text

def isWhite (c : Char) : Bool :=
  let n := c.toNat
  (9 ≤ n && n ≤ 13) || n = 32 || n = 0x85 || n = 0xA0 || n = 0x1680 ||
    (0x2000 ≤ n && n ≤ 0x200A) || n = 0x2028 || n = 0x2029 || n = 0x202F || n = 0x205F || n = 0x3000

def trim (s : String) : String :=
  String.ofList ((s.toList.dropWhile isWhite).reverse.dropWhile isWhite).reverse

def digitsValue? (cs : List Char) : Option Nat :=
  if cs.isEmpty then none
  else cs.foldl (fun acc c => acc.bind fun n =>
    if '0' ≤ c ∧ c ≤ '9' then some (n * 10 + (c.toNat - '0'.toNat)) else none) (some 0)

def parseNatBelow (bound : Nat) (s : String) : Option Nat :=
  let cs := match s.toList with
    | '+' :: rest => rest
    | cs => cs
  match digitsValue? cs with
  | some n => if n < bound then some n else none
  | none => none

def parseU8 (s : String) : Option Nat := parseNatBelow (Nat.pow 2 8) s

def parseU16 (s : String) : Option Nat := parseNatBelow (Nat.pow 2 16) s

def parseU64 (s : String) : Option Nat := parseNatBelow (Nat.pow 2 64) s

def parseI64 (s : String) : Option Int :=
  match s.toList with
  | '-' :: rest =>
    (digitsValue? rest).bind fun n => if n ≤ Nat.pow 2 63 then some (-(n : Int)) else none
  | '+' :: rest => (digitsValue? rest).bind fun n => if n < Nat.pow 2 63 then some (n : Int) else none
  | cs => (digitsValue? cs).bind fun n => if n < Nat.pow 2 63 then some (n : Int) else none

def splitFirst (s : String) (sep : Char) : String × Option String :=
  let cs := s.toList
  match cs.findIdx? (· = sep) with
  | some i => (String.ofList (cs.take i), some (String.ofList (cs.drop (i + 1))))
  | none => (s, none)

def splitAll (s : String) (sep : Char) : List String :=
  (s.toList.splitOn sep).map String.ofList

end Text
end ControlPlane
