/-!
# Digests of long texts

Terms of a large network run to megabytes of text. Where such a text is only compared, it is
replaced by its length and its 64-bit FNV-1a digest: offset basis `0xcbf29ce484222325`, prime
`0x100000001b3`, over the UTF-8 bytes. A list of texts is digested as the texts joined by line
breaks; the empty list has the offset basis as its digest.
-/

namespace ControlPlane
namespace Digest

def offsetBasis : UInt64 := 0xcbf29ce484222325

def prime : UInt64 := 0x100000001b3

def feed (h : UInt64) (bytes : ByteArray) : UInt64 :=
  bytes.foldl (fun acc b => (acc ^^^ b.toUInt64) * prime) h

def ofString (s : String) : UInt64 := feed offsetBasis s.toUTF8

def ofLines (xs : List String) : UInt64 :=
  match xs with
  | [] => offsetBasis
  | x :: rest => rest.foldl (fun h s => feed (feed h "\n".toUTF8) s.toUTF8) (ofString x)

def hex (h : UInt64) : String :=
  let ds := Nat.toDigits 16 h.toNat
  String.ofList (List.replicate (16 - ds.length) '0' ++ ds)

end Digest
end ControlPlane
