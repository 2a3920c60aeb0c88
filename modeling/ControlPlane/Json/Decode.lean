import ControlPlane.Json.Value

/-!
# Decoding JSON into typed values

A decoder either produces a value or says why the JSON does not fit, and where. A document is
decoded as it is read, front to back, so of several problems the one that comes first in the text
is reported. Places are paths of entries (`Spot`): entry `i` of an array or object is `2 * i + 1`,
the gap before it `2 * i`, and the end of a container `2 * n`; inside a member, its value is
below `0`, after the member's name at the member's own place. A place comes before every place
inside it.

Records ignore unknown members, which are skipped: a reader that skips a value checks its
grammar only (`Break.skipped`). A member written twice in a record is an error where the second
one starts; maps keep the last value of a key. A record written as an array takes its members by
position; elements left over are malformed.
-/

namespace ControlPlane

/-- Why a JSON value does not decode, and where: `spot` is the path from the decoded value to the
place where decoding stops. -/
structure DecodeError where
  fault : JsonFault
  spot : List Nat := []
  deriving DecidableEq, Repr, Inhabited

abbrev Decoder (α : Type) := Json → Except DecodeError α

namespace Spot

def before : List Nat → List Nat → Bool
  | [], [] => false
  | [], _ :: _ => true
  | _ :: _, [] => false
  | a :: as, b :: bs => a < b || (a == b && before as bs)

def entry (i : Nat) : Nat := 2 * i + 1

def gap (i : Nat) : Nat := 2 * i

end Spot

namespace DecodeError

def within (path : List Nat) (e : DecodeError) : DecodeError := { e with spot := path ++ e.spot }

def earlier : Option DecodeError → Option DecodeError → Option DecodeError
  | none, b => b
  | some a, none => some a
  | some a, some b => if Spot.before b.spot a.spot then some b else some a

end DecodeError

namespace Break

/-- What a decoder of a value makes of the break: one of an enumeration (`variant`) reads only
strings and objects, and finds any other start malformed. -/
def read (variant : Bool) : Break → JsonFault
  | .value why => why
  | .number why => if variant then .malformed else why
  | .word why => if variant then .malformed else why
  | .string typed _ => typed
  | .name typed _ asVariant => if variant then asVariant else typed
  | .separator why => why

def skipped : Break → JsonFault
  | .value why => why
  | .number _ => .malformed
  | .word why => why
  | .string _ skipped => skipped
  | .name _ skipped _ => skipped
  | .separator why => why

end Break

namespace Decode

def fail {α : Type} (fault : JsonFault) : Except DecodeError α := .error { fault }

/-- A decoder that expects a value of another kind meets `j`: a value of the wrong type, unless
`j` is where the text breaks or a flawed value, which is malformed; an array or object nested too
deep is only of the wrong type, since its contents are not read. -/
def mismatch {α : Type} : Json → Except DecodeError α
  | .cut b => fail (b.read false)
  | .flawed .tooDeep _ => fail .data
  | .flawed _ _ => fail .malformed
  | _ => fail .data

def notContainer {α : Type} : Json → Except DecodeError α
  | .flawed .tooDeep _ => fail .malformed
  | j => mismatch j

/-- The fault of a member at its name: a break where a name should come, or where a comma
should, or a name with an unpaired surrogate escape; `variant` for the name of an enumeration's
variant. -/
def nameFault (variant : Bool) : Json → Option JsonFault
  | .cut (.name typed _ asVariant) => some (if variant then asVariant else typed)
  | .cut (.separator why) => some why
  | .flawed .loneName _ => some .malformed
  | _ => none

mutual
def skipped : Json → Option DecodeError
  | .cut b => some { fault := b.skipped }
  | .flawed _ inner => skipped inner
  | .arr xs => skippedElems 0 xs
  | .obj kvs => skippedMembers 0 kvs
  | _ => none
def skippedElems (i : Nat) : List Json → Option DecodeError
  | [] => none
  | x :: xs =>
    match skipped x with
    | some e => some (e.within [Spot.entry i])
    | none => skippedElems (i + 1) xs
def skippedMembers (i : Nat) : List (String × Json) → Option DecodeError
  | [] => none
  | (_, v) :: kvs =>
    match v with
    | .cut (.name _ k _) => some { fault := k, spot := [Spot.entry i] }
    | _ =>
      match skipped v with
      | some e => some (e.within [Spot.entry i, 0])
      | none => skippedMembers (i + 1) kvs
end

mutual
def plain : Json → Option DecodeError
  | .cut b => some { fault := b.read false }
  | .flawed _ _ => some { fault := .malformed }
  | .arr xs => plainElems 0 xs
  | .obj kvs => plainMembers 0 kvs
  | _ => none
def plainElems (i : Nat) : List Json → Option DecodeError
  | [] => none
  | x :: xs =>
    match plain x with
    | some e => some (e.within [Spot.entry i])
    | none => plainElems (i + 1) xs
def plainMembers (i : Nat) : List (String × Json) → Option DecodeError
  | [] => none
  | (_, v) :: kvs =>
    match nameFault false v with
    | some f => some { fault := f, spot := [Spot.entry i] }
    | none =>
      match plain v with
      | some e => some (e.within [Spot.entry i, 0])
      | none => plainMembers (i + 1) kvs
end

def string : Decoder String
  | .str s => .ok s
  | j => mismatch j

def bool : Decoder Bool
  | .bool b => .ok b
  | j => mismatch j

def unit : Decoder Unit
  | .null => .ok ()
  | j => mismatch j

/-- A non-negative integer below `bound`; another integer is out of range, and any other number
is of the wrong type. -/
def natBelow (bound : Nat) : Decoder Nat
  | .num (.int i) => if 0 ≤ i ∧ i.toNat < bound then .ok i.toNat else fail .data
  | j => mismatch j

def u8 : Decoder Nat := natBelow (Nat.pow 2 8)

def u16 : Decoder Nat := natBelow (Nat.pow 2 16)

def u32 : Decoder Nat := natBelow (Nat.pow 2 32)

def u64 : Decoder Nat := natBelow (Nat.pow 2 64)

def i64 : Decoder Int
  | .num (.int i) => if -Int.pow 2 63 ≤ i ∧ i < Int.pow 2 63 then .ok i else fail .data
  | j => mismatch j

def elems {α : Type} (d : Decoder α) (i : Nat) : List Json → Except DecodeError (List α)
  | [] => .ok []
  | x :: xs =>
    match d x with
    | .error e => .error (e.within [Spot.entry i])
    | .ok a => (elems d (i + 1) xs).map (a :: ·)

def list {α : Type} (d : Decoder α) : Decoder (List α)
  | .arr xs => elems d 0 xs
  | j => notContainer j

def option {α : Type} (d : Decoder α) : Decoder (Option α)
  | .null => .ok none
  | j => (d j).map some

def insertSorted {α : Type} (k : String) (v : α) : List (String × α) → List (String × α)
  | [] => [(k, v)]
  | (k', v') :: rest =>
    if k < k' then (k, v) :: (k', v') :: rest
    else if k = k' then (k, v) :: rest
    else (k', v') :: insertSorted k v rest

def members {α : Type} (d : Decoder α) (i : Nat) (acc : List (String × α)) :
    List (String × Json) → Except DecodeError (List (String × α))
  | [] => .ok acc
  | (k, v) :: kvs =>
    match nameFault false v with
    | some f => .error { fault := f, spot := [Spot.entry i] }
    | none =>
      match d v with
      | .error e => .error (e.within [Spot.entry i, 0])
      | .ok a => members d (i + 1) (insertSorted k a acc) kvs

def map {α : Type} (d : Decoder α) : Decoder (List (String × α))
  | .obj kvs => members d 0 [] kvs
  | j => notContainer j

/-- What follows the last entry a decoder takes from a container with the entries `rest` from
index `i` on: nothing, or where a comma should come, the break there; any further entry follows
a comma, which is malformed. -/
def leftover (i : Nat) : List Json → Option DecodeError
  | [] => none
  | .cut (.separator why) :: _ => some { fault := why, spot := [Spot.entry i] }
  | _ :: _ => some { fault := .malformed, spot := [Spot.gap i] }

def pair {α β : Type} (da : Decoder α) (db : Decoder β) : Decoder (α × β)
  | .arr xs =>
    match xs with
    | [] => .error { fault := .data, spot := [Spot.gap 0] }
    | [a] => do
      let _ ← (da a).mapError (·.within [Spot.entry 0])
      .error { fault := .data, spot := [Spot.gap 1] }
    | a :: b :: rest => do
      let x ← (da a).mapError (·.within [Spot.entry 0])
      let y ← (db b).mapError (·.within [Spot.entry 1])
      match leftover 2 rest with
      | some e => .error e
      | none => pure (x, y)
  | j => notContainer j

/-- What a record decoder noticed about its members: the first problem in the text, and the
members asked for, the last first. -/
structure FieldLog where
  failure : Option DecodeError := none
  requested : List String := []

/-- The members of a record being decoded: by name, or, for a record written as an array, by
position in the order they are asked for. -/
structure Record where
  entries : List (String × Json)
  positional : Option (List Json) := none

abbrev FieldM := StateM FieldLog

def Record.size (r : Record) : Nat :=
  match r.positional with
  | some xs => xs.length
  | none => r.entries.length

def Record.firstIndex? (r : Record) (k : String) : Option Nat :=
  r.entries.findIdx? fun (k', v) => k' == k && (nameFault false v).isNone

/-- Note a decoding outcome at the place `path`; a failed member yields `fallback` so that the
other members are still looked at. -/
def note {α : Type} (fallback : α) (path : List Nat) : Except DecodeError α → FieldM α
  | .ok a => pure a
  | .error e => modifyGet fun l =>
    (fallback, { l with failure := DecodeError.earlier l.failure (some (e.within path)) })

/-- Record that a member was asked for, and give its place and value: the first one written
under its name, or the element at its position. -/
def Record.take (r : Record) (k : String) : FieldM (Option (List Nat × Json)) :=
  modifyGet fun l =>
    let n := l.requested.length
    let v := match r.positional with
      | some xs => xs[n]?.map fun x => ([Spot.entry n], x)
      | none => (r.firstIndex? k).bind fun i => r.entries[i]?.map fun (_, x) => ([Spot.entry i, 0], x)
    (v, { l with requested := k :: l.requested })

def Record.req {α : Type} [Inhabited α] (r : Record) (k : String) (d : Decoder α) : FieldM α := do
  match ← r.take k with
  | some (path, v) => note default path (d v)
  | none => note default [] (.error { fault := .data, spot := [Spot.gap r.size] })

def Record.opt {α : Type} (r : Record) (k : String) (d : Decoder α) : FieldM (Option α) := do
  match ← r.take k with
  | some (path, v) => note none path (option d v)
  | none => pure none

def Record.withDefault {α : Type} (r : Record) (k : String) (d : Decoder α) (dflt : α) :
    FieldM α := do
  match ← r.take k with
  | some (path, v) => note dflt path (d v)
  | none => pure dflt

/-- The first problem of the members from index `i` on that is not in a requested member's
value: a name that is not one, a requested member written again (`seen` holds the requested
names met so far), or a problem in another member's value as `other` finds it. -/
def memberFaults (requested : List String) (other : Json → Option DecodeError) :
    Nat → List String → List (String × Json) → Option DecodeError
  | _, _, [] => none
  | i, seen, (k, v) :: kvs =>
    match nameFault false v with
    | some f => some { fault := f, spot := [Spot.entry i] }
    | none =>
      if requested.contains k then
        if seen.contains k then some { fault := .data, spot := [Spot.entry i] }
        else memberFaults requested other (i + 1) (k :: seen) kvs
      else
        match other v with
        | some e => some (e.within [Spot.entry i, 0])
        | none => memberFaults requested other (i + 1) seen kvs

def finish {α : Type} (a : α) : Option DecodeError → Except DecodeError α
  | none => .ok a
  | some e => .error e

/-- A record written as an object, or as an array of its members in the order they are asked
for. An array may stop early, leaving the remaining members missing. -/
def record {α : Type} (k : Record → FieldM α) : Decoder α
  | .obj kvs =>
    let (a, log) := (k ⟨kvs, none⟩).run {}
    finish a (DecodeError.earlier log.failure (memberFaults log.requested skipped 0 [] kvs))
  | .arr xs =>
    let (a, log) := (k ⟨[], some xs⟩).run {}
    finish a (DecodeError.earlier log.failure (leftover log.requested.length (xs.drop log.requested.length)))
  | j => notContainer j

/-- A record, written as an object, whose members include those of a record `inner` read from
the same object. Its own members are decoded where they stand; every other member is read in
full as plain JSON, to be decoded by `inner` once the object ends. A problem there is a value of
the wrong shape, found at the end of the object. -/
def flattened {α β : Type} (inner : Decoder β) (own : Record → FieldM (β → α)) : Decoder α
  | .obj kvs =>
    let (f, log) := (own ⟨kvs, none⟩).run {}
    match DecodeError.earlier log.failure (memberFaults log.requested plain 0 [] kvs) with
    | some e => .error e
    | none =>
      match inner (.obj (kvs.filter fun (k, _) => !log.requested.contains k)) with
      | .ok b => .ok (f b)
      | .error _ => .error { fault := .data, spot := [Spot.gap kvs.length] }
  | j => notContainer j

/-- An enumeration written as a string for a variant without data, or as an object with one
member, the variant's name, for a variant with data. Anything else is malformed where it starts,
and so is a comma after the one member. -/
def variant {α : Type} (units : List (String × α)) (tagged : List (String × Decoder α)) : Decoder α
  | .str s =>
    match units.lookup s with
    | some a => .ok a
    | none => fail .data
  | .obj [] => fail .malformed
  | .obj ((k, v) :: rest) =>
    match nameFault true v with
    | some f => .error { fault := f, spot := [Spot.entry 0] }
    | none =>
      let decoded : Except DecodeError α :=
        match tagged.lookup k, units.lookup k with
        | some d, _ => (d v).mapError (·.within [Spot.entry 0, 0])
        | none, some a => ((unit v).map fun _ => a).mapError (·.within [Spot.entry 0, 0])
        | none, none => .error { fault := .data, spot := [Spot.entry 0] }
      match decoded with
      | .error e => .error e
      | .ok a =>
        match rest with
        | [] => .ok a
        | (_, .cut (.separator why)) :: _ => .error { fault := why, spot := [Spot.entry 1] }
        | _ :: _ => .error { fault := .malformed, spot := [Spot.gap 1] }
  | .cut b => fail (b.read true)
  | _ => fail .malformed

/-- A value written as a string and parsed by `f`; a string that does not parse is of the wrong
shape. -/
def parsed {α ε : Type} (f : String → Except ε α) : Decoder α
  | .str s =>
    match f s with
    | .ok a => .ok a
    | .error _ => fail .data
  | j => mismatch j

end Decode
end ControlPlane
