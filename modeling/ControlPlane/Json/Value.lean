/-!
# JSON values

Configurations, questions and answers are JSON documents. Objects keep their members in
document order, duplicates included, because a file is read front to back and a decoder reports
the first problem it meets. `Json.normalize` gives the form a request map has: members sorted by
key, the last of several equal keys winning.

A read document keeps what a decoder needs to say where and why it fails. `cut` stands where the
text stops being JSON, as the last entry of the arrays and objects it interrupts; `flawed` marks
text that reads as JSON but that a decoder of a typed value rejects, while a decoder that skips
the value accepts it.
-/

namespace ControlPlane

/-- A JSON number: an integer that fits 64 bits (signed or unsigned), or any other number as an
exact decimal `mantissa × 10 ^ exponent`. -/
inductive JsonNumber where
  | int (i : Int)
  | dec (mantissa exponent : Int)
  deriving DecidableEq, Repr, Inhabited

/-- What goes wrong where a document is read: the text ends too early (`eof`), a character or a
value stands where it cannot (`malformed`), or a value has the wrong shape (`data`). -/
inductive JsonFault where
  | eof
  | malformed
  | data
  deriving DecidableEq, Repr, Inhabited

def JsonFault.name : JsonFault → String
  | .eof => "Eof"
  | .malformed => "Syntax"
  | .data => "Data"

/-- How a read document stops being JSON, by what stands at the place. Where the readers of a
value differ, each reading is kept: `typed` for a decoder of a typed value, `skipped` for a reader
that skips the value, `asVariant` for a decoder of an enumeration, which reads only strings and
objects. -/
inductive Break where
  | value (why : JsonFault)
  | number (why : JsonFault)
  | word (why : JsonFault)
  | string (typed skipped : JsonFault)
  | name (typed skipped asVariant : JsonFault)
  | separator (why : JsonFault)
  deriving DecidableEq, Repr, Inhabited

/-- Text that reads as JSON but that a decoder of a typed value rejects as malformed. -/
inductive Flaw where
  | outOfRange
  | loneSurrogate
  | tooDeep
  | loneName
  deriving DecidableEq, Repr, Inhabited

/-- A JSON value. -/
inductive Json where
  | null
  | bool (b : Bool)
  | num (n : JsonNumber)
  | str (s : String)
  | arr (xs : List Json)
  | obj (kvs : List (String × Json))
  | cut (b : Break)
  | flawed (f : Flaw) (inner : Json)
  deriving Repr, Inhabited

namespace JsonNumber

def trimZeros (m : Nat) (e : Int) (fuel : Nat) : Nat × Int :=
  match fuel with
  | 0 => (m, e)
  | fuel + 1 => if m ≠ 0 ∧ m % 10 = 0 then trimZeros (m / 10) (e + 1) fuel else (m, e)

/-- Shortest text of a decimal number in the style of floating-point output: digits with a
decimal point (`707.0`, `0.001234`), or an exponent outside `1e-5 ≤ |x| < 1e16`. -/
def decimalText (m e : Int) : String :=
  let sign := if m < 0 then "-" else ""
  let (a, k) := trimZeros m.natAbs e (m.natAbs.log2 + 1)
  if a = 0 then sign ++ "0.0" else
  let ds := toString a
  let len : Int := ds.length
  let kk := len + k
  let zeros (n : Int) := String.ofList (List.replicate n.toNat '0')
  let body :=
    if 0 ≤ k ∧ kk ≤ 16 then ds ++ zeros k ++ ".0"
    else if 0 < kk ∧ kk ≤ 16 then
      String.ofList (ds.toList.take kk.toNat) ++ "." ++ String.ofList (ds.toList.drop kk.toNat)
    else if -5 < kk ∧ kk ≤ 0 then "0." ++ zeros (-kk) ++ ds
    else if len = 1 then ds ++ "e" ++ toString (kk - 1)
    else String.ofList (ds.toList.take 1) ++ "." ++ String.ofList (ds.toList.drop 1) ++ "e" ++ toString (kk - 1)
  sign ++ body

def text : JsonNumber → String
  | .int i => toString i
  | .dec m e => decimalText m e

end JsonNumber

namespace Json

def hex4 (n : Nat) : String :=
  let ds := Nat.toDigits 16 n
  String.ofList (List.replicate (4 - ds.length) '0' ++ ds)

def quoteInto (acc s : String) : String :=
  (s.foldl (fun a c =>
    if c = '"' then a ++ "\\\""
    else if c = '\\' then a ++ "\\\\"
    else if c = '\n' then a ++ "\\n"
    else if c = '\r' then a ++ "\\r"
    else if c = '\t' then a ++ "\\t"
    else if c.toNat < 32 then a ++ "\\u" ++ hex4 c.toNat
    else a.push c) (acc.push '"')).push '"'

def quote (s : String) : String := quoteInto "" s

mutual
def renderInto (acc : String) : Json → String
  | .null => acc ++ "null"
  | .bool b => acc ++ (if b then "true" else "false")
  | .num n => acc ++ n.text
  | .str s => quoteInto acc s
  | .arr xs => renderElems (acc.push '[') true xs |>.push ']'
  | .obj kvs => renderMembers (acc.push '\x7b') true kvs |>.push '\x7d'
  | .cut _ => acc
  | .flawed _ inner => renderInto acc inner
def renderElems (acc : String) (first : Bool) : List Json → String
  | [] => acc
  | x :: xs => renderElems (renderInto (if first then acc else acc.push ',') x) false xs
def renderMembers (acc : String) (first : Bool) : List (String × Json) → String
  | [] => acc
  | (k, v) :: kvs =>
    renderMembers (renderInto ((quoteInto (if first then acc else acc.push ',') k).push ':') v) false kvs
end

def render (j : Json) : String := renderInto "" j

def newline (acc : String) (depth : Nat) : String := (acc.push '\n').pushn ' ' (2 * depth)

mutual
/-- Append the pretty text of a value nested `depth` levels deep: every element of a non-empty
array or object on a line of its own, indented by two spaces a level; empty ones written
inline. -/
def prettyInto (acc : String) (depth : Nat) : Json → String
  | .arr [] => acc ++ "[]"
  | .obj [] => acc ++ "\x7b\x7d"
  | .arr xs => (newline (prettyElems (acc.push '[') (depth + 1) true xs) depth).push ']'
  | .obj kvs => (newline (prettyMembers (acc.push '\x7b') (depth + 1) true kvs) depth).push '\x7d'
  | j => renderInto acc j
def prettyElems (acc : String) (depth : Nat) (first : Bool) : List Json → String
  | [] => acc
  | x :: xs => prettyElems (prettyInto (newline (if first then acc else acc.push ',') depth) depth x) depth false xs
def prettyMembers (acc : String) (depth : Nat) (first : Bool) : List (String × Json) → String
  | [] => acc
  | (k, v) :: kvs =>
    let key := quoteInto (newline (if first then acc else acc.push ',') depth) k ++ ": "
    prettyMembers (prettyInto key depth v) depth false kvs
end

def pretty (j : Json) : String := prettyInto "" 0 j

mutual
/-- Number of lines of the pretty-printed text: every element of a non-empty array or object on
a line of its own, empty ones written inline. -/
def prettyLines : Json → Nat
  | .arr [] => 1
  | .obj [] => 1
  | .arr xs => 2 + elemLines xs
  | .obj kvs => 2 + memberLines kvs
  | _ => 1
def elemLines : List Json → Nat
  | [] => 0
  | x :: xs => prettyLines x + elemLines xs
def memberLines : List (String × Json) → Nat
  | [] => 0
  | (_, v) :: kvs => prettyLines v + memberLines kvs
end

def insertSorted (k : String) (v : Json) : List (String × Json) → List (String × Json)
  | [] => [(k, v)]
  | (k', v') :: rest =>
    if k < k' then (k, v) :: (k', v') :: rest
    else if k = k' then (k, v) :: rest
    else (k', v') :: insertSorted k v rest

mutual
def normalize : Json → Json
  | .arr xs => .arr (normalizeElems xs)
  | .obj kvs => .obj (normalizeMembers [] kvs)
  | j => j
def normalizeElems : List Json → List Json
  | [] => []
  | x :: xs => normalize x :: normalizeElems xs
def normalizeMembers (acc : List (String × Json)) : List (String × Json) → List (String × Json)
  | [] => acc
  | (k, v) :: kvs => normalizeMembers (insertSorted k (normalize v) acc) kvs
end

def field? (j : Json) (k : String) : Option Json :=
  match j with
  | .obj kvs => kvs.foldl (fun r (k', v) => if k' = k then some v else r) none
  | _ => none

def fieldOrNull (j : Json) (k : String) : Json := (j.field? k).getD .null

def getStr? : Json → Option String
  | .str s => some s
  | _ => none

def getInt? : Json → Option Int
  | .num (.int i) => some i
  | _ => none

def getBool? : Json → Option Bool
  | .bool b => some b
  | _ => none

def getArr? : Json → Option (List Json)
  | .arr xs => some xs
  | _ => none

def ofNat (n : Nat) : Json := .num (.int n)

def ofInt (i : Int) : Json := .num (.int i)

def ofStrs (xs : List String) : Json := .arr (xs.map .str)

def ofOption {α : Type} (f : α → Json) : Option α → Json
  | some a => f a
  | none => .null

end Json
end ControlPlane
