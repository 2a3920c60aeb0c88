import ControlPlane.Json.Value
import ControlPlane.Text.Double

/-!
# Reading JSON text

The reader takes a text apart the way a decoder that decodes while it reads meets it, and keeps
in the value what each kind of decoder would say about it (`Break`, `Flaw`). The grammar is
strict: no trailing commas, no leading zeros, no raw control characters in strings, four hex
digits in a `\u` escape.

Numbers that are not 64-bit integers are converted to doubles as such a decoder does: the leading
digits while they fit 64 bits, scaled by a power of ten, both rounded to doubles and multiplied
once; a product beyond the largest double is out of range. A decoder of a string pairs surrogate
escapes as it reads and stops at the first one that is unpaired; a reader that skips the string
does not look at them. Arrays and objects are counted from the outside, and the one at depth 128
is marked.

Every reading step consumes at least one character, so the length of the text bounds the number
of steps; the functions count it down as fuel.
-/

namespace ControlPlane

namespace JsonReader

/-- Result of reading a value: the value and the remaining characters, or the value as far as
the text is JSON, with a `cut` where it stops. -/
inductive Reading where
  | ok (v : Json) (rest : List Char)
  | stop (partialValue : Json)

def skipWs : List Char → List Char
  | c :: cs => if c = ' ' ∨ c = '\n' ∨ c = '\t' ∨ c = '\r' then skipWs cs else c :: cs
  | [] => []

def atEnd (rest : List Char) : JsonFault := if rest.isEmpty then .eof else .malformed

/-- Match the remaining letters of a literal such as `true`: nothing when they match, else the
fault where they stop matching. -/
def literal : List Char → List Char → Except JsonFault (List Char)
  | [], cs => .ok cs
  | _ :: _, [] => .error .eof
  | w :: ws, c :: rest => if c = w then literal ws rest else .error .malformed

def hexVal (c : Char) : Option Nat :=
  if '0' ≤ c ∧ c ≤ '9' then some (c.toNat - '0'.toNat)
  else if 'a' ≤ c ∧ c ≤ 'f' then some (c.toNat - 'a'.toNat + 10)
  else if 'A' ≤ c ∧ c ≤ 'F' then some (c.toNat - 'A'.toNat + 10)
  else none

/-- Four hexadecimal digits of a `\u` escape. With fewer than four bytes of text left the text
ends too early, whatever they are. -/
def hex4 : List Char → Except JsonFault (Nat × List Char)
  | a :: b :: c :: d :: rest =>
    match hexVal a, hexVal b, hexVal c, hexVal d with
    | some w, some x, some y, some z => .ok (((w * 16 + x) * 16 + y) * 16 + z, rest)
    | _, _, _, _ => .error .malformed
  | cs => if (String.ofList cs).utf8ByteSize < 4 then .error .eof else .error .malformed

def simpleEscape (c : Char) : Option Char :=
  if c = '"' then some '"' else if c = '\\' then some '\\' else if c = '/' then some '/'
  else if c = 'b' then some '\x08' else if c = 'f' then some '\x0c'
  else if c = 'n' then some '\n' else if c = 'r' then some '\r'
  else if c = 't' then some '\t' else none

/-- A string literal read after its opening quote: its text, whether it has an unpaired
surrogate escape, and the rest; or, for a string that breaks off, what a decoder and a reader
that skips it say. -/
inductive Quoted where
  | whole (s : String) (lone : Bool) (rest : List Char)
  | broken (typed skipped : JsonFault)

def pairChar (hi lo : Nat) : Char := Char.ofNat (0x10000 + (hi - 0xD800) * 0x400 + (lo - 0xDC00))

/-- The rest of a string literal after its opening quote. An unpaired surrogate escape becomes
U+FFFD and sets `lone`; once it is set, a decoder has already stopped, so a later break is
malformed to it. -/
def stringBody (fuel : Nat) (acc : String) (lone : Bool) (cs : List Char) : Quoted :=
  let broken (why : JsonFault) : Quoted := .broken (if lone then .malformed else why) why
  match fuel with
  | 0 => broken .eof
  | fuel + 1 =>
    match cs with
    | [] => broken .eof
    | '"' :: rest => .whole acc lone rest
    | '\\' :: [] => broken .eof
    | '\\' :: c :: rest =>
      match simpleEscape c with
      | some x => stringBody fuel (acc.push x) lone rest
      | none =>
        if c ≠ 'u' then broken .malformed else
        match hex4 rest with
        | .error why => broken why
        | .ok (n, rest') =>
          if 0xDC00 ≤ n ∧ n < 0xE000 then stringBody fuel (acc.push '\uFFFD') true rest'
          else if 0xD800 ≤ n ∧ n < 0xDC00 then
            match rest' with
            | '\\' :: 'u' :: more =>
              match hex4 more with
              | .ok (lo, rest'') =>
                if 0xDC00 ≤ lo ∧ lo < 0xE000 then stringBody fuel (acc.push (pairChar n lo)) lone rest''
                else stringBody fuel (acc.push '\uFFFD') true rest'
              | .error why => broken why
            | [] => broken .eof
            | ['\\'] => broken .eof
            | _ => stringBody fuel (acc.push '\uFFFD') true rest'
          else stringBody fuel (acc.push (Char.ofNat n)) lone rest'
    | c :: rest => if c.toNat < 32 then broken .malformed else stringBody fuel (acc.push c) lone rest

def digits (cs : List Char) : List Char × List Char :=
  (cs.takeWhile Char.isDigit, cs.dropWhile Char.isDigit)

def digitOf (c : Char) : Nat := c.toNat - '0'.toNat

def digitValue (ds : List Char) : Nat :=
  ds.foldl (fun n c => n * 10 + digitOf c) 0

def wordMax : Nat := Nat.pow 2 64 - 1

/-- The integer digits a conversion keeps: digits are taken while the significand fits 64 bits;
from the first that does not fit, every digit only raises the scale. -/
def wholeDigits : List Char → Nat → Int → Bool → Nat × Int
  | [], sig, e, _ => (sig, e)
  | c :: cs, sig, e, full =>
    if !full ∧ sig * 10 + digitOf c ≤ wordMax then wholeDigits cs (sig * 10 + digitOf c) e false
    else wholeDigits cs sig (e + 1) true

/-- The fraction digits a conversion keeps: digits are taken while the significand fits 64 bits,
each lowering the scale; from the first that does not fit, the rest are dropped. -/
def fractionDigits : List Char → Nat → Int → Bool → Nat × Int
  | [], sig, e, _ => (sig, e)
  | c :: cs, sig, e, full =>
    if !full ∧ sig * 10 + digitOf c ≤ wordMax then fractionDigits cs (sig * 10 + digitOf c) (e - 1) false
    else fractionDigits cs sig e true

/-- Rounding to doubles makes `x * 2 ^ e` infinite: it reaches the largest double plus half a
unit in its last place. -/
def beyondDoubles (x : Nat) (e : Int) : Bool :=
  let limit := Nat.pow 2 970 * (Nat.pow 2 54 - 1)
  if 0 ≤ e then x * Nat.pow 2 e.toNat ≥ limit else x ≥ limit * Nat.pow 2 (-e).toNat

/-- The conversion of `sig × 10 ^ e` overflows: the significand and the power of ten are each
rounded to doubles and multiplied; powers beyond `10 ^ 308` overflow at once. Negative scales
never overflow. -/
def overflows (sig : Nat) (e : Int) : Bool :=
  if sig = 0 ∨ e < 0 then false
  else if e > 308 then true
  else
    let p := Binary64.ofRatio (Nat.pow 10 e.toNat) 1
    beyondDoubles (Binary64.roundNat sig * p.mantissa) p.exponent

/-- A number literal, as a value and the rest of the text. Integers that fit 64 bits, signed or
unsigned, stay integers (`-0` does not); every other number is a decimal, marked out of range
where its conversion to a double overflows. -/
def number (cs : List Char) : Except JsonFault (Json × List Char) := do
  let (neg, cs) := match cs with
    | '-' :: rest => (true, rest)
    | _ => (false, cs)
  let (intDigits, rest) := digits cs
  match intDigits with
  | [] => throw (atEnd rest)
  | d :: more =>
    if d = '0' ∧ !more.isEmpty then throw .malformed
    let (fracDigits, rest) ← match rest with
      | '.' :: r =>
        let (fs, r') := digits r
        if fs.isEmpty then throw (atEnd r') else pure (fs, r')
      | _ => pure ([], rest)
    let (expo, hasExp, rest) ← match rest with
      | e :: r =>
        if e = 'e' ∨ e = 'E' then
          let (sign, r) := match r with
            | '+' :: r' => ((1 : Int), r')
            | '-' :: r' => (-1, r')
            | _ => (1, r)
          let (es, r') := digits r
          if es.isEmpty then throw (atEnd r') else pure (sign * (digitValue es : Int), true, r')
        else pure (0, false, rest)
      | [] => pure (0, false, rest)
    let whole := digitValue intDigits
    if fracDigits.isEmpty ∧ !hasExp then
      if !neg ∧ whole ≤ wordMax then return (.num (.int whole), rest)
      if neg ∧ 0 < whole ∧ whole ≤ Nat.pow 2 63 then return (.num (.int (-(whole : Int))), rest)
    let m : Nat := digitValue (intDigits ++ fracDigits)
    let n : JsonNumber := .dec (if neg then -(m : Int) else m) (expo - fracDigits.length)
    let (sig, e) := wholeDigits intDigits 0 0 false
    let (sig, e) := fractionDigits fracDigits sig e false
    return (if overflows sig (e + expo) then .flawed .outOfRange (.num n) else .num n, rest)

/-- What a decoder of an enumeration's name makes of a value that is not a string, starting with
`c`: a value of the wrong type, unless it is malformed or breaks off first. Arrays and objects
are of the wrong type at their first character. -/
def asName (c : Char) (more : List Char) : JsonFault :=
  let word (rest : List Char) : JsonFault :=
    match literal rest more with
    | .ok _ => .data
    | .error why => why
  if c = '[' ∨ c = '\x7b' then .data
  else if c = 'n' then word ['u', 'l', 'l']
  else if c = 't' then word ['r', 'u', 'e']
  else if c = 'f' then word ['a', 'l', 's', 'e']
  else if c = '-' ∨ c.isDigit then
    match number (c :: more) with
    | .ok (.flawed _ _, _) => .malformed
    | .ok _ => .data
    | .error why => why
  else .malformed

def nameBreak : List Char → Break
  | [] => .name .eof .eof .eof
  | c :: more => .name .malformed .malformed (asName c more)

def deepen (deep : Bool) (j : Json) : Json := if deep then .flawed .tooDeep j else j

def member (key : String) (lone : Bool) (v : Json) : String × Json :=
  (key, if lone then .flawed .loneName v else v)

mutual
def value (fuel depth : Nat) (cs : List Char) : Reading :=
  match fuel with
  | 0 => .stop (.cut (.value .eof))
  | fuel + 1 =>
    match skipWs cs with
    | [] => .stop (.cut (.value .eof))
    | c :: rest =>
      let word (v : Json) (ws : List Char) : Reading :=
        match literal ws rest with
        | .ok rest' => .ok v rest'
        | .error why => .stop (.cut (.word why))
      if c = 'n' then word .null ['u', 'l', 'l']
      else if c = 't' then word (.bool true) ['r', 'u', 'e']
      else if c = 'f' then word (.bool false) ['a', 'l', 's', 'e']
      else if c = '"' then
        match stringBody (rest.length + 1) "" false rest with
        | .whole s lone rest' => .ok (if lone then .flawed .loneSurrogate (.str s) else .str s) rest'
        | .broken t k => .stop (.cut (.string t k))
      else if c = '-' ∨ c.isDigit then
        match number (c :: rest) with
        | .ok (v, rest') => .ok v rest'
        | .error why => .stop (.cut (.number why))
      else if c = '[' then
        match skipWs rest with
        | ']' :: rest' => .ok (deepen (depth == 128) (.arr [])) rest'
        | rest' => elements fuel (depth + 1) (depth == 128) [] rest'
      else if c = '\x7b' then
        match skipWs rest with
        | '\x7d' :: rest' => .ok (deepen (depth == 128) (.obj [])) rest'
        | rest' => members fuel (depth + 1) (depth == 128) [] rest'
      else .stop (.cut (.value .malformed))
/-- Elements of an array after its opening bracket or a comma, `acc` holding those read so far
in reverse; its elements are at depth `depth`. -/
def elements (fuel depth : Nat) (deep : Bool) (acc : List Json) (cs : List Char) : Reading :=
  let close (last : List Json) := deepen deep (.arr (acc.reverse ++ last))
  match fuel with
  | 0 => .stop (close [.cut (.value .eof)])
  | fuel + 1 =>
    match value fuel depth cs with
    | .stop p => .stop (close [p])
    | .ok v rest =>
      match skipWs rest with
      | ']' :: rest' => .ok (close [v]) rest'
      | ',' :: rest' => elements fuel depth deep (v :: acc) rest'
      | rest' => .stop (close [v, .cut (.separator (atEnd rest'))])
/-- Members of an object after its opening brace or a comma, `acc` holding those read so far in
reverse; its values are at depth `depth`. -/
def members (fuel depth : Nat) (deep : Bool) (acc : List (String × Json)) (cs : List Char) : Reading :=
  let close (last : List (String × Json)) := deepen deep (.obj (acc.reverse ++ last))
  match fuel with
  | 0 => .stop (close [("", .cut (.name .eof .eof .eof))])
  | fuel + 1 =>
    match skipWs cs with
    | '"' :: rest =>
      match stringBody (rest.length + 1) "" false rest with
      | .broken t k => .stop (close [("", .cut (.name t k t))])
      | .whole key lone rest' =>
        match skipWs rest' with
        | ':' :: rest'' =>
          match value fuel depth rest'' with
          | .stop p => .stop (close [member key lone p])
          | .ok v rest3 =>
            match skipWs rest3 with
            | '\x7d' :: rest4 => .ok (close [member key lone v]) rest4
            | ',' :: rest4 => members fuel depth deep (member key lone v :: acc) rest4
            | rest4 => .stop (close [member key lone v, ("", .cut (.separator (atEnd rest4)))])
        | rest'' => .stop (close [member key lone (.cut (.value (atEnd rest'')))])
    | rest => .stop (close [("", .cut (nameBreak rest))])
end

end JsonReader

/-- A read document: its value, with a `cut` inside where the text stops being JSON, and whether
something other than white space follows a whole value. -/
structure JsonText where
  value : Json
  trailing : Bool

def Json.read (s : String) : JsonText :=
  let cs := s.toList
  match JsonReader.value (2 * cs.length + 2) 1 cs with
  | .stop p => ⟨p, false⟩
  | .ok v rest => ⟨v, !(JsonReader.skipWs rest).isEmpty⟩

mutual
def Json.isPlain : Json → Bool
  | .cut _ | .flawed _ _ => false
  | .arr xs => Json.elemsPlain xs
  | .obj kvs => Json.membersPlain kvs
  | _ => true
def Json.elemsPlain : List Json → Bool
  | [] => true
  | x :: xs => x.isPlain && Json.elemsPlain xs
def Json.membersPlain : List (String × Json) → Bool
  | [] => true
  | (_, v) :: kvs => v.isPlain && Json.membersPlain kvs
end

/-- Read a JSON document that must be a plain value and nothing else: a text that is not JSON,
or that holds a number out of range, an unpaired surrogate or nesting 128 deep, is none. -/
def Json.parse? (s : String) : Option Json :=
  let t := Json.read s
  if !t.trailing && t.value.isPlain then some t.value else none

end ControlPlane
