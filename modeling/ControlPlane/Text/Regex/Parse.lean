import ControlPlane.Text.Regex.Basic
import ControlPlane.Text.Property
import ControlPlane.Text.CaseFold

/-!
# Reading patterns

Router patterns and community regexes are regular expressions in the syntax of the usual regex
engines of systems languages. A pattern has literals and `.`, bracketed classes (with POSIX
names, nested classes and the operators `&&`, `--` and `~~`), the escapes `\d \w \s` and their
negations, Unicode classes `\pL`, `\p{name}` and `\p{name=value}` (also with `:`, and with `!=`
for the complement) and their negations `\P…`, hexadecimal escapes, the assertions
`^ $ \A \z \b \B \< \>` and `\b{start}` with its kin, groups (plain, non-capturing and named),
flag groups `(?flags)` and `(?flags:…)`, alternation, and the repetitions `* + ? {n} {n,} {n,m}`,
each of which may be lazy.

The flags are `i` (case does not matter), `m` (`^` and `$` match at line ends), `s` (`.` matches
a line feed), `R` (a carriage return also ends a line), `x` (white space and `#` comments are
skipped), `U` (repetitions are lazy unless marked, and the other way round) and `u` (Unicode, on
by default). A flag group without a colon sets its flags for the rest of the group it stands in.

With Unicode on, `\d`, `\w`, `\s` and word boundaries take the Unicode decimal numbers, word
characters and white space, and case is folded by the Unicode simple case folding. With Unicode
off they are ASCII and only ASCII letters fold; a pattern must still match UTF-8 text only, so `.`,
`\B`, a byte escape `\xNN` past ASCII, a class that reaches past ASCII and every Unicode class are
errors then. Folding comes before negation.

Nesting is limited: a group, a repetition, a bracketed class, a sequence of two or more parts, an
alternation, a union of two or more class members and a class operator each count one level
around what they hold, and a pattern nested more than 250 levels deep is an error. A pattern that
does not read completely is an error, as are look-around and back-references.
-/

namespace ControlPlane
namespace Regex

/-- The flags that hold while a part of a pattern is read. -/
structure Flags where
  caseless : Bool := false
  multiLine : Bool := false
  dotAll : Bool := false
  crlf : Bool := false
  verbose : Bool := false
  swapGreed : Bool := false
  unicode : Bool := true
  deriving Repr, Inhabited

/-- Where reading stands: the rest of the pattern, the names of the groups read so far and the
number of capturing groups. -/
structure Cursor where
  rest : List Char
  names : List String := []
  groups : Nat := 0
  deriving Inhabited

abbrev Parser := StateT Cursor (Except String)

def reject {α : Type} (msg : String) : Parser α := throw msg

def nestLimit : Nat := 250

def isWhite (c : Char) : Bool := Property.space.contains c

def dropSpace (inComment : Bool) : List Char → List Char
  | [] => []
  | c :: rest =>
    if inComment then dropSpace (c != '\n') rest
    else if isWhite c then dropSpace false rest
    else if c = '#' then dropSpace true rest
    else c :: rest

def rest : Parser (List Char) := return (← get).rest

def resume (cs : List Char) : Parser Unit := modify fun c => { c with rest := cs }

def peek : Parser (Option Char) := return (← get).rest.head?

def atEnd : Parser Bool := return (← get).rest.isEmpty

def advance : Parser Unit := modify fun c => { c with rest := c.rest.drop 1 }

def skipSpace (f : Flags) : Parser Unit :=
  if f.verbose then modify fun c => { c with rest := dropSpace false c.rest } else pure ()

def bump (f : Flags) : Parser Bool := do
  advance
  skipSpace f
  return !(← atEnd)

def isMeta (c : Char) : Bool := "\\.+*?()|[]\x7b\x7d^$#&-~".contains c

/-- Characters that stand for themselves after a backslash: the meta characters and every other
ASCII character that is neither a letter, a digit, `<` nor `>`. -/
def isEscapable (c : Char) : Bool :=
  isMeta c || (c.toNat < 128 && !c.isAlphanum && c != '<' && c != '>')

def hexDigit (c : Char) : Option Nat :=
  if '0' ≤ c ∧ c ≤ '9' then some (c.toNat - '0'.toNat)
  else if 'a' ≤ c ∧ c ≤ 'f' then some (c.toNat - 'a'.toNat + 10)
  else if 'A' ≤ c ∧ c ≤ 'F' then some (c.toNat - 'A'.toNat + 10)
  else none

def hexValue (ds : List Char) : Option Nat :=
  ds.foldl (fun acc c => acc.bind fun n => (hexDigit c).map (n * 16 + ·)) (some 0)

def codePoint (n : Nat) : Parser Char :=
  if n ≤ 0x10FFFF ∧ ¬ (0xD800 ≤ n ∧ n ≤ 0xDFFF) then pure (Char.ofNat n) else reject "invalid escape"

def hexDigits (f : Flags) : Nat → List Char → Parser (List Char)
  | 0, acc => pure acc
  | n + 1, acc => do
    if !acc.isEmpty then
      if !(← bump f) then reject "incomplete escape"
    match ← peek with
    | some c => if (hexDigit c).isSome then hexDigits f n (acc ++ [c]) else reject "invalid hex digit"
    | none => reject "incomplete escape"

def hexBraced (f : Flags) : Nat → List Char → Parser (List Char)
  | 0, _ => reject "incomplete escape"
  | fuel + 1, acc => do
    if !(← bump f) then reject "incomplete escape"
    match ← peek with
    | some '\x7d' => pure acc
    | some c => if (hexDigit c).isSome then hexBraced f fuel (acc ++ [c]) else reject "invalid hex digit"
    | none => reject "incomplete escape"

/-- The character of a hexadecimal escape, at the letter that starts it: `x` takes two digits,
`u` four and `U` eight, or any number of them in braces. Also whether it was the two digit form,
which names a byte when Unicode is off. -/
def hexEscape (f : Flags) (width : Nat) : Parser (Char × Bool) := do
  if !(← bump f) then reject "incomplete escape"
  let (ds, fixed) ← if (← peek) == some '\x7b' then do
      let ds ← hexBraced f ((← rest).length + 1) []
      let _ ← bump f
      if ds.isEmpty then reject "empty hex escape"
      pure (ds, false)
    else do
      let ds ← hexDigits f width []
      let _ ← bump f
      pure (ds, true)
  match hexValue ds with
  | some n => return (← codePoint n, fixed && width = 2)
  | none => reject "invalid hex escape"

def isBoundaryLetter (c : Char) : Bool := c.isAlpha || c = '-'

def boundaryName (f : Flags) : Nat → List Char → Parser (List Char)
  | 0, _ => reject "unclosed word boundary"
  | fuel + 1, acc => do
    match ← peek with
    | some c =>
      if isBoundaryLetter c then
        let _ ← bump f
        boundaryName f fuel (acc ++ [c])
      else if c = '\x7d' then pure acc
      else reject "unclosed word boundary"
    | none => reject "unclosed word boundary"

/-- The word boundary after `\b`: plain, or one of `\b{start}`, `\b{end}`, `\b{start-half}` and
`\b{end-half}`. A brace that cannot start such a name is left for a counted repetition. -/
def wordBoundary (f : Flags) : Parser Look := do
  let u := f.unicode
  let saved ← rest
  if (← peek) != some '\x7b' then return .wordBoundary u
  if !(← bump f) then reject "unclosed word boundary"
  match ← peek with
  | some c =>
    if !isBoundaryLetter c then
      resume saved
      return .wordBoundary u
  | none => pure ()
  let name ← boundaryName f ((← rest).length + 1) []
  advance
  match String.ofList name with
  | "start" => return .wordStart u
  | "end" => return .wordEnd u
  | "start-half" => return .wordStartHalf u
  | "end-half" => return .wordEndHalf u
  | _ => reject "unknown word boundary"

/-- What a Unicode class asks for: one letter, a name, or a property and its value. -/
inductive Query where
  | named (name : String)
  | byValue (name value : String)

def Query.resolve : Query → Option CharSet
  | .named name => Property.named? name
  | .byValue name value => Property.byValue? name value

/-- The characters of a name in braces, up to the closing brace; white space is skipped with the
verbose flag. -/
def braced (f : Flags) : Nat → List Char → Parser (List Char)
  | 0, _ => reject "incomplete escape"
  | fuel + 1, acc => do
    if !(← bump f) then reject "incomplete escape"
    match ← peek with
    | some '\x7d' => pure acc
    | some c => braced f fuel (acc ++ [c])
    | none => reject "incomplete escape"

def splitAt (sep : List Char) (cs : List Char) : Option (List Char × List Char) :=
  (List.range (cs.length + 1)).findSome? fun i =>
    if sep.isPrefixOf (cs.drop i) then some (cs.take i, cs.drop (i + sep.length)) else none

/-- The query of a name in braces: `name!=value` (for the complement), `name:value`,
`name=value` or a name. -/
def query (name : List Char) : Query × Bool :=
  let pair (p : List Char × List Char) := Query.byValue (String.ofList p.1) (String.ofList p.2)
  match splitAt ['!', '='] name with
  | some p => (pair p, true)
  | none => match splitAt [':'] name with
    | some p => (pair p, false)
    | none => match splitAt ['='] name with
      | some p => (pair p, false)
      | none => (.named (String.ofList name), false)

def unicodeClass (f : Flags) : Parser (Query × Bool) := do
  let negated := (← peek) == some 'P'
  if !(← bump f) then reject "incomplete escape"
  match ← peek with
  | some '\x7b' =>
    let name ← braced f ((← rest).length + 1) []
    advance
    let (q, flip) := query name
    return (q, negated != flip)
  | some '\\' => reject "invalid Unicode class"
  | some c =>
    let _ ← bump f
    return (.named (String.singleton c), negated)
  | none => reject "incomplete escape"

/-- What an escape stands for. -/
inductive Escaped where
  | char (c : Char) (byte : Bool)
  | perl (kind : Char) (negated : Bool)
  | unicode (q : Query) (negated : Bool)
  | look (l : Look)

def escape (f : Flags) : Parser Escaped := do
  advance
  let some c ← peek | reject "incomplete escape"
  if c.isDigit then reject "back-references are not supported"
  else if c = 'x' then
    let (ch, b) ← hexEscape f 2
    return .char ch b
  else if c = 'u' then return .char (← hexEscape f 4).1 false
  else if c = 'U' then return .char (← hexEscape f 8).1 false
  else if c = 'p' || c = 'P' then
    let (q, n) ← unicodeClass f
    return .unicode q n
  else if "dwsDWS".contains c then
    advance
    return .perl c.toLower c.isUpper
  else
    advance
    if isEscapable c then return .char c false
    else if c = 'a' then return .char '\x07' false
    else if c = 'f' then return .char '\x0c' false
    else if c = 't' then return .char '\t' false
    else if c = 'n' then return .char '\n' false
    else if c = 'r' then return .char '\r' false
    else if c = 'v' then return .char '\x0b' false
    else if c = 'A' then return .look .textStart
    else if c = 'z' then return .look .textEnd
    else if c = 'b' then return .look (← wordBoundary f)
    else if c = 'B' then
      if f.unicode then return .look (.notWordBoundary true)
      else reject "ASCII non-boundary can split a character"
    else if c = '<' then return .look (.wordStart f.unicode)
    else if c = '>' then return .look (.wordEnd f.unicode)
    else reject "unrecognized escape"

/-- The set, folded when case does not matter: by Unicode simple case folding, or for ASCII
letters only with Unicode off. -/
def foldIf (f : Flags) (s : CharSet) : CharSet :=
  if !f.caseless then s else if f.unicode then s.caseFold else s.asciiFold

def checked (f : Flags) (s : CharSet) : Parser CharSet :=
  if !f.unicode && !s.isAscii then reject "class reaches past ASCII" else pure s

def foldNegate (f : Flags) (negated : Bool) (s : CharSet) : Parser CharSet :=
  let s := foldIf f s
  checked f (if negated then s.complement else s)

def perlSet (f : Flags) (kind : Char) (negated : Bool) : Parser CharSet :=
  let base :=
    if f.unicode then (if kind = 'd' then Property.digit else if kind = 's' then Property.space else Property.word)
    else (if kind = 'd' then CharSet.asciiDigit else if kind = 's' then CharSet.asciiSpace else CharSet.asciiWord)
  checked f (if negated then base.complement else base)

def unicodeSet (f : Flags) (q : Query) (negated : Bool) : Parser CharSet := do
  if !f.unicode then reject "Unicode classes need Unicode"
  let some s := q.resolve | reject "unknown Unicode class"
  foldNegate f negated s

def literalChar (f : Flags) (c : Char) (byte : Bool) : Parser Regex := do
  if !f.unicode && byte && c.toNat > 0x7F then reject "byte escape past ASCII"
  if !f.caseless then return .literal [c]
  if f.unicode then
    return if CharSet.hasFold c then ofClass false (CharSet.single c).caseFold else .literal [c]
  return if c.isAlpha then ofClass true (CharSet.single c).asciiFold else .literal [c]

def dot (f : Flags) : Parser Regex := do
  if !f.unicode then reject "dot can match part of a character"
  return ofClass false <|
    if f.dotAll then CharSet.all
    else if f.crlf then (CharSet.ofRanges [('\n', '\n'), ('\r', '\r')]).complement
    else (CharSet.single '\n').complement

def posixClass (name : String) : Option CharSet :=
  (match name with
    | "alnum" => some [('0', '9'), ('A', 'Z'), ('a', 'z')]
    | "alpha" => some [('A', 'Z'), ('a', 'z')]
    | "ascii" => some [('\x00', '\x7F')]
    | "blank" => some [('\t', '\t'), (' ', ' ')]
    | "cntrl" => some [('\x00', '\x1F'), ('\x7F', '\x7F')]
    | "digit" => some [('0', '9')]
    | "graph" => some [('!', '~')]
    | "lower" => some [('a', 'z')]
    | "print" => some [(' ', '~')]
    | "punct" => some [('!', '/'), (':', '@'), ('[', '`'), ('\x7b', '~')]
    | "space" => some [('\t', '\r'), (' ', ' ')]
    | "upper" => some [('A', 'Z')]
    | "word" => some [('0', '9'), ('A', 'Z'), ('_', '_'), ('a', 'z')]
    | "xdigit" => some [('0', '9'), ('A', 'F'), ('a', 'f')]
    | _ => none).map CharSet.ofRanges

/-- A POSIX class `[:name:]` or `[:^name:]` at the front of the text: its set, whether it is
negated, and the text after it. Anything else, an unknown name included, is none: the bracket then
opens a nested class. -/
def posixAt (cs : List Char) : Option (CharSet × Bool × List Char) :=
  match cs with
  | '[' :: ':' :: more =>
    let (negated, body) := match more with
      | '^' :: r => (true, r)
      | r => (false, r)
    let name := body.takeWhile (· != ':')
    match body.dropWhile (· != ':') with
    | ':' :: ']' :: after => (posixClass (String.ofList name)).map fun s => (s, negated, after)
    | _ => none
  | _ => none

def firstShown (inComment : Bool) : List Char → Option Char
  | [] => none
  | c :: more =>
    if isWhite c then firstShown inComment more
    else if !inComment && c = '#' then firstShown true more
    else some c

/-- The character after the current one, as a class reads it to tell a range from a literal
`-`: with the verbose flag, past white space and the `#` of a comment. -/
def peekAfter (f : Flags) : List Char → Option Char
  | [] => none
  | _ :: more => if f.verbose then (firstShown false more).orElse fun _ => more.head? else more.head?

def classItem (f : Flags) : Parser (Sum Char CharSet) := do
  match ← peek with
  | some '\\' =>
    match ← escape f with
    | .char c b =>
      if !f.unicode && b && c.toNat > 0x7F then reject "byte escape past ASCII"
      return .inl c
    | .perl k n => return .inr (← perlSet f k n)
    | .unicode q n => return .inr (← unicodeSet f q n)
    | .look _ => reject "assertion in a class"
  | some c =>
    advance
    return .inl c
  | none => reject "unclosed class"

def classChar (f : Flags) (c : Char) : Parser Nat :=
  if !f.unicode && c.toNat > 0x7F then reject "class reaches past ASCII" else pure c.toNat

def itemSet (f : Flags) : Sum Char CharSet → Parser CharSet
  | .inl c => do let n ← classChar f c; pure ⟨[(n, n)]⟩
  | .inr s => pure s

def classRange (f : Flags) : Parser CharSet := do
  let first ← classItem f
  skipSpace f
  let cs ← rest
  match cs with
  | [] => reject "unclosed class"
  | c :: _ =>
    if c != '-' || peekAfter f cs == some ']' || peekAfter f cs == some '-' then
      return ← itemSet f first
    if !(← bump f) then reject "unclosed class"
    match first, ← classItem f with
    | .inl lo, .inl hi =>
      if hi < lo then reject "invalid class range"
      let a ← classChar f lo
      let b ← classChar f hi
      return ⟨[(a, b)]⟩
    | _, _ => reject "invalid class range"

/-- The operators between the parts of a class. -/
inductive ClassOp where
  | inter
  | diff
  | symmDiff

/-- The members read since the last operator: their set, their number and the deepest nesting
among them. -/
structure Members where
  set : CharSet := CharSet.empty
  count : Nat := 0
  depth : Nat := 0

def Members.add (m : Members) (s : CharSet) (depth : Nat) : Members :=
  { set := m.set.union s, count := m.count + 1, depth := Nat.max m.depth depth }

def Members.nesting (m : Members) : Nat := if m.count ≥ 2 then m.depth + 1 else m.depth

/-- The part of a class before a pending operator: the operator, its left side and that side's
nesting. -/
structure Pending where
  op : ClassOp
  lhs : CharSet
  depth : Nat

/-- Combine the part before a pending operator with the members after it; both sides are folded
first when case does not matter. The set and its nesting. -/
def combine (f : Flags) : Option Pending → Members → CharSet × Nat
  | none, m => (m.set, m.nesting)
  | some p, m =>
    let l := foldIf f p.lhs
    let r := foldIf f m.set
    let s := match p.op with
      | .inter => l.inter r
      | .diff => l.diff r
      | .symmDiff => l.symmDiff r
    (s, Nat.max p.depth m.nesting + 1)

def leadingDashes (f : Flags) : Nat → Nat → Parser Nat
  | 0, seen => pure seen
  | fuel + 1, seen => do
    if (← peek) == some '-' then
      if !(← bump f) then reject "unclosed class"
      leadingDashes f fuel (seen + 1)
    else pure seen

mutual
/-- A class, from its opening bracket to its closing one: folded when case does not matter, then
negated if it starts with `^`. A `]` or any `-` right after the opening stand for themselves.
The set and its nesting. -/
def classOpen (fuel : Nat) (f : Flags) : Parser (CharSet × Nat) :=
  match fuel with
  | 0 => reject "pattern too deep"
  | fuel + 1 => do
    if !(← bump f) then reject "unclosed class"
    let negated ← if (← peek) == some '^' then do
        if !(← bump f) then reject "unclosed class"
        pure true
      else pure false
    let dashes ← leadingDashes f ((← rest).length + 1) 0
    let start : Members ← if dashes > 0 then pure { set := CharSet.single '-', count := dashes }
      else if (← peek) == some ']' then do
        if !(← bump f) then reject "unclosed class"
        pure { set := CharSet.single ']', count := 1 }
      else pure {}
    let (body, depth) ← classBody fuel f none start
    return (← foldNegate f negated body, depth + 1)

/-- The members of a class up to its closing bracket: `m` are the members read since the last
operator, `pending` that operator with the part before it. -/
def classBody (fuel : Nat) (f : Flags) (pending : Option Pending) (m : Members) :
    Parser (CharSet × Nat) :=
  match fuel with
  | 0 => reject "pattern too deep"
  | fuel + 1 => do
    skipSpace f
    let cs ← rest
    match cs with
    | [] => reject "unclosed class"
    | '[' :: _ =>
      match posixAt cs with
      | some (s, negated, after) =>
        resume after
        classBody fuel f pending (m.add (← foldNegate f negated s) 0)
      | none =>
        let (inner, depth) ← classOpen fuel f
        classBody fuel f pending (m.add inner depth)
    | ']' :: _ =>
      advance
      return combine f pending m
    | '&' :: '&' :: after =>
      resume after
      let (lhs, depth) := combine f pending m
      classBody fuel f (some ⟨.inter, lhs, depth⟩) {}
    | '-' :: '-' :: after =>
      resume after
      let (lhs, depth) := combine f pending m
      classBody fuel f (some ⟨.diff, lhs, depth⟩) {}
    | '~' :: '~' :: after =>
      resume after
      let (lhs, depth) := combine f pending m
      classBody fuel f (some ⟨.symmDiff, lhs, depth⟩) {}
    | _ =>
      let item ← classRange f
      classBody fuel f pending (m.add item 0)
end

def skipWhite (f : Flags) : Nat → Parser Unit
  | 0 => pure ()
  | fuel + 1 => do
    if let some c ← peek then
      if isWhite c then
        let _ ← bump f
        skipWhite f fuel

def digits (f : Flags) : Nat → List Char → Parser (List Char)
  | 0, acc => pure acc
  | fuel + 1, acc => do
    match ← peek with
    | some c =>
      if c.isDigit then
        let _ ← bump f
        digits f fuel (acc ++ [c])
      else pure acc
    | none => pure acc

/-- A count of a repetition, with white space around it; none without digits. A count must fit
in 32 bits. -/
def decimal (f : Flags) : Parser (Option Nat) := do
  resume ((← rest).dropWhile isWhite)
  let ds ← digits f ((← rest).length + 1) []
  skipWhite f ((← rest).length + 1)
  if ds.isEmpty then return none
  let n := ds.foldl (fun n c => n * 10 + (c.toNat - '0'.toNat)) 0
  if n < Nat.pow 2 32 then return some n else reject "repetition count too large"

/-- The bounds of a counted repetition `{n}`, `{n,}` or `{n,m}`, at its opening brace, and
whether it is lazy. -/
def counted (f : Flags) : Parser (Nat × Option Nat × Bool) := do
  if !(← bump f) then reject "unclosed repetition"
  let lo? ← decimal f
  if (← atEnd) then reject "unclosed repetition"
  let bounds ← if (← peek) == some ',' then do
      if !(← bump f) then reject "unclosed repetition"
      let some lo := lo? | reject "missing repetition count"
      if (← peek) == some '\x7d' then pure (lo, none)
      else do
        let some hi ← decimal f | reject "missing repetition count"
        pure (lo, some hi)
    else do
      let some lo := lo? | reject "missing repetition count"
      pure (lo, some lo)
  if (← peek) != some '\x7d' then reject "unclosed repetition"
  let lazy ← if (← bump f) then do
      if (← peek) == some '?' then
        advance
        pure true
      else pure false
    else pure false
  match bounds with
  | (lo, some hi) => if hi < lo then reject "invalid repetition range" else return (lo, some hi, lazy)
  | (lo, none) => return (lo, none, lazy)

/-- An item of a flag group: a flag letter, or the `-` that clears the flags after it. -/
inductive FlagItem where
  | negation
  | flag (c : Char)
  deriving BEq

/-- The items of a flag group up to its `:` or `)`. A flag may appear once, and so may `-`,
which must be followed by a flag. -/
def flagItems : Nat → List FlagItem → Bool → Parser (List FlagItem)
  | 0, _, _ => reject "unclosed flags"
  | fuel + 1, items, lastNegation => do
    match ← peek with
    | none => reject "unclosed flags"
    | some c =>
      if c = ':' || c = ')' then
        if lastNegation then reject "flag negation without a flag" else return items
      let item : FlagItem := if c = '-' then .negation else .flag c
      if c != '-' && !"imsUuRx".contains c then reject "unknown flag"
      if items.contains item then reject "repeated flag"
      advance
      if (← atEnd) then reject "unclosed flags"
      flagItems fuel (items ++ [item]) (c = '-')

def setFlag (f : Flags) (c : Char) (on : Bool) : Flags :=
  match c with
  | 'i' => { f with caseless := on }
  | 'm' => { f with multiLine := on }
  | 's' => { f with dotAll := on }
  | 'R' => { f with crlf := on }
  | 'x' => { f with verbose := on }
  | 'U' => { f with swapGreed := on }
  | 'u' => { f with unicode := on }
  | _ => f

def applyFlags (f : Flags) (items : List FlagItem) : Flags :=
  (items.foldl (fun (f, on) item => match item with
    | .negation => (f, false)
    | .flag c => (setFlag f c on, on)) (f, true)).1

def validName : List Char → Bool
  | [] => false
  | c :: more => (Property.alphabetic.contains c || c = '_') &&
    more.all fun d => Property.alphabetic.contains d || Property.numeric.contains d ||
      d = '_' || d = '.' || d = '[' || d = ']'

def groupName : Parser Unit := do
  let cs ← rest
  let name := cs.takeWhile (· != '>')
  match cs.dropWhile (· != '>') with
  | '>' :: after =>
    if !validName name then reject "invalid group name"
    let text := String.ofList name
    if (← get).names.contains text then reject "repeated group name"
    modify fun c => { c with rest := after, names := c.names ++ [text] }
  | _ => reject "unclosed group name"

/-- What an opening parenthesis starts: a group with its nesting, or flags for the rest of the
enclosing group. -/
inductive Opened where
  | group (r : Regex) (depth : Nat)
  | flags (f : Flags)

def nesting (depths : List Nat) : Nat :=
  match depths with
  | [] => 0
  | [d] => d
  | ds => ds.foldl Nat.max 0 + 1

def startsLookAround (cs : List Char) : Bool :=
  ["?=", "?!", "?<=", "?<!"].any fun p => p.toList.isPrefixOf cs

def nextGroup : Parser Nat := do
  modify fun c => { c with groups := c.groups + 1 }
  return (← get).groups

mutual
/-- Alternatives, up to a closing parenthesis or the end, with their nesting. Flags set in one
alternative hold in the alternatives after it. -/
def alternatives (fuel : Nat) (f : Flags) (done : List (Regex × Nat)) : Parser (Regex × Nat) :=
  match fuel with
  | 0 => reject "pattern too deep"
  | fuel + 1 => do
    let (a, f') ← sequence fuel f [] none
    let done := done ++ [a]
    if (← peek) == some '|' then
      advance
      alternatives fuel f' done
    else return (Regex.alternation (done.map (·.1)), nesting (done.map (·.2)))

/-- Parts of one alternative: `done` are the parts read before `last`, the part a repetition
applies to (none at the start and after a flag group), each with its nesting. Returns the
alternative with its nesting, and the flags at its end. -/
def sequence (fuel : Nat) (f : Flags) (done : List (Regex × Nat)) (last : Option (Regex × Nat)) :
    Parser ((Regex × Nat) × Flags) :=
  match fuel with
  | 0 => reject "pattern too deep"
  | fuel + 1 => do
    skipSpace f
    let cs ← rest
    let parts := done ++ last.toList
    let finish := ((Regex.concat (parts.map (·.1)), nesting (parts.map (·.2))), f)
    match cs with
    | [] => return finish
    | '|' :: _ => return finish
    | ')' :: _ => return finish
    | '(' :: _ =>
      match ← opened fuel f with
      | .flags f' => sequence fuel f' (parts ++ [(.empty, 0)]) none
      | .group r d => sequence fuel f parts (some (r, d))
    | '[' :: _ =>
      let (s, d) ← classOpen (2 * cs.length + 2) f
      sequence fuel f parts (some (ofClass (!f.unicode) s, d))
    | c :: _ =>
      if c = '*' || c = '+' || c = '?' || c = '\x7b' then
        match last with
        | none => reject "repetition without expression"
        | some (r, d) =>
          let (lo, hi, lazy) ← if c = '\x7b' then counted f
            else do
              advance
              let lazy ← if (← peek) == some '?' then do advance; pure true else pure false
              pure (if c = '*' then (0, none, lazy) else if c = '+' then (1, none, lazy) else (0, some 1, lazy))
          sequence fuel f done (some (Regex.repetition r lo hi (lazy == f.swapGreed), d + 1))
      else
        let part ← match c with
          | '\\' => do
            match ← escape f with
            | .char ch b => literalChar f ch b
            | .perl k n => pure (ofClass (!f.unicode) (← perlSet f k n))
            | .unicode q n => pure (ofClass false (← unicodeSet f q n))
            | .look l => pure (.look l)
          | '.' => do advance; dot f
          | '^' => do advance; pure (.look (if f.multiLine then .lineStart f.crlf else .textStart))
          | '$' => do advance; pure (.look (if f.multiLine then .lineEnd f.crlf else .textEnd))
          | _ => do advance; literalChar f c false
        sequence fuel f parts (some (part, 0))

/-- What an opening parenthesis starts: a named, non-capturing, flagged or plain group, or a
flag group without a colon. -/
def opened (fuel : Nat) (f : Flags) : Parser Opened :=
  match fuel with
  | 0 => reject "pattern too deep"
  | fuel + 1 => do
    advance
    skipSpace f
    let cs ← rest
    if startsLookAround cs then reject "look-around is not supported"
    let (inner, index) ← if "?P<".toList.isPrefixOf cs || "?<".toList.isPrefixOf cs then do
        resume (cs.dropWhile (· != '<') |>.drop 1)
        groupName
        pure (f, some (← nextGroup))
      else if cs.head? == some '?' then do
        advance
        if (← atEnd) then reject "unclosed group"
        let items ← flagItems ((← rest).length + 1) [] false
        let closing ← peek
        advance
        if closing == some ')' then
          if items.isEmpty then reject "repetition without expression"
          return .flags (applyFlags f items)
        pure (applyFlags f items, none)
      else pure (f, some (← nextGroup))
    let (r, d) ← alternatives fuel inner []
    if (← peek) == some ')' then
      advance
      return .group (match index with | some i => .group i r | none => r) (d + 1)
    else reject "unclosed group"
end

def parse (pattern : String) : Except String Regex :=
  let cs := pattern.toList
  let whole : Parser Regex := do
    let (r, d) ← alternatives (4 * cs.length + 8) {} []
    if !(← atEnd) then reject "unopened group"
    if d > nestLimit then reject "pattern nested too deeply"
    return r
  (whole.run { rest := cs }).map (·.1)

end Regex
end ControlPlane
