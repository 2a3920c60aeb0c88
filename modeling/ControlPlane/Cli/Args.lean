import ControlPlane.Text.Basic

/-!
# Command-line arguments

The program takes the path of a network file, options that shape the question, and one
subcommand naming the property to check; the location subcommands and `local-equivalence` take
options of their own.

Arguments are read the way the conventional argument reader of such tools reads them, and its
refusals are named by its error kinds. Reading goes front to back and stops at the first
argument that names a subcommand where no option waits for its value (the rest belongs to the
subcommand, which is read the same way). `--` makes every later argument positional. A long option takes its value after `=` or as
the next argument; a short option takes it attached (`-k1`, `-k=1`) or as the next argument;
short flags cluster (`-nh`). An argument starting with `-` is never taken as a value, so a
negative number must be attached (`-b=-3`). Values are checked after reading, subcommand first:
a missing value, a value that is not a number where one is expected, and an option given twice
are refused then. Help, asked for anywhere, ends reading at once.
-/

namespace ControlPlane
namespace Cli

/-- Why arguments were refused, or that help was asked for. -/
inductive ArgError where
  | displayHelp (command : String)
  | helpOnMissing
  | unknownArgument (arg : String)
  | invalidSubcommand (arg : String)
  | unrecognizedSubcommand (arg : String)
  | valueValidation (arg value : String)
  | emptyValue (arg : String)
  | tooManyValues (arg : String)
  | missingRequiredArgument (arg : String)
  | unexpectedMultipleUsage (arg : String)
  deriving DecidableEq, Repr, Inhabited

namespace ArgError

def kind : ArgError → String
  | .displayHelp _ => "DisplayHelp"
  | .helpOnMissing => "DisplayHelpOnMissingArgumentOrSubcommand"
  | .unknownArgument _ => "UnknownArgument"
  | .invalidSubcommand _ => "InvalidSubcommand"
  | .unrecognizedSubcommand _ => "UnrecognizedSubcommand"
  | .valueValidation .. => "ValueValidation"
  | .emptyValue _ => "EmptyValue"
  | .tooManyValues _ => "TooManyValues"
  | .missingRequiredArgument _ => "MissingRequiredArgument"
  | .unexpectedMultipleUsage _ => "UnexpectedMultipleUsage"

def message : ArgError → String
  | .displayHelp _ | .helpOnMissing => ""
  | .unknownArgument a => "Found argument '" ++ a ++ "' which wasn't expected, or isn't valid in this context"
  | .invalidSubcommand a => "The subcommand '" ++ a ++ "' wasn't recognized"
  | .unrecognizedSubcommand a => "The subcommand '" ++ a ++ "' wasn't recognized"
  | .valueValidation a v => "Invalid value \"" ++ v ++ "\" for '" ++ a ++ "'"
  | .emptyValue a => "The argument '" ++ a ++ "' requires a value but none was supplied"
  | .tooManyValues a => "The argument '" ++ a ++ "' wasn't expecting any more values"
  | .missingRequiredArgument a => "The following required arguments were not provided: " ++ a
  | .unexpectedMultipleUsage a =>
    "The argument '" ++ a ++ "' was provided more than once, but cannot be used multiple times"

end ArgError

/-- What an option takes. -/
inductive ValueKind where
  | flag
  | help
  | text
  | unsigned
  | signed
  deriving DecidableEq, Repr

/-- An option: its identifier, short and long names, and what it takes. -/
structure OptionSpec where
  id : String
  short : Option Char := none
  long : String
  kind : ValueKind
  about : String := ""
  deriving Repr

namespace OptionSpec

def takesValue (o : OptionSpec) : Bool :=
  match o.kind with
  | .text | .unsigned | .signed => true
  | .flag | .help => false

def display (o : OptionSpec) : String :=
  if o.takesValue then "--" ++ o.long ++ " <" ++ o.id.toUpper ++ ">" else "--" ++ o.long

def helpOption : OptionSpec :=
  { id := "help", short := some 'h', long := "help", kind := .help, about := "Print help information" }

end OptionSpec

/-- A command: its name (empty for the program itself), what it does, its options, its one
positional argument if any, and its subcommands. -/
structure CommandSpec where
  name : String := ""
  about : String := ""
  options : List OptionSpec
  positional : Option String := none
  subcommands : List String := []

def parseUnsigned (s : String) : Option Nat := Text.parseU64 s

def parseSigned (s : String) : Option Int := Text.parseI64 s

/-- The matches of the Jaro measure between two words, and how many of them go back. Each
character of `a`, in order, is matched with the first unused equal character of `b` at most
`max |a| |b| / 2 - 1` positions away; a match at an earlier position of `b` than the match before
it goes back. -/
def jaroCounts (a b : List Char) : Nat × Nat :=
  let range := max a.length b.length / 2 - 1
  let bs := b.toArray
  let step (st : Array Bool × Nat × Nat × Nat) (ci : Char × Nat) : Array Bool × Nat × Nat × Nat :=
    let (used, m, t, last) := st
    let (c, i) := ci
    let hi := min (b.length - 1) (i + range)
    match (List.range (hi + 1)).find? (fun j => i - range ≤ j && bs[j]? == some c && !used.getD j true) with
    | some j => (used.set! j true, m + 1, if j < last then t + 1 else t, j)
    | none => st
  let (_, m, t, _) := a.zipIdx.foldl step (Array.replicate b.length false, 0, 0, 0)
  (m, t)

def commonPrefix : List Char → List Char → Nat
  | x :: xs, y :: ys => if x = y then commonPrefix xs ys + 1 else 0
  | _, _ => 0

/-- Whether the Jaro–Winkler similarity of two words exceeds `0.8`. The Jaro similarity is
`J = (m/|a| + m/|b| + (m - t)/m) / 3`, and the common beginning `ℓ`, of any length, raises it to
`J + ℓ (1 - J) / 10`; the comparison is exact. -/
def similar (a b : String) : Bool :=
  let ca := a.toList
  let cb := b.toList
  let la := ca.length
  let lb := cb.length
  if la = 0 && lb = 0 then true
  else if la = 0 || lb = 0 then false
  else if la = 1 && lb = 1 then ca == cb
  else
    let (m, t) := jaroCounts ca cb
    let l : Int := commonPrefix ca cb
    let n : Int := m * m * lb + m * m * la + (m - t) * la * lb
    let d : Int := 3 * la * lb * m
    m != 0 && (10 - l) * n + l * d > 8 * d

/-- An option given on the command line: how often, and its values. -/
structure Given where
  spec : OptionSpec
  count : Nat
  values : List String

/-- What was read of a command's arguments. -/
structure Matches where
  given : List Given := []
  positional : Option String := none
  pending : Option OptionSpec := none
  trailing : Bool := false

namespace Matches

def use (m : Matches) (o : OptionSpec) : Matches :=
  if m.given.any (·.spec.id == o.id) then
    { m with given := m.given.map fun g => if g.spec.id == o.id then { g with count := g.count + 1 } else g }
  else { m with given := m.given ++ [⟨o, 1, []⟩] }

def addValue (m : Matches) (o : OptionSpec) (v : String) : Matches :=
  { m with given := m.given.map fun g => if g.spec.id == o.id then { g with values := g.values ++ [v] } else g }

def value? (m : Matches) (id : String) : Option String :=
  (m.given.find? (·.spec.id == id)).bind (·.values.head?)

def flag (m : Matches) (id : String) : Bool := m.given.any (·.spec.id == id)

end Matches

def longOption (spec : CommandSpec) (m : Matches) (body : String) : Except ArgError Matches :=
  let (name, value) := match body.splitOn "=" with
    | n :: v :: vs => (n, some ("=".intercalate (v :: vs)))
    | _ => (body, none)
  match spec.options.find? (·.long == name) with
  | none => .error (.unknownArgument ("--" ++ name))
  | some o =>
    if !o.takesValue then
      match value, o.kind with
      | some _, _ => .error (.tooManyValues o.display)
      | none, .help => .error (.displayHelp spec.name)
      | none, _ => .ok (m.use o)
    else
      let m := m.use o
      match value with
      | some v => .ok (m.addValue o v)
      | none => .ok { m with pending := some o }

/-- Read a cluster of short options; an option taking a value takes the rest of the cluster,
without a leading `=`, or the next argument if nothing is left. -/
def shortOptions (spec : CommandSpec) (m : Matches) : List Char → Except ArgError Matches
  | [] => .ok m
  | c :: cs =>
    match spec.options.find? (·.short == some c) with
    | none => .error (.unknownArgument ("-" ++ c.toString))
    | some o =>
      match o.kind with
      | .help => .error (.displayHelp spec.name)
      | .flag => shortOptions spec (m.use o) cs
      | _ =>
        match cs with
        | [] => .ok { m.use o with pending := some o }
        | '=' :: rest => .ok ((m.use o).addValue o (String.ofList rest))
        | rest => .ok ((m.use o).addValue o (String.ofList rest))

/-- The complaint about an argument that has no place: before `--`, a word close to a
subcommand's name is taken for a misspelt subcommand; anything else is unknown. -/
def unexpected (spec : CommandSpec) (trailing : Bool) (arg : String) : ArgError :=
  if !trailing && spec.subcommands.any (similar arg) then .invalidSubcommand arg
  else .unknownArgument arg

/-- Where reading a command's arguments stopped: at their end, or at a subcommand. -/
inductive Stop where
  | done
  | sub (name : String) (rest : List String)

/-- Read the arguments of a command up to its subcommand. An option waiting for its value takes
the next argument that does not look like an option, a subcommand's name included. -/
def readArgs (spec : CommandSpec) : Matches → List String → Except ArgError (Matches × Stop)
  | m, [] => .ok (m, .done)
  | m, arg :: rest =>
    if !m.trailing && m.pending.isNone && spec.subcommands.contains arg then .ok (m, .sub arg rest)
    else if !m.trailing && arg == "--" then readArgs spec { m with trailing := true } rest
    else if !m.trailing && arg.startsWith "--" then do
      readArgs spec (← longOption spec { m with pending := none } (arg.drop 2).toString) rest
    else if !m.trailing && arg.startsWith "-" && arg.length > 1 then do
      readArgs spec (← shortOptions spec { m with pending := none } (arg.drop 1).toString.toList) rest
    else match m.pending, m.trailing with
      | some o, false => readArgs spec ({ m with pending := none }.addValue o arg) rest
      | _, _ =>
        if m.positional.isNone && spec.positional.isSome then
          readArgs spec { m with positional := some arg, pending := none } rest
        else .error (unexpected spec m.trailing arg)

/-- Check what was read: values where they are needed, numbers where numbers are needed, and
no option twice. -/
def checkGiven : List Given → Except ArgError Unit
  | [] => .ok ()
  | g :: gs => do
    if g.spec.takesValue && g.values.isEmpty then throw (.emptyValue g.spec.display)
    for v in g.values do
      let ok := match g.spec.kind with
        | .unsigned => (parseUnsigned v).isSome
        | .signed => (parseSigned v).isSome
        | _ => true
      if !ok then throw (.valueValidation g.spec.display v)
    if g.count > 1 then throw (.unexpectedMultipleUsage g.spec.display)
    checkGiven gs

def readLeaf (spec : CommandSpec) (args : List String) : Except ArgError Matches := do
  let (m, stop) ← readArgs spec {} args
  match stop with
  | .sub name _ => throw (.unknownArgument name)
  | .done =>
    if let some o := m.pending then throw (.emptyValue o.display)
    checkGiven m.given
    pure m

/-- Options of a check that names its endpoints. -/
structure LocationArgs where
  ingress : Option String := none
  dst : Option String := none
  iface : Option String := none
  bound : Option Int := none
  negate : Bool := false
  diff : Bool := false
  deriving Repr, Inhabited

/-- The property a run checks, with its own options. -/
inductive PropertyArg where
  | forwarding
  | blackHole
  | routingLoop
  | determinism
  | reachability (l : LocationArgs)
  | boundedLength (l : LocationArgs)
  | equalLength (l : LocationArgs)
  | loadBalancing (l : LocationArgs)
  | multipath (l : LocationArgs)
  | localEquivalence (routers : Option String) (strict : Bool)
  deriving Repr, Inhabited

/-- The arguments of a run. -/
structure Arguments where
  network : String
  question : Option String := none
  failures : Option Nat := none
  failNodes : Bool := false
  noEnvironment : Bool := false
  fullModel : Bool := false
  minimize : Bool := false
  benchmark : Bool := false
  property : PropertyArg
  deriving Repr, Inhabited

def plainProperties : List (String × String × PropertyArg) :=
  [("forwarding", "Compute the forwarding state of the network", .forwarding),
    ("black-hole", "No packet is dropped by a router without a route", .blackHole),
    ("routing-loop", "No packet is forwarded in a loop", .routingLoop),
    ("determinism", "The forwarding does not depend on the message ordering", .determinism)]

def locationProperties : List (String × String × (LocationArgs → PropertyArg)) :=
  [("reachability", "Sources reach the destination", .reachability),
    ("bounded-length", "Sources reach the destination within a number of hops", .boundedLength),
    ("equal-length", "Sources reach the destination with paths of equal length", .equalLength),
    ("load-balancing", "Neighboring sources send the same amount of traffic to each destination",
      .loadBalancing),
    ("multipath", "Packets are either delivered on every path or dropped on every path", .multipath)]

def equivalenceAbout : String := "Routers with the same interfaces behave the same"

def helpAbout : String := "Print this message or the help of the given subcommand(s)"

def subcommandAbouts : List (String × String) :=
  plainProperties.map (fun (n, a, _) => (n, a)) ++ locationProperties.map (fun (n, a, _) => (n, a)) ++
    [("local-equivalence", equivalenceAbout), ("help", helpAbout)]

def subcommandNames : List String := subcommandAbouts.map (·.1)

def programSpec : CommandSpec where
  options := [
    { id := "question", short := some 'q', long := "question", kind := .text,
      about := "JSON file with the question. Options given on the command line take precedence." },
    { id := "failures", short := some 'k', long := "failures", kind := .unsigned,
      about := "Maximal number of failed links" },
    { id := "fail-nodes", long := "fail-nodes", kind := .flag, about := "Let routers fail as well" },
    { id := "no-environment", long := "no-environment", kind := .flag,
      about := "Ignore routes received from external peers" },
    { id := "full-model", long := "full-model", kind := .flag,
      about := "Print the value of every variable of a counterexample" },
    { id := "minimize", long := "minimize", kind := .flag,
      about := "Search for a counterexample with as few environment routes as possible" },
    { id := "benchmark", long := "benchmark", kind := .flag,
      about := "Collect statistics of the encoding and the solver" },
    OptionSpec.helpOption]
  positional := some "network"
  subcommands := subcommandNames

def plainSpec (name about : String) : CommandSpec :=
  { name, about, options := [OptionSpec.helpOption] }

def locationSpec (name about : String) : CommandSpec where
  name := name
  about := about
  options := [
    { id := "ingress", short := some 's', long := "ingress", kind := .text, about := "Source routers" },
    { id := "dst", short := some 'd', long := "dst", kind := .text, about := "Destination routers" },
    { id := "iface", short := some 'i', long := "iface", kind := .text, about := "Destination interfaces" },
    { id := "bound", short := some 'b', long := "bound", kind := .signed,
      about := "Maximal path length, or the tolerated load difference" },
    { id := "negate", short := some 'n', long := "negate", kind := .flag,
      about := "Check the negation of the property" },
    { id := "diff", long := "diff", kind := .flag, about := "Compare the network with failures to the one without" },
    OptionSpec.helpOption]

def equivalenceSpec : CommandSpec where
  name := "local-equivalence"
  about := equivalenceAbout
  options := [
    { id := "routers", short := some 'r', long := "routers", kind := .text, about := "Routers to compare" },
    { id := "strict", short := some 's', long := "strict", kind := .flag,
      about := "Compare the selected routes instead of the forwarding decisions" },
    OptionSpec.helpOption]

def subcommandSpec (name : String) : Option CommandSpec :=
  match plainProperties.find? (·.1 == name), locationProperties.find? (·.1 == name) with
  | some (n, a, _), _ => some (plainSpec n a)
  | none, some (n, a, _) => some (locationSpec n a)
  | none, none =>
    if name == "local-equivalence" then some equivalenceSpec
    else if name == "help" then some (plainSpec "help" helpAbout)
    else none

def helpSubcommand : List String → ArgError
  | [] => .displayHelp ""
  | [name] => if subcommandNames.contains name then .displayHelp name else .unrecognizedSubcommand name
  | name :: next :: _ =>
    if subcommandNames.contains name then .unrecognizedSubcommand next else .unrecognizedSubcommand name

def readProperty (name : String) (args : List String) : Except ArgError PropertyArg := do
  if let some (n, a, p) := plainProperties.find? (·.1 == name) then
    let _ ← readLeaf (plainSpec n a) args
    return p
  if let some (n, a, mk) := locationProperties.find? (·.1 == name) then
    let m ← readLeaf (locationSpec n a) args
    let l : LocationArgs := {
      ingress := m.value? "ingress"
      dst := m.value? "dst"
      iface := m.value? "iface"
      bound := (m.value? "bound").bind parseSigned
      negate := m.flag "negate"
      diff := m.flag "diff" }
    return mk l
  if name == "local-equivalence" then
    let m ← readLeaf equivalenceSpec args
    return .localEquivalence (m.value? "routers") (m.flag "strict")
  throw (helpSubcommand args)

def parseArguments (args : List String) : Except ArgError Arguments := do
  let (m, stop) ← readArgs programSpec {} args
  let property ← match stop with
    | .sub name rest => readProperty name rest
    | .done => do
      if let some o := m.pending then throw (.emptyValue o.display)
      throw .helpOnMissing
  if let some o := m.pending then throw (.emptyValue o.display)
  let some network := m.positional | throw (.missingRequiredArgument "<NETWORK>")
  checkGiven m.given
  pure {
    network
    question := m.value? "question"
    failures := (m.value? "failures").bind parseUnsigned
    failNodes := m.flag "fail-nodes"
    noEnvironment := m.flag "no-environment"
    fullModel := m.flag "full-model"
    minimize := m.flag "minimize"
    benchmark := m.flag "benchmark"
    property }

end Cli
end ControlPlane
