import ControlPlane.Cli.Args
import ControlPlane.Json.Parse
import ControlPlane.Check.Query

/-!
# Running the program

A run reads the network file, builds its graph and names the run after the file's stem. With a
solver it then reads the question file, lets the options of the command line override the
question, checks the property and prints the answer as pretty JSON. This project has no solver
of its own, so the program itself stops after the graph with a message saying so; `check` is the
part a solver would run.

Files are read through a function, so that the same program runs on the file system and on
files given as data. A text that is not the JSON expected is refused as malformed, cut short, or
of the wrong shape, whichever the reader meets first.
-/

namespace ControlPlane
namespace Cli

/-- Why a file cannot be read, named as the operating system's errors are. -/
inductive FileError where
  | notFound
  | permissionDenied
  | isADirectory
  | notADirectory
  | invalidData
  | other (kind : String)
  deriving DecidableEq, Repr, Inhabited

namespace FileError

def kind : FileError → String
  | .notFound => "NotFound"
  | .permissionDenied => "PermissionDenied"
  | .isADirectory => "IsADirectory"
  | .notADirectory => "NotADirectory"
  | .invalidData => "InvalidData"
  | .other k => k

def debugText : FileError → String
  | .notFound => "Os \x7b code: 2, kind: NotFound, message: \"No such file or directory\" \x7d"
  | .permissionDenied => "Os \x7b code: 13, kind: PermissionDenied, message: \"Permission denied\" \x7d"
  | .isADirectory => "Os \x7b code: 21, kind: IsADirectory, message: \"Is a directory\" \x7d"
  | .notADirectory => "Os \x7b code: 20, kind: NotADirectory, message: \"Not a directory\" \x7d"
  | .invalidData => "Error \x7b kind: InvalidData, message: \"stream did not contain valid UTF-8\" \x7d"
  | .other k => "Kind(" ++ k ++ ")"

end FileError

/-- Why a run failed after its arguments were read. -/
inductive RunError where
  | file (e : FileError)
  | json (c : JsonFault)
  | network (e : NetworkError)
  | verify (e : VerifyError)
  | message (text : String)
  deriving Repr, Inhabited

namespace RunError

def kind : RunError → String
  | .file e => "Io." ++ e.kind
  | .json c => "Json." ++ c.name
  | .network e => "NetworkError." ++ e.kind
  | .verify e => e.kind
  | .message _ => "Cli"

def message? : RunError → Option String
  | .file _ | .json _ => none
  | .network e => some e.message
  | .verify e => some e.message
  | .message t => some t

def networkFields : NetworkError → List String
  | .routerNotFound r | .invalidAddress r | .invalidPrefix r | .invalidCommunity r
  | .inconsistentTopology r | .duplicateRouter r => [r]
  | .interfaceNotFound a b | .policyNotFound a b | .aclNotFound a b | .communityListNotFound a b
  | .routeFilterListNotFound a b | .invalidRegex a b => [a, b]

/-- The error as the program reports it when it ends with it: the kind of the error and its
fields. -/
def debugText : RunError → String
  | .file e => e.debugText
  | .json c => "Error(" ++ Json.quote (c.name ++ " error") ++ ")"
  | .network e => e.kind ++ "(" ++ ", ".intercalate ((networkFields e).map Json.quote) ++ ")"
  | .verify e => e.kind ++ "(" ++ Json.quote e.message ++ ")"
  | .message t => Json.quote t

end RunError

/-- Decode a text: the first problem in it, or, after a value that decodes, text other than
white space, which is malformed. -/
def decodeText {α : Type} (d : Decoder α) (text : String) : Except JsonFault α :=
  let t := Json.read text
  match d t.value with
  | .ok a => if t.trailing then .error .malformed else .ok a
  | .error e => .error e.fault

def readJson {α : Type} (d : Decoder α) : Except FileError String → Except RunError α
  | .error e => .error (.file e)
  | .ok text => (decodeText d text).mapError .json

/-- Files held in memory: their texts by path. The directories `dirs` cannot be read as files,
with or without a final `/`, and any other path does not exist. -/
def memoryFiles (files : List (String × String)) (dirs : List String) (path : String) :
    Except FileError String :=
  match files.lookup path with
  | some text => .ok text
  | none =>
    let bare := if path.endsWith "/" && path.length > 1 then (path.dropEnd 1).toString else path
    if dirs.contains bare then .error .isADirectory else .error .notFound

/-- The last component of a path that names something in a directory: not `.`, `..` or the
root. -/
def fileName (path : String) : Option String :=
  match ((path.splitOn "/").filter fun p => p != "" && p != ".").getLast? with
  | some ".." => none
  | some p => some p
  | none => none

/-- The stem of a path's file name: the part before its last dot, unless that dot starts the
name. -/
def fileStem (path : String) : Option String :=
  (fileName path).map fun name =>
    match name.toList.reverse.dropWhile (· != '.') with
    | [] => name
    | _ :: before => if before.isEmpty then name else String.ofList before.reverse

def loadNetwork (path : String) (text : Except FileError String) : Except RunError (Graph × String) := do
  let n ← readJson Schema.network text
  let g ← (Graph.build n.configurations n.topology).mapError .network
  pure (g, (fileStem path).getD "network")

def noSolverMessage : String :=
  "netverify_main was built without a solver, enable the feature `z3-solver`"

namespace Arguments

/-- The question's shared part with the options of the command line: `-k` replaces the number
of failures, the flags are added. -/
def applyHeader (a : Arguments) (q : HeaderQuestion) : HeaderQuestion :=
  { q with
    failures := a.failures.getD q.failures
    failNodeQuery := q.failNodeQuery || a.failNodes
    noEnvironment := q.noEnvironment || a.noEnvironment
    fullModel := q.fullModel || a.fullModel
    minimize := q.minimize || a.minimize
    benchmark := q.benchmark || a.benchmark }

/-- A location question with the options of the command line: the given patterns and bound
replace the question's, the flags are added. -/
def applyLocation (a : Arguments) (l : LocationArgs) (q : LocationQuestion) : LocationQuestion :=
  let header := a.applyHeader q.header
  { q with
    header := { header with diff := header.diff || l.diff }
    ingressNodeRegex := l.ingress.getD q.ingressNodeRegex
    finalNodeRegex := l.dst.getD q.finalNodeRegex
    finalIfaceRegex := l.iface.getD q.finalIfaceRegex
    bound := l.bound.getD q.bound
    negate := q.negate || l.negate }

def questionOf {α : Type} (a : Arguments) (files : String → Except FileError String) (d : Decoder α)
    (dflt : α) : Except RunError α :=
  match a.question with
  | none => .ok dflt
  | some path => readJson d (files path)

/-- The query of a run: the property the arguments name, with the question of the question file
(or the default question) overridden by the options of the command line. -/
def query (a : Arguments) (files : String → Except FileError String) : Except RunError Query :=
  let header := (a.questionOf files Schema.headerQuestion {}).map a.applyHeader
  let location (l : LocationArgs) := (a.questionOf files Schema.locationQuestion {}).map (a.applyLocation l)
  match a.property with
  | .forwarding => .forwarding <$> header
  | .blackHole => .blackHole <$> header
  | .routingLoop => .routingLoop <$> header
  | .determinism => .determinism <$> header
  | .reachability l => .reachability <$> location l
  | .boundedLength l => .boundedLength <$> location l
  | .equalLength l => .equalLength <$> location l
  | .loadBalancing l => .loadBalancing <$> location l
  | .multipath l => .multipath <$> location l
  | .localEquivalence routers strict =>
    (a.questionOf files Schema.consistencyQuestion {}).map fun q => .localEquivalence { q with
      header := a.applyHeader q.header
      routerRegex := routers.getD q.routerRegex
      strict := q.strict || strict }

end Arguments

abbrev Run (σ : Type) := ExceptT RunError (Solve σ)

def check {σ : Type} (files : String → Except FileError String) (c : Checker σ) (a : Arguments) :
    Run σ Json :=
  ExceptT.mk do
    match a.query files with
    | .error e => pure (.error e)
    | .ok q =>
      match ← (c.answer q).run with
      | .ok answer => pure (.ok answer.json)
      | .error e => pure (.error (.verify e))

end Cli
end ControlPlane
