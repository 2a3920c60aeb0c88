import ControlPlane.Check.Trace
import ControlPlane.Text.Double

/-!
# Verification results

A result says whether a property holds; if it does not, it describes the counterexample: the
packet, the routes received from outside, the failures and the forwarding edges. Statistics
count the routers, adjacencies, variables and assertions of an encoding; a summary averages
them over several runs.
-/

namespace ControlPlane

/-- Size of one encoding, and the time spent on it (in nanoseconds). -/
structure VerificationStats where
  numNodes : Nat := 0
  numEdges : Nat := 0
  numVariables : Nat := 0
  numConstraints : Nat := 0
  encodingTime : Nat := 0
  solverTime : Nat := 0
  deriving DecidableEq, Repr, Inhabited

/-- Statistics over several runs. The averages are double-precision numbers. -/
structure StatsSummary where
  runs : Nat := 0
  avgVariables : Binary64 := ⟨0, -1074⟩
  maxVariables : Nat := 0
  avgConstraints : Binary64 := ⟨0, -1074⟩
  maxConstraints : Nat := 0
  minSolverTime : Nat := 0
  maxSolverTime : Nat := 0
  avgSolverTime : Nat := 0
  deriving DecidableEq, Repr, Inhabited

namespace StatsSummary

def doubleSum (xs : List Nat) : Nat :=
  xs.foldl (fun acc x => Binary64.roundNat (acc + Binary64.roundNat x)) 0

def ofStats (xs : List VerificationStats) : StatsSummary :=
  let n := xs.length
  if n = 0 then {} else
  let vars := xs.map (·.numVariables)
  let cons := xs.map (·.numConstraints)
  let times := xs.map (·.solverTime)
  { runs := n,
    avgVariables := Binary64.ofRatio (doubleSum vars) (Binary64.roundNat n),
    maxVariables := vars.foldl max 0,
    avgConstraints := Binary64.ofRatio (doubleSum cons) (Binary64.roundNat n),
    maxConstraints := cons.foldl max 0,
    minSolverTime := (times.min?).getD 0,
    maxSolverTime := times.foldl max 0,
    avgSolverTime := times.foldr (· + ·) 0 / n }

end StatsSummary

/-- Outcome of checking a property. -/
structure VerificationResult where
  verified : Bool := false
  failures : List String := []
  model : NameMap String := {}
  packetModel : NameMap String := {}
  envModel : NameMap (NameMap String) := {}
  fwdModel : List String := []
  stats : Option VerificationStats := none
  deriving Inhabited

namespace VerificationResult

def holds (stats : Option VerificationStats) : VerificationResult := { verified := true, stats }

/-- Text of a result: whether it holds, and for a counterexample its packet, environment
routes, failures and forwarding edges, each section only when not empty. -/
def text (r : VerificationResult) : String :=
  let head := "verified: " ++ (if r.verified then "true" else "false") ++ "\n"
  if r.verified then head else
  let block (title : String) (lines : List String) : String :=
    if lines.isEmpty then "" else title ++ "\n" ++ String.join (lines.map (· ++ "\n"))
  let packet := block "Packet:" (r.packetModel.entries.map fun (k, v) => "  " ++ k ++ ": " ++ v)
  let env := block "Environment messages:" (r.envModel.entries.flatMap fun (k, record) =>
    ("  " ++ k) :: record.entries.map fun (f, v) =>
      if v.isEmpty then "    " ++ f else "    " ++ f ++ ": " ++ v)
  let failures := block "Failures:" (r.failures.map ("  " ++ ·))
  let fwd := block "Forwarding:" (r.fwdModel.map ("  " ++ ·))
  head ++ packet ++ env ++ failures ++ fwd

end VerificationResult

/-- Answer of a check with one solver call. -/
structure OneAnswer where
  result : VerificationResult
  deriving Inhabited

/-- Answer of a check with one result per key, and statistics over them if asked for. -/
structure ManyAnswer where
  results : NameMap VerificationResult := {}
  stats : Option StatsSummary := none
  deriving Inhabited

def ManyAnswer.verified (a : ManyAnswer) : Bool := a.results.values.all (·.verified)

/-- Answer of a reachability check: the result, and the paths of a counterexample. -/
structure ReachabilityAnswer where
  result : VerificationResult
  flowHistory : Option FlowHistory
  deriving Inhabited

/-- Answer of a determinism check: the result, and for a counterexample its packet and the
forwarding of both copies. -/
structure DeterminismAnswer where
  result : VerificationResult
  flow : Option Flow
  case1 : List String
  case2 : List String
  deriving Inhabited

end ControlPlane
