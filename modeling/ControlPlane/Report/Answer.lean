import ControlPlane.Check.Result
import ControlPlane.Network.Schema

/-!
# Answers as JSON

The JSON forms of verification results, statistics, counterexample paths and the answers of
the checks. Durations are objects `{"secs", "nanos"}`; averages are doubles written in their
shortest form.
-/

namespace ControlPlane
namespace Report

open Schema

def durationJson (ns : Nat) : Json :=
  obj [("secs", Json.ofNat (ns / 1000000000)), ("nanos", Json.ofNat (ns % 1000000000))]

def doubleJson (x : Binary64) : Json :=
  let (d, k) := x.shortest
  .num (.dec d k)

def statsJson (s : VerificationStats) : Json :=
  obj [("num_nodes", Json.ofNat s.numNodes), ("num_edges", Json.ofNat s.numEdges),
    ("num_variables", Json.ofNat s.numVariables), ("num_constraints", Json.ofNat s.numConstraints),
    ("encoding_time", durationJson s.encodingTime), ("solver_time", durationJson s.solverTime)]

def summaryJson (s : StatsSummary) : Json :=
  obj [("runs", Json.ofNat s.runs), ("avg_variables", doubleJson s.avgVariables),
    ("max_variables", Json.ofNat s.maxVariables), ("avg_constraints", doubleJson s.avgConstraints),
    ("max_constraints", Json.ofNat s.maxConstraints), ("min_solver_time", durationJson s.minSolverTime),
    ("max_solver_time", durationJson s.maxSolverTime), ("avg_solver_time", durationJson s.avgSolverTime)]

def textMapJson (m : NameMap String) : Json := .obj (m.entries.map fun (k, v) => (k, str v))

def resultJson (r : VerificationResult) : Json :=
  obj [("verified", .bool r.verified), ("failures", Json.ofStrs r.failures),
    ("model", textMapJson r.model), ("packet_model", textMapJson r.packetModel),
    ("env_model", .obj (r.envModel.entries.map fun (k, m) => (k, textMapJson m))),
    ("fwd_model", Json.ofStrs r.fwdModel), ("stats", Json.ofOption statsJson r.stats)]

def traceEdgeJson (e : TraceEdge) : Json :=
  obj [("node1", str e.node1), ("int1", str e.int1), ("node2", str e.node2), ("int2", str e.int2)]

def advertisementJson (a : Advertisement) : Json :=
  obj [("adv_type", str a.advType), ("network", str a.network.text), ("src_node", str a.srcNode),
    ("dst_node", str a.dstNode), ("dst_ip", str a.dstIp.text), ("protocol", str a.protocol.title),
    ("local_pref", Json.ofNat a.localPref), ("med", Json.ofNat a.med),
    ("as_path", .arr (a.asPath.map Json.ofInt)), ("communities", .arr (a.communities.map fun c => str c.text))]

def flowTraceJson (t : FlowTrace) : Json :=
  obj [("disposition", str t.disposition.name),
    ("hops", .arr (t.hops.map fun h => obj [("edge", traceEdgeJson h.edge), ("routes", Json.ofStrs h.routes)])),
    ("notes", str t.notes)]

def environmentJson (e : Environment) : Json :=
  obj [("name", str e.name), ("failed_links", .arr (e.failedLinks.map traceEdgeJson)),
    ("bgp_advertisements", .arr (e.advertisements.map advertisementJson))]

def flowHistoryJson (h : FlowHistory) : Json :=
  obj [("traces", .arr (h.traces.map fun e =>
    obj [("flow", flowJson e.flow), ("scenario", str e.scenario.name),
      ("environment", environmentJson e.environment), ("trace", flowTraceJson e.trace)]))]

def oneAnswerJson (a : OneAnswer) : Json := obj [("result", resultJson a.result)]

def manyAnswerJson (a : ManyAnswer) : Json :=
  obj [("results", .obj (a.results.entries.map fun (k, r) => (k, resultJson r))),
    ("stats", Json.ofOption summaryJson a.stats)]

def reachabilityAnswerJson (a : ReachabilityAnswer) : Json :=
  obj [("result", resultJson a.result), ("flow_history", Json.ofOption flowHistoryJson a.flowHistory)]

def determinismAnswerJson (a : DeterminismAnswer) : Json :=
  obj [("result", resultJson a.result), ("flow", Json.ofOption flowJson a.flow),
    ("forwarding_case1", Json.ofStrs a.case1), ("forwarding_case2", Json.ofStrs a.case2)]

end Report

namespace Schema

open Decode

def duration : Decoder Nat := record fun r => do
  let secs ← r.req "secs" u64
  let nanos ← r.req "nanos" u32
  pure (secs * 1000000000 + nanos)

def verificationStats : Decoder VerificationStats := record fun r => do
  let numNodes ← r.req "num_nodes" u64
  let numEdges ← r.req "num_edges" u64
  let numVariables ← r.req "num_variables" u64
  let numConstraints ← r.req "num_constraints" u64
  let encodingTime ← r.req "encoding_time" duration
  let solverTime ← r.req "solver_time" duration
  pure { numNodes, numEdges, numVariables, numConstraints, encodingTime, solverTime }

def textSet : Decoder (List String) := fun j => do
  pure (Ordered.setOf compare (← list string j))

def textMap : Decoder (NameMap String) := fun j => do pure (NameMap.ofList (← map string j))

def verificationResult : Decoder VerificationResult := record fun r => do
  let verified ← r.req "verified" bool
  let failures ← r.req "failures" textSet
  let model ← r.req "model" textMap
  let packetModel ← r.req "packet_model" textMap
  let envModel ← r.req "env_model" fun j => do
    pure (NameMap.ofList (← map textMap j))
  let fwdModel ← r.req "fwd_model" textSet
  let stats ← r.opt "stats" verificationStats
  pure { verified, failures, model, packetModel, envModel, fwdModel, stats }

end Schema
end ControlPlane
