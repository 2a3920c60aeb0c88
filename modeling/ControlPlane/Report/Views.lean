import ControlPlane.Check.Query
import ControlPlane.Report.Encoding
import ControlPlane.Text.Digest

/-!
# Views of values

JSON views of terms, prefixes, configurations, statistics, answers and solver calls. Long texts
are only compared, never read, so a text longer than 50,000 bytes is written as its digest and
length instead.
-/

namespace ControlPlane
namespace Report

open Schema

def boundedText (t : String) : Json :=
  if t.utf8ByteSize ≤ 50000 then str t
  else obj [("digest", str (Digest.hex (Digest.ofString t))), ("len", Json.ofNat t.utf8ByteSize)]

def boundedTerm (t : Term) : Json := boundedText t.render

def linesDigest (xs : List String) : Json := str (Digest.hex (Digest.ofLines xs))

def evaluated {α : Type} (f : α → Json) : Except SmtError α → Json
  | .ok a => f a
  | .error e => kindOnly ("SmtError." ++ e.kind)

/-- A term: its text, sort and simplification, its value when it is a constant or its name when
it is a variable, and its value under a model. -/
def termView (e simple : Term) (m : Model) : List (String × Json) :=
  [("text", boundedTerm e), ("sort", str e.sort.name), ("simplified", boundedTerm simple),
    ("as_bool", Json.ofOption Json.bool e.asBool?), ("as_int", Json.ofOption Json.ofInt e.asInt?),
    ("as_bv", Json.ofOption Json.ofNat e.asBv?), ("var_name", Json.ofOption str e.varName?),
    ("value", match m.eval e with
      | .ok v => valueJson v
      | .error err => kindAndMessage ("SmtError." ++ err.kind) err.message),
    ("eval_bool", evaluated Json.bool (m.evalBool e)),
    ("eval_int", evaluated Json.ofInt (m.evalInt e))]

def orderingName : Ordering → String
  | .lt => "Less"
  | .eq => "Equal"
  | .gt => "Greater"

/-- A prefix: whether it contains an address and how it relates to another prefix; with a
range of lengths, which prefixes the prefix with that range includes; with a mask length, the
mask and the prefix and interface address of the first address with that length. -/
def prefixView (p : Prefix) (ip : Option Ip) (other : Option Prefix) (range : Option SubRange)
    (tests : List Prefix) (mask : Option Nat) : Json :=
  obj ([("prefix", str p.text)] ++
    (ip.map fun a => [("contains_ip", Json.bool (p.containsIp a))]).getD [] ++
    (other.map fun o => [("contains_prefix", Json.bool (p.containsPrefix o)),
      ("contained_in", .bool (o.containsPrefix p)), ("cmp", str (orderingName (compare p o)))]).getD [] ++
    (range.map fun r => [("includes", Json.arr (tests.map fun t => .bool (PrefixRange.includesPrefix ⟨p, r⟩ t))),
      ("exact_includes_self", .bool ((PrefixRange.exact p).includesPrefix p))]).getD [] ++
    (mask.map fun m => [("mask", Json.ofNat (maskOf m).toNat), ("renew", str (Prefix.make p.start m).text),
      ("iface", str (InterfaceAddress.make p.start m).text)]).getD [])

/-- A configuration with what derives from it: the BGP router id, the OSPF areas of its
interfaces, per interface whether it is a loopback and its subnet, per static route whether it
drops traffic, and per BGP session whether it is internal. -/
def configurationView (c : Configuration) : Json :=
  obj [("config", configurationJson c), ("bgp_router_id", str c.bgpRouterId.text),
    ("ospf_areas", .arr (c.ospfAreas.map Json.ofNat)),
    ("interfaces", .obj (c.interfaces.entries.map fun (k, i) =>
      (k, obj [("is_loopback", .bool i.isLoopback), ("prefix", Json.ofOption (fun p => str p.text) i.subnet?)]))),
    ("null_routed", .arr (c.staticRoutes.map fun r => .bool r.isNullRouted)),
    ("ibgp", .arr (((c.bgp.map (·.neighbors)).getD []).map fun n => .bool n.isIbgp))]

def summaryView (s : StatsSummary) : Json :=
  obj [("runs", Json.ofNat s.runs), ("avg_variables", doubleJson s.avgVariables),
    ("max_variables", Json.ofNat s.maxVariables), ("avg_constraints", doubleJson s.avgConstraints),
    ("max_constraints", Json.ofNat s.maxConstraints), ("min_solver_ms", Json.ofNat (s.minSolverTime / 1000000)),
    ("max_solver_ms", Json.ofNat (s.maxSolverTime / 1000000)), ("avg_solver_ms", Json.ofNat (s.avgSolverTime / 1000000))]

/-- The display text of an answer, and facts derived from it: whether all results of a
many-result answer hold, and the number of traces of a reachability answer's history. -/
def answerDisplay : QueryAnswer → Json × List (String × Json)
  | .one a => (str a.result.text, [])
  | .many a => (.obj (a.results.entries.map fun (k, r) => (k, str r.text)), [("verified", .bool a.verified)])
  | .determinism a => (obj [("result", str a.result.text), ("flow", Json.ofOption (fun f => str f.text) a.flow)], [])
  | .reachability a =>
    (obj [("result", str a.result.text), ("flow_history", Json.ofOption (fun h => str h.text) a.flowHistory)],
      [("history_len", Json.ofOption (fun h => Json.ofNat h.traces.length) a.flowHistory),
        ("history_empty", Json.ofOption (fun h => .bool h.traces.isEmpty) a.flowHistory)])

/-- A record of one solver call: context size, digests, the answer and the assertions a model
makes false; with `dump`, the assertions added since `prev`, or all when they no longer extend
it. Also returns this call's count and digest of assertions. -/
def solverCallView (dump listVars : Bool) (ctx : Context) (prev : Option (Nat × String)) (a : SatAnswer) :
    Json × (Nat × String) :=
  let texts := ctx.assertionTexts
  let digest := Digest.hex (Digest.ofLines texts)
  let lines := ctx.varLines
  let base := [("vars", Json.ofNat ctx.numVariables), ("constraints", Json.ofNat ctx.numConstraints),
    ("assert_digest", str digest), ("var_digest", linesDigest lines)]
  let answer := match a with
    | .unsat => [("answer", str "unsat")]
    | .unknown _ => [("answer", str "unknown")]
    | .sat m =>
      let falses := falsified m ctx
      [("answer", str "sat"), ("false", Json.ofNat falses.length),
        ("first_false", Json.ofOption Json.ofNat falses.head?), ("eval_errors", Json.ofNat (unevaluable m ctx))]
  let vars := if listVars then [("variables", Json.ofStrs lines)] else []
  let dumped := if dump then
      let k := match prev with
        | some (k, d) => if texts.length ≥ k ∧ Digest.hex (Digest.ofLines (texts.take k)) == d then k else 0
        | none => 0
      [("assertions", Json.ofStrs (texts.drop k)), ("assert_from", Json.ofNat k)]
    else []
  (obj (base ++ answer ++ vars ++ dumped), (texts.length, digest))

end Report
end ControlPlane
