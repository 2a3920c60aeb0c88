import ControlPlane.Network.Schema

/-!
# Questions

A question fixes the packets to check (a header space), how many links may fail, what the
environment may announce, and how BGP ranks routes. Location questions add regular expressions
for the sources, the destination interfaces and the links and routers that may fail; a
consistency question names the routers to compare.
-/

namespace ControlPlane

/-- An attribute of the BGP decision process. -/
inductive BgpRank where
  | localPref
  | pathLength
  | med
  | ebgpOverIbgp
  | igpCost
  deriving DecidableEq, Repr, Inhabited

/-- What routes the environment may announce. -/
inductive EnvironmentType where
  | any
  | none
  | sane
  deriving DecidableEq, Repr, Inhabited

/-- How a network with failures may differ from the network without. -/
inductive DiffType where
  | increased
  | reduced
  | any
  deriving DecidableEq, Repr, Inhabited

/-- A question about the packets of a header space. -/
structure HeaderQuestion where
  headerSpace : HeaderSpace := {}
  failures : Nat := 0
  failNodeQuery : Bool := false
  fullModel : Bool := false
  noEnvironment : Bool := false
  modelOverflow : Bool := false
  bgpRanking : List BgpRank := [.localPref, .pathLength, .med, .ebgpOverIbgp, .igpCost]
  environmentType : EnvironmentType := .any
  diffType : DiffType := .any
  diff : Bool := false
  benchmark : Bool := false
  minimize : Bool := false
  deriving Repr, Inhabited

/-- A question between sources and destination interfaces. -/
structure LocationQuestion where
  header : HeaderQuestion := {}
  ingressNodeRegex : String := ".*"
  notIngressNodeRegex : String := ""
  finalNodeRegex : String := ".*"
  notFinalNodeRegex : String := ""
  finalIfaceRegex : String := ".*"
  notFinalIfaceRegex : String := ""
  failNode1Regex : String := ".*"
  failNode2Regex : String := ".*"
  notFailNode1Regex : String := ""
  notFailNode2Regex : String := ""
  failNodeRegex : String := ".*"
  notFailNodeRegex : String := ""
  bound : Int := 0
  negate : Bool := false
  deriving Repr, Inhabited

/-- A question comparing routers with each other. -/
structure ConsistencyQuestion where
  header : HeaderQuestion := {}
  routerRegex : String := ".*"
  strict : Bool := false
  deriving Repr, Inhabited

namespace LocationQuestion

def between (ingress dst iface : String) : LocationQuestion :=
  { ingressNodeRegex := ingress, finalNodeRegex := dst, finalIfaceRegex := iface }

end LocationQuestion

namespace Schema

open Decode

def bgpRank : Decoder BgpRank :=
  variant [("LOCALPREF", .localPref), ("PATHLEN", .pathLength), ("MED", .med),
    ("EBGP_PREF_IBGP", .ebgpOverIbgp), ("IGPCOST", .igpCost)] []

def bgpRankJson : BgpRank → Json
  | .localPref => str "LOCALPREF"
  | .pathLength => str "PATHLEN"
  | .med => str "MED"
  | .ebgpOverIbgp => str "EBGP_PREF_IBGP"
  | .igpCost => str "IGPCOST"

def environmentType : Decoder EnvironmentType :=
  variant [("ANY", .any), ("NONE", .none), ("SANE", .sane)] []

def environmentTypeJson : EnvironmentType → Json
  | .any => str "ANY"
  | .none => str "NONE"
  | .sane => str "SANE"

def diffType : Decoder DiffType :=
  variant [("INCREASED", .increased), ("REDUCED", .reduced), ("ANY", .any)] []

def diffTypeJson : DiffType → Json
  | .increased => str "INCREASED"
  | .reduced => str "REDUCED"
  | .any => str "ANY"

def headerFields (r : Record) : FieldM HeaderQuestion := do
  let d : HeaderQuestion := {}
  let headerSpace ← r.withDefault "header_space" headerSpace d.headerSpace
  let failures ← r.withDefault "failures" u64 d.failures
  let failNodeQuery ← r.withDefault "fail_node_query" bool d.failNodeQuery
  let fullModel ← r.withDefault "full_model" bool d.fullModel
  let noEnvironment ← r.withDefault "no_environment" bool d.noEnvironment
  let modelOverflow ← r.withDefault "model_overflow" bool d.modelOverflow
  let bgpRanking ← r.withDefault "bgp_ranking" (list bgpRank) d.bgpRanking
  let environmentType ← r.withDefault "environment_type" environmentType d.environmentType
  let diffType ← r.withDefault "diff_type" diffType d.diffType
  let diff ← r.withDefault "diff" bool d.diff
  let benchmark ← r.withDefault "benchmark" bool d.benchmark
  let minimize ← r.withDefault "minimize" bool d.minimize
  pure { headerSpace, failures, failNodeQuery, fullModel, noEnvironment, modelOverflow, bgpRanking,
         environmentType, diffType, diff, benchmark, minimize }

def headerQuestion : Decoder HeaderQuestion := record headerFields

def headerMembers (q : HeaderQuestion) : List (String × Json) :=
  [("header_space", headerSpaceJson q.headerSpace), ("failures", Json.ofNat q.failures),
    ("fail_node_query", .bool q.failNodeQuery), ("full_model", .bool q.fullModel),
    ("no_environment", .bool q.noEnvironment), ("model_overflow", .bool q.modelOverflow),
    ("bgp_ranking", .arr (q.bgpRanking.map bgpRankJson)),
    ("environment_type", environmentTypeJson q.environmentType), ("diff_type", diffTypeJson q.diffType),
    ("diff", .bool q.diff), ("benchmark", .bool q.benchmark), ("minimize", .bool q.minimize)]

def headerQuestionJson (q : HeaderQuestion) : Json := .obj (headerMembers q)

def locationQuestion : Decoder LocationQuestion := flattened headerQuestion fun r => do
  let d : LocationQuestion := {}
  let s (k : String) (v : String) := r.withDefault k string v
  let ingressNodeRegex ← s "ingress_node_regex" d.ingressNodeRegex
  let notIngressNodeRegex ← s "not_ingress_node_regex" d.notIngressNodeRegex
  let finalNodeRegex ← s "final_node_regex" d.finalNodeRegex
  let notFinalNodeRegex ← s "not_final_node_regex" d.notFinalNodeRegex
  let finalIfaceRegex ← s "final_iface_regex" d.finalIfaceRegex
  let notFinalIfaceRegex ← s "not_final_iface_regex" d.notFinalIfaceRegex
  let failNode1Regex ← s "fail_node1_regex" d.failNode1Regex
  let failNode2Regex ← s "fail_node2_regex" d.failNode2Regex
  let notFailNode1Regex ← s "not_fail_node1_regex" d.notFailNode1Regex
  let notFailNode2Regex ← s "not_fail_node2_regex" d.notFailNode2Regex
  let failNodeRegex ← s "fail_node_regex" d.failNodeRegex
  let notFailNodeRegex ← s "not_fail_node_regex" d.notFailNodeRegex
  let bound ← r.withDefault "bound" i64 d.bound
  let negate ← r.withDefault "negate" bool d.negate
  let question (header : HeaderQuestion) : LocationQuestion :=
    { header, ingressNodeRegex, notIngressNodeRegex, finalNodeRegex, notFinalNodeRegex,
      finalIfaceRegex, notFinalIfaceRegex, failNode1Regex, failNode2Regex, notFailNode1Regex,
      notFailNode2Regex, failNodeRegex, notFailNodeRegex, bound, negate }
  pure question

def locationQuestionJson (q : LocationQuestion) : Json :=
  .obj (headerMembers q.header ++
    [("ingress_node_regex", str q.ingressNodeRegex), ("not_ingress_node_regex", str q.notIngressNodeRegex),
    ("final_node_regex", str q.finalNodeRegex), ("not_final_node_regex", str q.notFinalNodeRegex),
    ("final_iface_regex", str q.finalIfaceRegex), ("not_final_iface_regex", str q.notFinalIfaceRegex),
    ("fail_node1_regex", str q.failNode1Regex), ("fail_node2_regex", str q.failNode2Regex),
    ("not_fail_node1_regex", str q.notFailNode1Regex), ("not_fail_node2_regex", str q.notFailNode2Regex),
    ("fail_node_regex", str q.failNodeRegex), ("not_fail_node_regex", str q.notFailNodeRegex),
    ("bound", Json.ofInt q.bound), ("negate", .bool q.negate)])

def consistencyQuestion : Decoder ConsistencyQuestion := flattened headerQuestion fun r => do
  let d : ConsistencyQuestion := {}
  let routerRegex ← r.withDefault "router_regex" string d.routerRegex
  let strict ← r.withDefault "strict" bool d.strict
  let question (header : HeaderQuestion) : ConsistencyQuestion := { header, routerRegex, strict }
  pure question

end Schema
end ControlPlane
