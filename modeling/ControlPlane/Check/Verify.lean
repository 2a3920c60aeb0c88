import ControlPlane.Check.Result

/-!
# Solving an encoding

A solver answers whether the assertions of a context are satisfiable, with a model if they are.
Verification asks it once; with minimization it asks again, each time forbidding models that
use more routes from outside than the last one, until no smaller model exists. The last model
becomes the counterexample of the result.

The solver is a parameter with a state of its own, so that a fixed answer, a script of answers,
or a log of the calls all fit. Its state survives errors: what a solver saw before a failure is
still there.
-/

namespace ControlPlane

/-- Answer of a solver. -/
inductive SatAnswer where
  | unsat
  | sat (m : Model)
  | unknown (reason : String)
  deriving Inhabited

/-- A solver with state `σ`. -/
structure Solver (σ : Type) where
  check : Context → σ → Except SmtError SatAnswer × σ
  rounds : Nat

namespace Solver

/-- A solver that gives the same answer to every question. Minimization with a satisfiable
answer would ask forever, so it is given two rounds: enough for one model. -/
def fixed (a : SatAnswer) : Solver Unit where
  check _ s := (.ok a, s)
  rounds := 2

/-- What a scripted solver keeps: the answers still to give, and a record of every call. -/
structure Script (ρ : Type) where
  answers : List (Context → SatAnswer)
  records : Array ρ := #[]

/-- A solver that gives the answers of a script in turn, and unsat once they are used up; an
answer may depend on the context it is asked about. Every call is recorded by `record`, which
also sees the record of the call before. -/
def scripted {ρ : Type} (record : Context → SatAnswer → Option ρ → ρ) (rounds : Nat) :
    Solver (Script ρ) where
  check ctx s :=
    let (next, rest) : (Context → SatAnswer) × List (Context → SatAnswer) := match s.answers with
      | [] => (fun _ => .unsat, [])
      | a :: r => (a, r)
    let answer := next ctx
    (.ok answer, { answers := rest, records := s.records.push (record ctx answer s.records.back?) })
  rounds := rounds

end Solver

abbrev Solve (σ : Type) := StateT σ Build

abbrev Verify (σ : Type) := ExceptT EncodingError (Solve σ)

instance {σ : Type} : MonadLift Encode (Verify σ) where
  monadLift x := ExceptT.mk (StateT.lift x.run)

namespace Verify

def call {σ : Type} (solver : Solver σ) : Verify σ SatAnswer := do
  let ctx ← getThe Context
  let (answer, s) := solver.check ctx (← getThe σ)
  set s
  match answer with
  | .ok a => pure a
  | .error e => throw (.smt e)

end Verify

/-- Header fields of the packet of the model: destination and protocol always, the source
address, ports and ICMP fields when not zero, and the set TCP flags. -/
def packetModel (s : Slice) (m : Model) : Except SmtError (NameMap String) := do
  let p := s.packet
  let word (t : Term) : Except SmtError Nat := do pure ((← m.evalInt t) % Int.pow 2 32).toNat
  let mut out : NameMap String := {}
  out := out.insert "dstIp" (Ip.ofNat (← word p.dstIp)).text
  let src ← m.evalInt p.srcIp
  if src != 0 then
    out := out.insert "srcIp" (Ip.ofNat (src % Int.pow 2 32).toNat).text
  for (name, t) in [("dstPort", p.dstPort), ("srcPort", p.srcPort), ("icmpCode", p.icmpCode),
      ("icmpType", p.icmpType)] do
    let v ← m.evalInt t
    if v != 0 then
      out := out.insert name (toString v)
  out := out.insert "ipProtocol" (toString (← m.evalInt p.ipProtocol))
  let names := ["tcpAck", "tcpCwr", "tcpEce", "tcpFin", "tcpPsh", "tcpRst", "tcpSyn", "tcpUrg"]
  for (name, t) in names.zip p.tcpFlags do
    if ← m.evalBool t then
      out := out.insert name "set"
  return out

/-- The attributes of a route in the model: its prefix towards the destination, the numeric
attributes it carries, its OSPF area and type when inside their domains, and the communities it
has (with an empty value). -/
def routeModel (r : Route) (dstIp : Term) (m : Model) : Except SmtError (NameMap String) := do
  let mut out : NameMap String := {}
  let len ← m.evalInt r.prefixLength
  let dst := Ip.ofNat ((← m.evalInt dstIp) % Int.pow 2 32).toNat
  out := out.insert "prefix" (Prefix.make dst (min (max len 0) 32).toNat).text
  for (name, t) in [("admin distance", r.adminDist), ("local preference", r.localPref),
      ("multi-exit disc.", r.med), ("protocol metric", some r.metric)] do
    if let some t := t then
      out := out.insert name (toString (← m.evalInt t))
  if let some area := r.ospfArea then
    if let some a ← area.decode m then
      out := out.insert "OSPF Area" (toString a)
  if let some ty := r.ospfType then
    if let some t ← ty.decode m then
      out := out.insert "OSPF Type" t.name
  for (c, t) in r.communities do
    if ← m.evalBool t then
      out := out.insert ("community " ++ c.value) ""
  return out

namespace Encoder

def counterexample (e : Encoder) (ctx : Context) (m : Model) : Except EncodingError VerificationResult := do
  let s := e.main
  let mut r : VerificationResult := {}
  if e.question.fullModel then
    for (name, v) in ctx.vars.toList do
      r := { r with model := r.model.insert name (← m.eval v).text }
  r := { r with packetModel := ← packetModel s m }
  for (id, route) in s.logical.environment do
    if ← m.evalBool route.permitted then
      let key := id.edge.router ++ "," ++ id.edge.start.name ++ " (" ++ id.proto.name ++ ")"
      r := { r with envModel := r.envModel.insert key (← routeModel route s.packet.dstIp m) }
  for (_, edges) in s.decisions.data.entries do
    for (ge, df) in edges do
      if ← m.evalBool df then
        r := { r with fwdModel := Ordered.insert compare ge.text r.fwdModel }
  for ((a, b), v) in e.failures.internal do
    if (← m.evalInt v) == 1 then
      r := { r with failures := Ordered.insert compare ("link(" ++ a ++ "," ++ b ++ ")") r.failures }
  for (ge, v) in e.failures.external do
    if (← m.evalInt v) == 1 then
      r := { r with failures := Ordered.insert compare ("link(" ++ ge.router ++ "," ++ ge.start.name ++ ")") r.failures }
  for (router, v) in e.failures.nodes do
    if (← m.evalInt v) == 1 then
      r := { r with failures := Ordered.insert compare ("node(" ++ router ++ ")") r.failures }
  return r

/-- Some route from outside that the model uses must be dropped, and no unused one added: over
the permission and community variables of the environment routes. -/
def minimizationClause (e : Encoder) (m : Model) : Encode Term := do
  let env := e.main.logical.environment
  let vars := env.map (·.2.permitted) ++ env.flatMap fun (_, r) => r.communities.map (·.2)
  let mut someDropped : List Term := []
  let mut noneAdded : List Term := []
  for x in vars do
    if ← m.evalBool x then
      someDropped := someDropped ++ [← Build.neg x]
    else
      noneAdded := noneAdded ++ [← Build.neg x]
  Build.both (← Build.anyOf someDropped) (← Build.allOf noneAdded)

def statistics {σ : Type} (e : Encoder) : Solve σ (Option VerificationStats) := do
  let ctx ← getThe Context
  let g := e.graph
  let stats : VerificationStats :=
    { numNodes := g.routers.length,
      numEdges := (g.routers.map fun r => (g.neighbors r).length).foldr (· + ·) 0,
      numVariables := ctx.numVariables, numConstraints := ctx.numConstraints }
  return if e.question.benchmark then some stats else none

def finish {σ : Type} (e : Encoder) (last : Option (VerificationResult × Model)) :
    Verify σ (VerificationResult × Option Model) := do
  let stats ← ExceptT.lift (@Encoder.statistics σ e)
  match last with
  | none => pure (VerificationResult.holds stats, none)
  | some (r, m) => pure ({ r with stats }, some m)

def solveLoop {σ : Type} (e : Encoder) (solver : Solver σ) :
    Nat → Option (VerificationResult × Model) → Verify σ (VerificationResult × Option Model)
  | 0, last => e.finish last
  | fuel + 1, last => do
    match ← Verify.call solver with
    | .unsat => e.finish last
    | .unknown reason => throw (.smt (.unknown reason))
    | .sat m =>
      let result ← liftM (e.counterexample (← getThe Context) m)
      if !e.question.minimize then
        e.finish (some (result, m))
      else
        let blocking ← liftM (e.minimizationClause m)
        Build.assert blocking
        solveLoop e solver fuel (some (result, m))
where
  liftM {α : Type} (x : Encode α) : Verify σ α := x

/-- Check the current context. If it is satisfiable, the result describes the model, which is
returned as well. With minimization, the solver is asked again for models that use fewer
routes from outside, until no smaller one exists. -/
def verify {σ : Type} (e : Encoder) (solver : Solver σ) : Verify σ (VerificationResult × Option Model) :=
  solveLoop e solver solver.rounds none

end Encoder
end ControlPlane
