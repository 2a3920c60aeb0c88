import ControlPlane.Encoding.Transfer
import ControlPlane.Proofs.Smt.Builder

/-!
# Policies that call themselves

The compiler of transfer functions follows a call of a policy into the policy's statements with
no record of the policies it is already in. A policy whose first statement is a conditional on a
call of the policy itself therefore unfolds without end: at every bound on the nesting, its
evaluation reaches the bound (`self_call_rejected`), and a transfer function whose statements
start with such a call gives no formula (`self_calling_policy_never_compiles`).
-/

namespace ControlPlane
namespace TransferFunction

open Transfer

/-- Every run of the step under the transfer function `t`, from any route and context, fails with
the error `err`. -/
def Rejects {α : Type} (x : Eval α) (t : TransferFunction) (err : EncodingError) : Prop :=
  ∀ r c, (((x.run t).run r).runOn c).1 = .error err

def Stuck {α : Type} (x : Eval α) (t : TransferFunction) : Prop :=
  ∀ r, Encode.Returns ((x.run t).run r) fun _ => False

variable {α β : Type} {t : TransferFunction} {err : EncodingError}

theorem Rejects.bind {x : Eval α} {f : α → Eval β} (hx : Rejects x t err) : Rejects (x >>= f) t err := by
  intro r c
  simp only [ReaderT.run_bind, StateT.run_bind, Encode.runOn_bind]
  have h := hx r c
  rcases hrun : ((x.run t).run r).runOn c with ⟨v, c'⟩
  rw [hrun] at h
  cases h
  rfl

theorem Rejects.read_bind {f : TransferFunction → Eval α} (h : Rejects (f t) t err) :
    Rejects (read >>= f) t err := h

theorem Rejects.stuck {x : Eval α} (h : Rejects x t err) : Stuck x t := fun r c a ha => by
  rw [h r c] at ha
  cases ha

theorem Stuck.bind {x : Eval α} {f : α → Eval β} (hf : ∀ a, Stuck (f a) t) : Stuck (x >>= f) t := by
  intro r
  simp only [ReaderT.run_bind, StateT.run_bind]
  exact Encode.Returns.bind (P := fun _ => True) (fun _ _ _ => trivial) fun p _ => hf p.1 p.2

theorem rejects_tooDeep : Rejects (tooDeep : Eval α) t (t.unsupported "nesting too deep") :=
  fun _ _ => rfl

variable {name : String} {pol : RoutingPolicy} {ts₀ fs₀ rest₀ : List Statement}

/-- A policy whose first statement is a conditional on a call of the policy itself cannot be
evaluated at any bound on the nesting: calling it, running statements that start by calling it,
and a conditional on a call of it all stop with the nesting error. Each call goes one level down
through the conditional and its guard, so the induction is on the bound, the three together. -/
theorem self_call_rejected (hpol : t.conf.routingPolicies.get? name = some pol)
    (hs : pol.statements = .ite (.callExpr name) ts₀ fs₀ :: rest₀) (fuel : Nat) :
    (∀ p, Rejects (evalExpr fuel (.callExpr name) p) t (t.unsupported "nesting too deep")) ∧
    (∀ ts fs rest p input,
      Rejects (evalStatements fuel (.ite (.callExpr name) ts fs :: rest) p input) t (t.unsupported "nesting too deep")) ∧
    (∀ ts fs p cur, Rejects (evalIf fuel (.callExpr name) ts fs p cur) t (t.unsupported "nesting too deep")) := by
  induction fuel with
  | zero =>
    refine ⟨fun p => ?_, fun ts fs rest p input => ?_, fun ts fs p cur => ?_⟩
    · rw [evalExpr]
      exact rejects_tooDeep
    · rw [evalStatements]
      exact rejects_tooDeep
    · rw [evalIf]
      exact rejects_tooDeep
  | succ n ih =>
    obtain ⟨hexpr, hstmts, hif⟩ := ih
    refine ⟨fun p => ?_, fun ts fs rest p input => ?_, fun ts fs p cur => ?_⟩
    · -- the call runs the policy's own statements, one level down
      rw [evalExpr]
      refine Rejects.read_bind ?_
      simp only [hpol, pure_bind, hs]
      exact hstmts ts₀ fs₀ rest₀ _ _
    · -- the first statement is the conditional
      rw [evalStatements]
      simp only [List.forIn_cons]
      exact Rejects.read_bind (Rejects.bind (Rejects.bind (Rejects.bind (hif ts fs p input))))
    · -- the conditional evaluates its guard first
      rw [evalIf]
      exact Rejects.bind (hexpr p.deeper)

/-- A policy whose first statement is a conditional on a call of the policy itself never
compiles: no bound on the nesting is enough to evaluate a call of it, and the transfer function
of statements that start with a conditional on such a call gives no formula in any context. -/
theorem self_calling_policy_never_compiles (hpol : t.conf.routingPolicies.get? name = some pol)
    (hs : pol.statements = .ite (.callExpr name) ts₀ fs₀ :: rest₀) :
    (∀ fuel p, Rejects (evalExpr fuel (.callExpr name) p) t (t.unsupported "nesting too deep")) ∧
    (∀ ts fs rest, t.statements = .ite (.callExpr name) ts fs :: rest →
      ∀ c, ∃ err, (t.compute.runOn c).1 = .error err) := by
  refine ⟨fun fuel => (self_call_rejected hpol hs fuel).1, fun ts fs rest ht c => ?_⟩
  have hbody : Stuck (evalStatements maxDepth t.statements {} {} >>= fun r => pure r.returnValue) t := by
    rw [ht]
    exact ((self_call_rejected hpol hs maxDepth).2.1 ts fs rest {} {}).bind.stuck
  -- the steps before the statements may fail or not; the statements never return
  have hrun : Encode.Returns t.compute fun _ => False := by
    unfold compute
    refine Encode.Returns.bind (P := fun _ => False) ?_ fun _ h => h.elim
    refine Stuck.bind (fun _ => Stuck.bind fun _ => Stuck.bind fun d => ?_) t.other
    extract_lets jp
    split
    · exact Stuck.bind fun _ => hbody
    · exact hbody
  rcases hc : (t.compute.runOn c).1 with err | v
  · exact ⟨err, rfl⟩
  · exact (hrun c v hc).elim

/-- A policy `LOOP` whose only statement is a conditional on a call of `LOOP`, and the import
transfer function of a conditional on a call of it. -/
def loopTransfer : TransferFunction where
  slice := default
  env := default
  conf := { hostname := "R1",
            routingPolicies := ⟨[("LOOP", ⟨"LOOP", [.ite (.callExpr "LOOP") [.returnTrue] [.returnFalse]]⟩)]⟩ }
  other := default
  current := default
  proto := .bgp
  statements := [.ite (.callExpr "LOOP") [.returnTrue] [.returnFalse]]
  cost := 0
  edge := default
  isExport := false

theorem loop_policy_never_compiles :
    loopTransfer.conf.routingPolicies.get? "LOOP" =
      some ⟨"LOOP", [.ite (.callExpr "LOOP") [.returnTrue] [.returnFalse]]⟩ ∧
    ((∀ fuel p, Rejects (evalExpr fuel (.callExpr "LOOP") p) loopTransfer
        (loopTransfer.unsupported "nesting too deep")) ∧
      ∀ ts fs rest, loopTransfer.statements = .ite (.callExpr "LOOP") ts fs :: rest →
        ∀ c, ∃ err, (loopTransfer.compute.runOn c).1 = .error err) :=
  have hpol : loopTransfer.conf.routingPolicies.get? "LOOP" =
      some ⟨"LOOP", [.ite (.callExpr "LOOP") [.returnTrue] [.returnFalse]]⟩ := rfl
  ⟨hpol, self_calling_policy_never_compiles hpol rfl⟩

end TransferFunction
end ControlPlane
