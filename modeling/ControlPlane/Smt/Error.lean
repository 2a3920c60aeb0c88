/-!
# Errors of the term layer

Errors raised while evaluating terms, declaring variables and talking to a solver.
-/

namespace ControlPlane

/-- Errors of the term layer and of solvers. -/
inductive SmtError where
  | sortMismatch (term expected found : String)
  | unknown (reason : String)
  | backend (reason : String)
  | duplicateVariable (name : String)
  deriving DecidableEq, Repr, Inhabited

namespace SmtError

def kind : SmtError → String
  | .sortMismatch .. => "SortMismatch"
  | .unknown _ => "Unknown"
  | .backend _ => "Backend"
  | .duplicateVariable _ => "DuplicateVariable"

def message : SmtError → String
  | .sortMismatch t e f => "Term " ++ t ++ " expected sort " ++ e ++ ", but got " ++ f
  | .unknown r => "Solver returned unknown: " ++ r
  | .backend r => "Solver backend error: " ++ r
  | .duplicateVariable n => "Variable " ++ n ++ " is already declared"

end SmtError
end ControlPlane
