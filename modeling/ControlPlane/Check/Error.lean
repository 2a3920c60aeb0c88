import ControlPlane.Encoding.Error

/-!
# Errors of verification

A question can be ill-posed for a network (`QueryError`); verification as a whole fails with an
error of the term layer, of the network model, of the encoding or of the question.
-/

namespace ControlPlane

/-- Errors of ill-posed questions. -/
inductive QueryError where
  | noDestinations
  | noSources
  | mismatchedInterfaces (r1 r2 : String)
  | mismatchedProtocols (r1 r2 iface : String)
  | oneSidedEnvironment (edge : String)
  | negatedMultipath
  | invalidRegex (reason : String)
  deriving DecidableEq, Repr, Inhabited

namespace QueryError

def kind : QueryError → String
  | .noDestinations => "NoDestinations"
  | .noSources => "NoSources"
  | .mismatchedInterfaces .. => "MismatchedInterfaces"
  | .mismatchedProtocols .. => "MismatchedProtocols"
  | .oneSidedEnvironment _ => "OneSidedEnvironment"
  | .negatedMultipath => "NegatedMultipath"
  | .invalidRegex _ => "InvalidRegex"

def message : QueryError → String
  | .noDestinations => "Set of valid destination interfaces is empty"
  | .noSources => "Set of valid ingress nodes is empty"
  | .mismatchedInterfaces a b => "Routers " ++ a ++ " and " ++ b ++ " have different interfaces"
  | .mismatchedProtocols a b i => "Routers " ++ a ++ " and " ++ b ++ " run different protocols on interface " ++ i
  | .oneSidedEnvironment e => "Environment route on " ++ e ++ " has no counterpart"
  | .negatedMultipath => "Negation is not supported for multipath consistency"
  | .invalidRegex r => "Invalid pattern: " ++ r

end QueryError

/-- Errors of verification. -/
inductive VerifyError where
  | smt (e : SmtError)
  | network (e : NetworkError)
  | encoding (e : EncodingError)
  | query (e : QueryError)
  deriving DecidableEq, Repr, Inhabited

namespace VerifyError

def kind : VerifyError → String
  | .smt e => "SmtError." ++ e.kind
  | .network e => "NetworkError." ++ e.kind
  | .encoding e => "EncodingError." ++ e.kind
  | .query e => "QueryError." ++ e.kind

def message : VerifyError → String
  | .smt e => "SMT Error: " ++ e.message
  | .network e => "Network Error: " ++ e.message
  | .encoding e => "Encoding Error: " ++ e.message
  | .query e => "Query Error: " ++ e.message

end VerifyError
end ControlPlane
