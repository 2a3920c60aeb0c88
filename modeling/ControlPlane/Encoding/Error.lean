import ControlPlane.Network.Error
import ControlPlane.Network.Address
import ControlPlane.Smt.Error

/-!
# Errors of the encoding

Errors raised while translating a network into terms. Errors of the network model and of the
term layer pass through unchanged.
-/

namespace ControlPlane

/-- Errors of the encoding. -/
inductive EncodingError where
  | unknownEnumValue (value domain : String)
  | missingRouterId (edge : String) (proto : Protocol)
  | unsupportedAclMatch (acl construct : String)
  | unsupportedConstruct (construct router : String) (proto : Protocol) (direction edge : String)
  | emptyFirstMatchChain (router : String)
  | missingVariable (what : String)
  | network (e : NetworkError)
  | smt (e : SmtError)
  deriving DecidableEq, Repr, Inhabited

namespace EncodingError

def kind : EncodingError → String
  | .unknownEnumValue .. => "UnknownEnumValue"
  | .missingRouterId .. => "MissingRouterId"
  | .unsupportedAclMatch .. => "UnsupportedAclMatch"
  | .unsupportedConstruct .. => "UnsupportedConstruct"
  | .emptyFirstMatchChain _ => "EmptyFirstMatchChain"
  | .missingVariable _ => "MissingVariable"
  | .network e => "Network." ++ e.kind
  | .smt e => "Smt." ++ e.kind

def message : EncodingError → String
  | .unknownEnumValue v d => "Value " ++ v ++ " is not part of the domain of " ++ d
  | .missingRouterId e p => "Cannot determine the router id of " ++ e ++ " for " ++ p.name
  | .unsupportedAclMatch a c => "Access list " ++ a ++ " uses an unsupported match: " ++ c
  | .unsupportedConstruct c r p d e =>
    "Unsupported construct " ++ c ++ " in " ++ d ++ " policy of " ++ r ++ " (" ++ p.name ++ ") on " ++ e
  | .emptyFirstMatchChain r => "Empty first-match chain in a policy of " ++ r
  | .missingVariable w => "Missing symbolic variable: " ++ w
  | .network e => e.message
  | .smt e => e.message

end EncodingError

instance : MonadLift (Except NetworkError) (Except EncodingError) where
  monadLift x := x.mapError .network

instance : MonadLift (Except SmtError) (Except EncodingError) where
  monadLift x := x.mapError .smt

end ControlPlane
