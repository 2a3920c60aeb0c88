import ControlPlane.Smt.Context
import ControlPlane.Encoding.Error

/-!
# Encoding steps

An encoding step extends a context with variables and assertions and may fail. A failed step
keeps what it added before the failure, so the state sits below the error.
-/

namespace ControlPlane

abbrev Encode := ExceptT EncodingError Build

instance : MonadLift (Except NetworkError) Encode where
  monadLift
    | .ok a => pure a
    | .error e => throw (.network e)

instance : MonadLift (Except SmtError) Encode where
  monadLift
    | .ok a => pure a
    | .error e => throw (.smt e)

instance : MonadLift (Except EncodingError) Encode where
  monadLift
    | .ok a => pure a
    | .error e => throw e

namespace Encode

def need {α : Type} (e : EncodingError) : Option α → Encode α
  | some a => pure a
  | none => throw e

def runOn {α : Type} (x : Encode α) (c : Context) : Except EncodingError α × Context := x.run.run c

end Encode
end ControlPlane
