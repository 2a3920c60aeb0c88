import ControlPlane.Check.Error
import ControlPlane.Text.Regex

/-!
# Name patterns

Questions select routers and interfaces by a pattern that must match the whole name and an
excluding pattern. The empty name is never selected.
-/

namespace ControlPlane

/-- A pattern that a name must match, and one it must not match. -/
structure PatternMatch where
  wanted : Regex
  unwanted : Regex
  deriving Inhabited

namespace PatternMatch

def wholeName (pattern : String) : Except QueryError Regex :=
  match Regex.compile ("^(?:" ++ pattern ++ ")$") with
  | .ok r => .ok r
  | .error e => .error (.invalidRegex e)

def make (inc exc : String) : Except QueryError PatternMatch := do
  pure ⟨← wholeName inc, ← wholeName exc⟩

def admits (p : PatternMatch) (name : String) : Bool :=
  !name.isEmpty && p.wanted.search name && !p.unwanted.search name

end PatternMatch
end ControlPlane
