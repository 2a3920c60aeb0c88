import ControlPlane.Text.Regex.Parse
import ControlPlane.Text.Regex.Size
import ControlPlane.Text.Regex.Match

/-!
# Regular expressions

A pattern is accepted when it reads completely (`Regex.parse`) and both programs that search
with it fit within the size limit (`Regex.Size.fits`); it then matches a text when it matches
somewhere in it (`Regex.search`).
-/

namespace ControlPlane
namespace Regex

def compile (pattern : String) : Except String Regex := do
  let r ← parse pattern
  if Size.fits r then pure r else throw "compiled pattern too large"

end Regex
end ControlPlane
