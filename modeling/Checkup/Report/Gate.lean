import Checkup.Diagnostic
import Checkup.Settings

/-!
# The gate

Whether findings make a run fail, by the level at which they do.
-/

namespace Checkup.FailOn

def fails (level : FailOn) (diagnostics : List Diagnostic) : Bool :=
  match level with
  | error => diagnostics.any (·.isError)
  | warning => !diagnostics.isEmpty
  | never => false

end Checkup.FailOn
