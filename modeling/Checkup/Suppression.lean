import Checkup.Diagnostic
import Checkup.Glob
import Checkup.Json.Shape
import Checkup.Settings

/-!
# Suppression

A project's settings suppress diagnostics by rule and by file. What is left keeps its order.
-/

namespace Checkup.Suppression

/-- Whether one of the patterns matches the path; a backslash in the path counts as a slash. -/
def coversPath (patterns : List String) (path : String) : Bool :=
  let normal := String.ofList (Text.substitute '\\' '/' path.toList)
  patterns.any fun pattern => Glob.accepts pattern normal

/-- Whether one of the patterns matches the file of a diagnostic, which has to be a text. -/
def coversFile (patterns : List String) (file : Json) : Except ShapeFault Bool :=
  match file with
  | .text path => .ok (coversPath patterns path)
  | other => .error (.noOperation other.kindName "replace")

/-- Whether the settings suppress the diagnostic; the file is looked at only where the rule is not
suppressed. -/
def covers (settings : Settings) (d : Diagnostic) : Except ShapeFault Bool :=
  if settings.ignoredRules.contains d.ruleKey then .ok true
  else coversFile settings.ignoredFiles d.file

def remaining (settings : Settings) : List Diagnostic → Except ShapeFault (List Diagnostic)
  | [] => return []
  | d :: rest => do
    let covered ← covers settings d
    let others ← remaining settings rest
    return if covered then others else d :: others

end Checkup.Suppression
