import Checkup.ReducedMotion
import Checkup.Suppression

/-!
# Putting the findings together

The findings of the linter come first, then those of the dead-code tool, then those of the built-in
check, which looks at whole projects only. What the settings suppress is left out, and the order is
kept.
-/

namespace Checkup

/-- The component files among the paths of a limited scan; no paths at all mean no limit. -/
def componentPaths (paths : List String) : Option (List String) :=
  if paths.isEmpty then none else some (paths.filter SourceFile.isComponent)

def unsuppressed (settings : Option Settings) (found : List Diagnostic) :
    Except ShapeFault (List Diagnostic) :=
  match settings with
  | none => .ok found
  | some settings => Suppression.remaining settings found

def combine (lint deadCode : List Diagnostic) (directory : Path) (limited : Bool)
    (settings : Option Settings) (builtin : Path → Run (List Diagnostic)) :
    Run (List Diagnostic) := do
  let own ← if limited then pure [] else builtin directory
  match unsuppressed settings (lint ++ deadCode ++ own) with
  | .ok found => return found
  | .error fault => throw (.shape fault)

end Checkup
